import CashuService.Base.StepRun
set_option autoImplicit false

namespace CashuService

/-! A balance of which a part is marked. What is taken out may come from the marked part or from
the rest, in any proportion; one number bounds what can still be marked. -/

inductive Posting (M : Type) where
  | add (amount : M) (marked : Bool)
  | take (amount : M)
  deriving DecidableEq, Repr

/-- The marked part of a balance and the rest of it. -/
@[ext] structure Split (M : Type) where
  rest : M
  marked : M
  deriving DecidableEq, Repr

@[ext] structure Clamped (M : Type) where
  total : M
  bound : M
  deriving DecidableEq, Repr

variable {M : Type} [AddCommMonoid M]

/-- One way of booking an entry. What is taken out falls into two parts, each taken from what is
there of it. -/
inductive Split.Books (s : Split M) : Posting M → Split M → Prop where
  | plain {amount : M} : Books s (.add amount false) ⟨s.rest + amount, s.marked⟩
  | marked {amount : M} : Books s (.add amount true) ⟨s.rest, s.marked + amount⟩
  | take {rest marked fromRest fromMarked : M} (hrest : rest + fromRest = s.rest)
      (hmarked : marked + fromMarked = s.marked) :
      Books s (.take (fromRest + fromMarked)) ⟨rest, marked⟩

variable [LinearOrder M]

/-- The bound grows with what is marked and is clamped to the balance. -/
inductive Clamped.Books (c : Clamped M) : Posting M → Clamped M → Prop where
  | plain {amount : M} : Books c (.add amount false) ⟨c.total + amount, c.bound⟩
  | marked {amount : M} : Books c (.add amount true) ⟨c.total + amount, c.bound + amount⟩
  | take {total amount : M} (htotal : total + amount = c.total) :
      Books c (.take amount) ⟨total, min c.bound total⟩

structure Split.Within (s : Split M) (c : Clamped M) : Prop where
  total : s.rest + s.marked = c.total
  bound : s.marked ≤ c.bound

/-- The split is one of the balance, with as much marked as the bound says. -/
structure Split.Attains (s : Split M) (c : Clamped M) : Prop where
  total : s.rest + s.marked = c.total
  bound : s.marked = c.bound

variable [IsOrderedCancelAddMonoid M] [CanonicallyOrderedAdd M] {s s' : Split M} {c c' : Clamped M}
  {p : Posting M} {ps : List (Posting M)}

theorem Split.Within.books (h : s.Within c) (hs : s.Books p s') (hc : c.Books p c') :
    s'.Within c' := by
  obtain ⟨htotal, hbound⟩ := h
  cases hs with
  | plain =>
    cases hc
    exact ⟨by rw [← htotal, add_right_comm], hbound⟩
  | marked =>
    cases hc
    exact ⟨by rw [← htotal, add_assoc], add_le_add_left hbound _⟩
  | @take rest marked fromRest fromMarked hrest hmarked =>
    cases hc with
    | @take total _ hleft =>
      have hsum : rest + marked = total := by
        have hboth : rest + marked + (fromRest + fromMarked) = total + (fromRest + fromMarked) := by
          rw [hleft, ← htotal, ← hrest, ← hmarked, add_add_add_comm]
        exact add_right_cancel hboth
      have hless : marked ≤ s.marked := hmarked ▸ le_self_add
      exact ⟨hsum, le_min (hless.trans hbound) (hsum ▸ le_add_self)⟩

theorem Split.Attains.books (h : s.Attains c) (hc : c.Books p c') :
    ∃ s' : Split M, s.Books p s' ∧ s'.Attains c' := by
  obtain ⟨htotal, hbound⟩ := h
  cases hc with
  | plain => exact ⟨_, .plain, by rw [← htotal, add_right_comm], hbound⟩
  | marked => exact ⟨_, .marked, by rw [← htotal, add_assoc], by rw [hbound]⟩
  | @take total amount hleft =>
    rcases le_total c.bound total with hle | hle
    · obtain ⟨rest, hrest⟩ := exists_add_of_le hle
      have hfrom : rest + amount = s.rest := by
        have hboth : rest + amount + c.bound = s.rest + c.bound := by
          rw [← hbound, htotal, ← hleft, hrest, hbound, add_right_comm, add_comm rest]
        exact add_right_cancel hboth
      have hbooks := Split.Books.take hfrom (add_zero s.marked)
      rw [add_zero] at hbooks
      exact ⟨_, hbooks, by rw [hbound, hrest, add_comm], by rw [hbound, min_eq_left hle]⟩
    · obtain ⟨fromMarked, hmarked⟩ := exists_add_of_le hle
      have hfrom : s.rest + fromMarked = amount := by
        have hboth : s.rest + fromMarked + total = amount + total := by
          rw [add_comm amount, hleft, ← htotal, hbound, hmarked, add_assoc, add_comm fromMarked]
        exact add_right_cancel hboth
      have hbooks := Split.Books.take (zero_add s.rest) (hmarked.symm.trans hbound.symm)
      rw [hfrom] at hbooks
      exact ⟨_, hbooks, zero_add total, (min_eq_right hle).symm⟩

theorem Clamped.bound_isGreatest (h : StepRun Clamped.Books ⟨0, 0⟩ ps c) :
    IsGreatest {marked | ∃ rest, StepRun Split.Books ⟨0, 0⟩ ps ⟨rest, marked⟩} c.bound := by
  constructor
  · have hstep : ∀ (c : Clamped M) (s : Split M) p c', s.Attains c → c.Books p c' →
        ∃ s' : Split M, s.Books p s' ∧ s'.Attains c' := fun _ _ _ _ => Split.Attains.books
    have hstart : (⟨0, 0⟩ : Split M).Attains ⟨0, 0⟩ := ⟨add_zero 0, rfl⟩
    obtain ⟨s, hrun, hattains⟩ := StepRun.simulated hstep h hstart
    exact ⟨s.rest, hattains.bound ▸ hrun⟩
  · intro marked hmarked
    obtain ⟨rest, hrun⟩ := hmarked
    have hstep : ∀ (s : Split M) (c : Clamped M) p s' c', s.Within c → s.Books p s' →
        c.Books p c' → s'.Within c' := fun _ _ _ _ _ => Split.Within.books
    have hstart : (⟨0, 0⟩ : Split M).Within ⟨0, 0⟩ := ⟨add_zero 0, le_rfl⟩
    exact (StepRun.related hstep hrun h hstart).bound

end CashuService
