import CashuService.Credit.Coherent
import CashuService.Credit.Step
set_option autoImplicit false

namespace CashuService

/-- Later states of a settlement: only a pending one may still be decided. -/
structure SettlementRecord.Follows (x y : SettlementRecord) : Prop where
  request : y.request = x.request
  authorization : y.authorization = x.authorization
  state : x.state = .pending ∨ y.state = x.state

theorem SettlementRecord.Follows.refl (x : SettlementRecord) : x.Follows x := ⟨rfl, rfl, .inr rfl⟩

theorem SettlementRecord.Follows.trans {x y z : SettlementRecord} (h : x.Follows y)
    (h' : y.Follows z) : x.Follows z := by
  refine ⟨h'.request.trans h.request, h'.authorization.trans h.authorization, ?_⟩
  rcases h.state with hp | hy
  · exact .inl hp
  · rcases h'.state with hp | hz
    · exact .inl (hy ▸ hp)
    · exact .inr (hz.trans hy)

/-- The account `b` is a later state of `a`: everything `a` recorded is in `b` unchanged, up to
settlements that were decided since. -/
structure CreditAccount.Grows (a b : CreditAccount) : Prop where
  revision : a.revision.toNat ≤ b.revision.toNat
  relationship : b.relationship = a.relationship
  maxTotal : b.maxTotalPeerCreditSat = a.maxTotalPeerCreditSat
  receipts : b.appliedReceipts.Extends a.appliedReceipts
  novations : b.novations.Extends a.novations
  deposits : b.backingDeposits.Extends a.backingDeposits
  backed : b.backedSettlements.Extends a.backedSettlements
  consumptions : b.closedLoopConsumptions.Extends a.closedLoopConsumptions
  settlements : a.settlements.Each fun k x => ∃ y, b.settlements[k]? = some y ∧ x.Follows y

namespace CreditAccount

variable {a b c : CreditAccount}

theorem Grows.refl (a : CreditAccount) : a.Grows a :=
  ⟨le_rfl, rfl, rfl, .refl _, .refl _, .refl _, .refl _, .refl _,
    fun _ x h => ⟨x, h, .refl x⟩⟩

theorem Grows.trans (h : a.Grows b) (h' : b.Grows c) : a.Grows c := by
  refine ⟨h.revision.trans h'.revision, h'.relationship.trans h.relationship,
    h'.maxTotal.trans h.maxTotal, h.receipts.trans h'.receipts, h.novations.trans h'.novations,
    h.deposits.trans h'.deposits, h.backed.trans h'.backed,
    h.consumptions.trans h'.consumptions, ?_⟩
  intro k x hx
  obtain ⟨y, hy, hxy⟩ := h.settlements k x hx
  obtain ⟨z, hz, hyz⟩ := h'.settlements k y hy
  exact ⟨z, hz, hxy.trans hyz⟩

theorem Grows.issuers (h : a.Grows b) (i : String) : i ∈ b.issuers ↔ i ∈ a.issuers :=
  Set.ext_iff.mp (congrArg Relationship.issuers h.relationship) i

theorem relationship_of_posted {entries : List (String × Movement)}
    (hcounterparty : b.counterparty = a.counterparty)
    (h : Posted a.issuers entries b.issuers) : b.relationship = a.relationship := by
  simp only [relationship, hcounterparty, h.mem_iff]

theorem settlements_insert {m : BTreeMap String SettlementRecord} {k : String}
    (x : SettlementRecord) (h : m[k]? = none) :
    m.Each fun j y => ∃ z, (m.insert k x)[j]? = some z ∧ y.Follows z :=
  fun j y hy => ⟨y, BTreeMap.Extends.insert x h j y hy, .refl y⟩

theorem settlements_decide {m : BTreeMap String SettlementRecord} {k : String}
    {x : SettlementRecord} {state : SettlementState} (h : m[k]? = some x)
    (hp : x.state = .pending) :
    m.Each fun j y => ∃ z, (m.modify k fun w => { w with state })[j]? = some z ∧
      y.Follows z := by
  intro j y hy
  by_cases hj : k = j
  · subst j
    rw [h, Option.some.injEq] at hy
    subst hy
    exact ⟨{ x with state }, by simp [h], rfl, rfl, .inl hp⟩
  · exact ⟨y, by rw [BTreeMap.getElem?_modify_ne m _ hj, hy], .refl y⟩

theorem settlements_refl (m : BTreeMap String SettlementRecord) :
    m.Each fun j y => ∃ z, m[j]? = some z ∧ y.Follows z :=
  fun _ y h => ⟨y, h, .refl y⟩

end CreditAccount

open CreditAccount

theorem Applied.grows {a a' : CreditAccount} {op : Operation} {r : Response}
    (h : Applied a op r a') : a.Grows a' := by
  cases h with
  | deposit valid fresh next posted =>
    exact ⟨by simp only [next]; omega, relationship_of_posted rfl posted, rfl, .refl _, .refl _,
      .insert _ fresh, .refl _, .refl _, settlements_refl _⟩
  | receipt fresh valid next online posted sum cap =>
    exact ⟨by simp only [next]; omega, relationship_of_posted rfl posted, rfl, .insert _ fresh,
      .refl _, .refl _, .refl _, .refl _, settlements_refl _⟩
  | novation fresh valid next posted =>
    exact ⟨by simp only [next]; omega, relationship_of_posted rfl posted, rfl, .refl _,
      .insert _ fresh, .refl _, .refl _, .refl _, settlements_refl _⟩
  | backed fresh valid next posted sum =>
    exact ⟨by simp only [next]; omega, relationship_of_posted rfl posted, rfl, .refl _, .refl _,
      .refl _, .insert _ fresh, .refl _, settlements_refl _⟩
  | consumption valid fresh next posted =>
    exact ⟨by simp only [next]; omega, relationship_of_posted rfl posted, rfl, .refl _, .refl _,
      .refl _, .refl _, .insert _ fresh, settlements_refl _⟩
  | authorization fresh valid next reserve posted =>
    exact ⟨by simp only [next]; omega, relationship_of_posted rfl posted, rfl, .refl _, .refl _,
      .refl _, .refl _, .refl _, settlements_insert _ fresh⟩
  | completion stored state fits next posted =>
    exact ⟨by simp only [next]; omega, relationship_of_posted rfl posted, rfl, .refl _, .refl _,
      .refl _, .refl _, .refl _, settlements_decide stored state⟩
  | cancellation stored state next posted =>
    exact ⟨by simp only [next]; omega, relationship_of_posted rfl posted, rfl, .refl _, .refl _,
      .refl _, .refl _, .refl _, settlements_decide stored state⟩

theorem Applied.revision_eq {a a' : CreditAccount} {op : Operation} {r : Response}
    (h : Applied a op r a') : a'.revision.toNat = a.revision.toNat + 1 := by
  cases h <;> assumption

theorem Operation.exec_grows (op : Operation) (a : CreditAccount) : a.Grows (op.exec a) := by
  rcases op.exec_cases a with h | ⟨r, _, happlied⟩
  · rw [h]
    exact .refl a
  · exact happlied.grows

theorem CreditAccount.after_grows (a : CreditAccount) (ops : List Operation) :
    a.Grows (a.after ops) := by
  induction ops generalizing a with
  | nil => exact .refl a
  | cons op ops ih => exact (op.exec_grows a).trans (ih (op.exec a))

theorem CreditAccount.after_append (a : CreditAccount) (ops ops' : List Operation) :
    a.after (ops ++ ops') = (a.after ops).after ops' := by
  simp [after]

end CashuService
