import Mathlib
set_option autoImplicit false

namespace CashuService

/-! Threads that share a state. A thread takes one atomic step after the other, each with an answer
of its surroundings, and may be stopped between any two. -/

/-- A step without an effect in a state waits there. -/
inductive Thread (ρ σ α : Type) where
  | done (a : α)
  | act (effect : ρ → σ → Option σ) (next : ρ → σ → Thread ρ σ α)

inductive Move (ι ρ : Type) where
  | act (i : ι) (answer : ρ)
  | stop (i : ι)

def Move.thread {ι ρ : Type} : Move ι ρ → ι
  | .act i _ => i
  | .stop i => i

structure Pool (ι ρ σ α : Type) where
  state : σ
  threads : ι → Option (Thread ρ σ α)

section

variable {ι ρ σ γ α β ε ε' : Type}

namespace Thread

def bind : Thread ρ σ α → (α → Thread ρ σ β) → Thread ρ σ β
  | .done a, f => f a
  | .act effect next, f => .act effect fun r s => (next r s).bind f

instance : Monad (Thread ρ σ) where
  pure := .done
  bind := Thread.bind

def atomic (effect : ρ → σ → Option σ) (result : ρ → σ → α) : Thread ρ σ α :=
  .act effect fun r s => .done (result r s)

end Thread

namespace Pool

def ended (p : Pool ι ρ σ α) (i : ι) : Option α :=
  match p.threads i with
  | some (.done a) => some a
  | _ => none

theorem ended_eq_some {p : Pool ι ρ σ α} {i : ι} {a : α} :
    p.ended i = some a ↔ p.threads i = some (.done a) := by
  unfold ended
  split
  · rename_i h
    simp [h]
  · rename_i h
    exact ⟨nofun, fun ha => absurd ha (h a)⟩

variable [DecidableEq ι]

/-- `release` is what becomes of the state when a thread is stopped. -/
def move (release : ι → σ → σ) (p : Pool ι ρ σ α) : Move ι ρ → Option (Pool ι ρ σ α)
  | .act i r =>
    match p.threads i with
    | some (.act effect next) => (effect r p.state).map fun s =>
        ⟨s, Function.update p.threads i (some (next r p.state))⟩
    | _ => none
  | .stop i => some ⟨release i p.state, Function.update p.threads i none⟩

def run (release : ι → σ → σ) (p : Pool ι ρ σ α) (moves : List (Move ι ρ)) :
    Option (Pool ι ρ σ α) :=
  moves.foldlM (move release) p

theorem move_threads {release : ι → σ → σ} {p p' : Pool ι ρ σ α} {m : Move ι ρ} {j : ι}
    (h : p.move release m = some p') (hj : j ≠ m.thread) : p'.threads j = p.threads j := by
  cases m with
  | stop i =>
    obtain rfl := Option.some.inj h
    exact Function.update_of_ne hj _ _
  | act i r =>
    simp only [move] at h
    split at h
    · obtain ⟨s, -, rfl⟩ := Option.map_eq_some_iff.mp h
      exact Function.update_of_ne hj _ _
    · cases h

end Pool

/-- `inv` holds at all times, and `guar i` of every step of the thread `i`. -/
structure Protocol (ι σ γ : Type) where
  release : ι → σ → σ
  inv : σ × γ → Prop
  guar : ι → σ × γ → σ × γ → Prop
  idle : ∀ i w, inv w → guar i w w
  stops : ∀ i w, inv w → inv (release i w.1, w.2) ∧ guar i w (release i w.1, w.2)

namespace Protocol

variable (P : Protocol ι σ γ) (i : ι)

/-- What the other threads may do while `i` does nothing. -/
def Others : σ × γ → σ × γ → Prop :=
  Relation.ReflTransGen fun u v => P.inv u ∧ P.inv v ∧ ∃ j, j ≠ i ∧ P.guar j u v

def Stable (A : σ × γ → Prop) : Prop :=
  ∀ j, j ≠ i → ∀ u v, P.inv u → P.inv v → P.guar j u v → A u → A v

/-- Every step of the thread keeps the protocol, and its result satisfies `post`. -/
def Keeps (post : α → σ × γ → Prop) : Thread ρ σ α → σ × γ → Prop
  | .done a, w => post a w
  | .act effect next, w => ∀ w', P.Others i w w' → P.inv w' → ∀ r s, effect r w'.1 = some s →
      ∃ g, P.inv (s, g) ∧ P.guar i w' (s, g) ∧ Keeps post (next r w'.1) (s, g)

def outcomes (err : ε → σ × γ → Prop) (ok : α → σ × γ → Prop) : Except ε α → σ × γ → Prop
  | .ok a => ok a
  | .error e => err e

def Tries (x : ExceptT ε (Thread ρ σ) α) (w : σ × γ) (err : ε → σ × γ → Prop)
    (ok : α → σ × γ → Prop) : Prop :=
  P.Keeps i (outcomes err ok) x.run w

variable {P} {i} {w w' : σ × γ} {A : σ × γ → Prop} {post : α → σ × γ → Prop}

theorem Stable.others (h : P.Stable i A) (hw : P.Others i w w') (ha : A w) : A w' := by
  induction hw with
  | refl => exact ha
  | tail _ hlast ih =>
    obtain ⟨hu, hv, j, hj, hguar⟩ := hlast
    exact h j hj _ _ hu hv hguar ih

theorem Stable.true : P.Stable i fun _ => True := fun _ _ _ _ _ _ _ _ => trivial

theorem Stable.and {B : σ × γ → Prop} (ha : P.Stable i A) (hb : P.Stable i B) :
    P.Stable i fun w => A w ∧ B w :=
  fun j hj u v hu hv hguar h =>
    ⟨ha j hj u v hu hv hguar h.1, hb j hj u v hu hv hguar h.2⟩

theorem Stable.exists {τ : Type} {A : τ → σ × γ → Prop} (h : ∀ a, P.Stable i (A a)) :
    P.Stable i fun w => ∃ a, A a w := by
  rintro j hj u v hu hv hguar ⟨a, ha⟩
  exact ⟨a, h a j hj u v hu hv hguar ha⟩

namespace Keeps

theorem others {t : Thread ρ σ α} (hpost : ∀ a, P.Stable i (post a)) (h : P.Keeps i post t w)
    (hw : P.Others i w w') : P.Keeps i post t w' := by
  cases t with
  | done a => exact (hpost a).others hw h
  | act effect next => exact fun w'' hw'' => h w'' (hw.trans hw'')

theorem imp {t : Thread ρ σ α} {post' : α → σ × γ → Prop} (h : P.Keeps i post t w)
    (himp : ∀ a w, post a w → post' a w) : P.Keeps i post' t w := by
  induction t generalizing w with
  | done a => exact himp a w h
  | act effect next ih =>
    intro w' hw' hinv r s hs
    obtain ⟨g, hinv', hguar, hnext⟩ := h w' hw' hinv r s hs
    exact ⟨g, hinv', hguar, ih r w'.1 hnext⟩

theorem frame {t : Thread ρ σ α} {R : σ × γ → Prop}
    (hR : ∀ j u v, P.inv u → P.inv v → P.guar j u v → R u → R v) (h : P.Keeps i post t w)
    (hr : R w) : P.Keeps i (fun a w => post a w ∧ R w) t w := by
  induction t generalizing w with
  | done a => exact ⟨h, hr⟩
  | act effect next ih =>
    intro w' hw' hinv r s hs
    obtain ⟨g, hinv', hguar, hnext⟩ := h w' hw' hinv r s hs
    have hr' := Stable.others (i := i) (fun j _ => hR j) hw' hr
    exact ⟨g, hinv', hguar, ih r w'.1 hnext (hR i w' (s, g) hinv hinv' hguar hr')⟩

theorem bind {t : Thread ρ σ α} {f : α → Thread ρ σ β} {post' : β → σ × γ → Prop}
    (h : P.Keeps i (fun a w => P.Keeps i post' (f a) w) t w) :
    P.Keeps i post' (t.bind f) w := by
  induction t generalizing w with
  | done a => exact h
  | act effect next ih =>
    intro w' hw' hinv r s hs
    obtain ⟨g, hinv', hguar, hnext⟩ := h w' hw' hinv r s hs
    exact ⟨g, hinv', hguar, ih r w'.1 hnext⟩

theorem atomic {effect : ρ → σ → Option σ} {result : ρ → σ → α}
    (h : ∀ w', P.Others i w w' → P.inv w' → ∀ r s, effect r w'.1 = some s →
      ∃ g, P.inv (s, g) ∧ P.guar i w' (s, g) ∧ post (result r w'.1) (s, g)) :
    P.Keeps i post (Thread.atomic effect result) w := h

end Keeps

namespace Tries

variable {err : ε → σ × γ → Prop} {ok : α → σ × γ → Prop} {ok' : β → σ × γ → Prop}

protected theorem pure {a : α} (h : ok a w) :
    P.Tries i (pure a : ExceptT ε (Thread ρ σ) α) w err ok := h

protected theorem throw {e : ε} (h : err e w) :
    P.Tries i (throw e : ExceptT ε (Thread ρ σ) α) w err ok := h

protected theorem imp {x : ExceptT ε (Thread ρ σ) α} {err' : ε → σ × γ → Prop}
    {ok'' : α → σ × γ → Prop} (h : P.Tries i x w err ok) (he : ∀ e w, err e w → err' e w)
    (ho : ∀ a w, ok a w → ok'' a w) : P.Tries i x w err' ok'' := by
  refine Keeps.imp h fun r w hr => ?_
  cases r with
  | ok a => exact ho a w hr
  | error e => exact he e w hr

protected theorem frame {x : ExceptT ε (Thread ρ σ) α} {R : σ × γ → Prop}
    (hR : ∀ j u v, P.inv u → P.inv v → P.guar j u v → R u → R v) (h : P.Tries i x w err ok)
    (hr : R w) : P.Tries i x w err fun a w => ok a w ∧ R w := by
  refine Keeps.imp (Keeps.frame hR h hr) fun r w hrw => ?_
  cases r with
  | ok a => exact hrw
  | error e => exact hrw.1

protected theorem bind {x : ExceptT ε (Thread ρ σ) α} {f : α → ExceptT ε (Thread ρ σ) β}
    (h : P.Tries i x w err fun a w => P.Tries i (f a) w err ok') :
    P.Tries i (x >>= f) w err ok' := by
  refine Keeps.bind (Keeps.imp h fun r w hr => ?_)
  cases r with
  | ok a => exact hr
  | error e => exact hr

protected theorem seq {x : ExceptT ε (Thread ρ σ) α} {f : α → ExceptT ε (Thread ρ σ) β}
    {q : α → σ × γ → Prop} (hx : P.Tries i x w err q)
    (hf : ∀ a w, q a w → P.Tries i (f a) w err ok') : P.Tries i (x >>= f) w err ok' :=
  .bind (hx.imp (fun _ _ h => h) hf)

protected theorem ite {c : Prop} [Decidable c] {x y : ExceptT ε (Thread ρ σ) α}
    (ht : c → P.Tries i x w err ok) (hf : ¬c → P.Tries i y w err ok) :
    P.Tries i (if c then x else y) w err ok := by
  by_cases hc : c
  · simpa only [hc, if_true] using ht hc
  · simpa only [hc, if_false] using hf hc

protected theorem adapt {x : ExceptT ε (Thread ρ σ) α} {f : ε → ε'}
    {err' : ε' → σ × γ → Prop} (h : P.Tries i x w (fun e => err' (f e)) ok) :
    P.Tries i (ExceptT.adapt f x) w err' ok := by
  refine Keeps.bind (Keeps.imp h fun r w hr => ?_)
  cases r with
  | ok a => exact hr
  | error e => exact hr

end Tries
end Protocol

def caught (x : ExceptT ε' (Thread ρ σ) α) : ExceptT ε (Thread ρ σ) (Except ε' α) :=
  ExceptT.mk (x.run.bind fun r => .done (.ok r))

theorem Protocol.Tries.caught {P : Protocol ι σ γ} {i : ι} {w : σ × γ}
    {x : ExceptT ε' (Thread ρ σ) α} {err : ε → σ × γ → Prop} {ok : Except ε' α → σ × γ → Prop}
    (h : P.Tries i x w (fun e => ok (.error e)) fun a => ok (.ok a)) :
    P.Tries i (CashuService.caught x) w err ok := by
  refine Keeps.bind (Keeps.imp h fun r w hr => ?_)
  cases r with
  | ok a => exact hr
  | error e => exact hr

namespace Pool

variable {P : Protocol ι σ γ} {p p' : Pool ι ρ σ α} {g : γ} {post : ι → α → σ × γ → Prop}

structure Obeys (P : Protocol ι σ γ) (post : ι → α → σ × γ → Prop) (p : Pool ι ρ σ α) (g : γ) :
    Prop where
  inv : P.inv (p.state, g)
  threads : ∀ i t, p.threads i = some t → P.Keeps i (post i) t (p.state, g)

theorem Obeys.result {i : ι} {a : α} (h : Obeys P post p g) (ha : p.ended i = some a) :
    post i a (p.state, g) :=
  h.threads i _ (ended_eq_some.mp ha)

variable [DecidableEq ι]

theorem Obeys.update {s : σ} {g' : γ} {i : ι} {next : Option (Thread ρ σ α)}
    (hpost : ∀ i a, P.Stable i (post i a)) (h : Obeys P post p g) (hinv : P.inv (s, g'))
    (hguar : P.guar i (p.state, g) (s, g'))
    (hnext : ∀ t, next = some t → P.Keeps i (post i) t (s, g')) :
    Obeys P post ⟨s, Function.update p.threads i next⟩ g' where
  inv := hinv
  threads := by
    intro j t ht
    change Function.update p.threads i next j = some t at ht
    by_cases hj : j = i
    · subst hj
      rw [Function.update_self] at ht
      exact hnext t ht
    · rw [Function.update_of_ne hj] at ht
      exact (h.threads j t ht).others (hpost j) (.single ⟨h.inv, hinv, i, Ne.symm hj, hguar⟩)

theorem Obeys.move {m : Move ι ρ} (hpost : ∀ i a, P.Stable i (post i a)) (h : Obeys P post p g)
    (hmove : p.move P.release m = some p') :
    ∃ g', Obeys P post p' g' ∧ P.guar m.thread (p.state, g) (p'.state, g') := by
  cases m with
  | stop i =>
    obtain rfl := Option.some.inj hmove
    obtain ⟨hinv, hguar⟩ := P.stops i _ h.inv
    exact ⟨g, h.update hpost hinv hguar (by simp), hguar⟩
  | act i r =>
    simp only [Pool.move] at hmove
    split at hmove
    · rename_i effect next ht
      obtain ⟨s, hs, rfl⟩ := Option.map_eq_some_iff.mp hmove
      obtain ⟨g', hinv, hguar, hnext⟩ := h.threads i _ ht (p.state, g) .refl h.inv r s hs
      refine ⟨g', h.update hpost hinv hguar fun t ht => ?_, hguar⟩
      exact Option.some.inj ht ▸ hnext
    · cases hmove

/-- Threads that keep the protocol keep it along a run, with one value for each moment that only the
proofs see. What every step between two moments guarantees, the steps do together. -/
theorem Obeys.trace {moves : List (Move ι ρ)} (hpost : ∀ i a, P.Stable i (post i a))
    (h : Obeys P post p g) (hrun : p.run P.release moves = some p') :
    ∃ ghost : ℕ → γ, ghost 0 = g ∧
      (∀ k q, p.run P.release (moves.take k) = some q → Obeys P post q (ghost k)) ∧
      ∀ R : σ × γ → σ × γ → Prop, (∀ u, R u u) → (∀ u v w, R u v → R v w → R u w) →
        ∀ k l q q', k ≤ l → p.run P.release (moves.take k) = some q →
          p.run P.release (moves.take l) = some q' →
          (∀ m ∈ (moves.take l).drop k, ∀ u v, P.inv u → P.inv v → P.guar m.thread u v → R u v) →
          R (q.state, ghost k) (q'.state, ghost l) := by
  induction moves generalizing p g with
  | nil =>
    refine ⟨fun _ => g, rfl, fun k q hq => ?_, fun R hrefl _ k l q q' _ hq hq' _ => ?_⟩
    · rw [List.take_nil] at hq
      exact Option.some.inj hq ▸ h
    · rw [List.take_nil] at hq hq'
      obtain rfl := Option.some.inj hq
      obtain rfl := Option.some.inj hq'
      exact hrefl _
  | cons m moves ih =>
    obtain ⟨first, hmove, hrest⟩ := Option.bind_eq_some_iff.mp hrun
    obtain ⟨g₁, h₁, hguar⟩ := h.move hpost hmove
    obtain ⟨ghost, hghost, hobeys, hbetween⟩ := ih h₁ hrest
    have hlater : ∀ {k q}, p.run P.release ((m :: moves).take (k + 1)) = some q →
        first.run P.release (moves.take k) = some q := by
      intro k q hq
      obtain ⟨first', hmove', hq⟩ := Option.bind_eq_some_iff.mp hq
      rwa [Option.some.inj (hmove.symm.trans hmove')]
    refine ⟨fun k => if k = 0 then g else ghost (k - 1), rfl, fun k q hq => ?_, ?_⟩
    · cases k with
      | zero => exact Option.some.inj hq ▸ h
      | succ k => exact hobeys k q (hlater hq)
    · intro R hrefl htrans k l q q' hle hq hq' hR
      cases l with
      | zero =>
        obtain rfl : k = 0 := Nat.le_zero.mp hle
        obtain rfl := Option.some.inj (hq.symm.trans hq')
        exact hrefl _
      | succ l =>
        cases k with
        | zero =>
          -- the first step, and then those after it
          obtain rfl := Option.some.inj hq
          have hfirst : R (p.state, g) (first.state, g₁) :=
            hR m List.mem_cons_self _ _ h.inv h₁.inv hguar
          have hrest := hbetween R hrefl htrans 0 l first q' (Nat.zero_le l) rfl (hlater hq')
            fun m' hm' => hR m' (List.mem_cons_of_mem m hm')
          rw [hghost] at hrest
          exact htrans _ _ _ hfirst hrest
        | succ k =>
          exact hbetween R hrefl htrans k l q q' (Nat.le_of_succ_le_succ hle) (hlater hq)
            (hlater hq') hR

/-- Threads that keep the protocol keep it in every run, and what every step guarantees, the run
does. -/
theorem Obeys.run {moves : List (Move ι ρ)} (hpost : ∀ i a, P.Stable i (post i a))
    (h : Obeys P post p g) (hrun : p.run P.release moves = some p') :
    ∃ g', Obeys P post p' g' ∧ ∀ R : σ × γ → σ × γ → Prop, (∀ u, R u u) →
      (∀ u v w, R u v → R v w → R u w) →
      (∀ m ∈ moves, ∀ u v, P.inv u → P.inv v → P.guar m.thread u v → R u v) →
      R (p.state, g) (p'.state, g') := by
  obtain ⟨ghost, hghost, hobeys, hbetween⟩ := h.trace hpost hrun
  have hall : p.run P.release (moves.take moves.length) = some p' := by
    rwa [List.take_length]
  refine ⟨ghost moves.length, hobeys _ p' hall, fun R hrefl htrans hR => ?_⟩
  have hwhole := hbetween R hrefl htrans 0 moves.length p p' (Nat.zero_le _) rfl hall
    (by simpa using hR)
  rwa [hghost] at hwhole

end Pool
end
end CashuService
