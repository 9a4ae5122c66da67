import CashuService.Base.RustStd
set_option autoImplicit false

namespace CashuService

/-! Methods that may fail half way. A method takes the state of its receiver, and an error
carries the state the receiver was left in, so nothing is rolled back by construction. -/

section

variable {ε σ τ α β : Type}

/-- Every way `x` can end from `s`: an error satisfies `err`, a result satisfies `ok`. -/
def Ends (x : EStateM ε σ α) (s : σ) (err : ε → σ → Prop) (ok : α → σ → Prop) : Prop :=
  match x s with
  | .ok a s' => ok a s'
  | .error e s' => err e s'

abbrev CannotFail (x : EStateM ε σ α) (s : σ) : Prop := Ends x s (fun _ _ => False) fun _ _ => True

/-- The `?` operator on a computation that only reads. -/
def attempt (r : Except ε α) : EStateM ε σ α := fun s =>
  match r with
  | .ok a => .ok a s
  | .error e => .error e s

def okOr (o : Option α) (e : ε) : Except ε α :=
  match o with
  | some a => .ok a
  | none => .error e

def rejectIf (c : Prop) [Decidable c] (e : ε) : Except ε Unit :=
  if c then .error e else .ok ()

/-- Run a method on a copy of its receiver and keep the copy it succeeds with. -/
def onClone (x : EStateM ε τ Unit) (t : τ) : Except ε τ :=
  match x t with
  | .ok _ t' => .ok t'
  | .error e _ => .error e

/-- Run a method on one part of the state. What the method leaves there is written back,
also when it fails. -/
def zoom (part : σ → τ) (put : τ → σ → σ) (x : EStateM ε τ α) : EStateM ε σ α := fun s =>
  match x (part s) with
  | .ok a t => .ok a (put t s)
  | .error e t => .error e (put t s)

def mapErr (f : ε → ε) (x : EStateM ε σ α) : EStateM ε σ α := fun s =>
  match x s with
  | .ok a s' => .ok a s'
  | .error e s' => .error (f e) s'

theorem eq_ok_of_run' {x : EStateM ε σ α} {s : σ} {a : α} (h : x.run' s = some a) :
    ∃ s', x s = .ok a s' := by
  rw [EStateM.run', EStateM.run] at h
  cases hx : x s with
  | ok b s' =>
    rw [hx] at h
    exact ⟨s', congrArg (EStateM.Result.ok · s') (Option.some.inj h)⟩
  | error e s' =>
    rw [hx] at h
    cases h

@[simp] theorem okOr_eq_ok {o : Option α} {e : ε} {a : α} : okOr o e = .ok a ↔ o = some a := by
  cases o <;> simp [okOr]

@[simp] theorem okOr_eq_error {o : Option α} {e e' : ε} :
    okOr o e = .error e' ↔ o = none ∧ e = e' := by
  cases o <;> simp [okOr]

@[simp] theorem rejectIf_eq_ok {c : Prop} {_ : Decidable c} {e : ε} {u : Unit} :
    rejectIf c e = .ok u ↔ ¬c := by
  unfold rejectIf
  split <;> simp_all

theorem rejectIf_eq_error {c : Prop} {_ : Decidable c} {e e' : ε} :
    rejectIf c e = .error e' ↔ c ∧ e = e' := by
  unfold rejectIf
  split <;> simp_all

@[simp] theorem Except.bind_eq_ok {x : Except ε α} {f : α → Except ε β} {b : β} :
    x >>= f = .ok b ↔ ∃ a, x = .ok a ∧ f a = .ok b := by
  cases x <;> simp [bind, Except.bind]

theorem Except.first_eq_ok {x : Except ε Unit} {f : Unit → Except ε β} {b : β}
    (h : x >>= f = .ok b) : x = .ok () := by
  obtain ⟨_, hx, _⟩ := Except.bind_eq_ok.mp h
  exact hx

theorem Except.bind_eq_error {x : Except ε α} {f : α → Except ε β} {e : ε} :
    x >>= f = .error e ↔ x = .error e ∨ ∃ a, x = .ok a ∧ f a = .error e := by
  cases x <;> simp [bind, Except.bind]

@[simp] theorem Except.pure_eq_ok {a b : α} :
    (pure a : Except ε α) = .ok b ↔ a = b := by
  simp [pure, Except.pure]

theorem Except.mapError_eq_ok {ε' : Type} {f : ε → ε'} {x : Except ε α} {a : α} :
    x.mapError f = .ok a ↔ x = .ok a := by
  cases x <;> simp [Except.mapError]

theorem mapM_eq_ok_map {f : α → Except ε β} {g : α → β} {l : List α}
    (h : ∀ a ∈ l, f a = .ok (g a)) : l.mapM f = .ok (l.map g) := by
  induction l with
  | nil => rfl
  | cons a l ih =>
    have hl := ih fun b hb => h b (List.mem_cons_of_mem a hb)
    rw [List.mapM_cons, h a List.mem_cons_self, hl]
    rfl

theorem mapM_eq_ok_forall₂ {f : α → Except ε β} {l : List α} {l' : List β}
    (h : l.mapM f = .ok l') : List.Forall₂ (fun a b => f a = .ok b) l l' := by
  induction l generalizing l' with
  | nil =>
    rw [List.mapM_nil, Except.pure_eq_ok] at h
    exact h ▸ .nil
  | cons a l ih =>
    simp only [List.mapM_cons, Except.bind_eq_ok, Except.pure_eq_ok] at h
    obtain ⟨b, hb, rest, hrest, rfl⟩ := h
    exact .cons hb (ih hrest)

theorem foldlM_checkedAdd {l : List α} (weight : α → UInt64) (e : ε) (total : UInt64)
    (h : total.toNat + (l.map fun a => (weight a).toNat).sum < 2 ^ 64) :
    ∃ total' : UInt64, l.foldlM (fun total a => okOr (total.checkedAdd (weight a)) e) total =
      .ok total' ∧ total'.toNat = total.toNat + (l.map fun a => (weight a).toNat).sum := by
  induction l generalizing total with
  | nil => exact ⟨total, rfl, by simp⟩
  | cons a l ih =>
    simp only [List.map_cons, List.sum_cons] at h
    have hadd := UInt64.checkedAdd_of_fits (a := total) (b := weight a) (by omega)
    have hsum := UInt64.checkedAdd_eq_some.mp hadd
    obtain ⟨total', htotal, heq⟩ := ih (total + weight a) (by omega)
    refine ⟨total', ?_, ?_⟩
    · rw [List.foldlM_cons, hadd]
      exact htotal
    · simp only [List.map_cons, List.sum_cons]
      omega

theorem onClone_eq_ok {x : EStateM ε τ Unit} {t t' : τ} :
    onClone x t = .ok t' ↔ x t = .ok () t' := by
  unfold onClone
  split <;> simp_all

variable {s : σ} {err : ε → σ → Prop} {ok : α → σ → Prop} {ok' : β → σ → Prop}

protected theorem Ends.intro {x : EStateM ε σ α} (he : ∀ e s', x s = .error e s' → err e s')
    (ho : ∀ a s', x s = .ok a s' → ok a s') : Ends x s err ok := by
  unfold Ends
  cases hx : x s with
  | ok a s' => exact ho a s' hx
  | error e s' => exact he e s' hx

theorem Ends.of_eq_ok {x : EStateM ε σ α} {a : α} {s' : σ} (hx : x s = .ok a s')
    (h : ok a s') : Ends x s err ok := by
  simpa only [Ends, hx] using h

theorem Ends.of_eq_error {x : EStateM ε σ α} {e : ε} {s' : σ} (hx : x s = .error e s')
    (h : err e s') : Ends x s err ok := by
  simpa only [Ends, hx] using h

theorem Ends.of_ok {x : EStateM ε σ α} {a : α} {s' : σ} (h : Ends x s err ok)
    (hx : x s = .ok a s') : ok a s' := by
  simpa only [Ends, hx] using h

theorem Ends.of_error {x : EStateM ε σ α} {e : ε} {s' : σ} (h : Ends x s err ok)
    (hx : x s = .error e s') : err e s' := by
  simpa only [Ends, hx] using h

theorem Ends.exists_ok {x : EStateM ε σ α} (h : Ends x s (fun _ _ => False) ok) :
    ∃ a s', x s = .ok a s' ∧ ok a s' := by
  unfold Ends at h
  cases hx : x s with
  | ok a s' =>
    rw [hx] at h
    exact ⟨a, s', rfl, h⟩
  | error e s' =>
    rw [hx] at h
    exact h.elim

theorem cannotFail_of_ok {x : EStateM ε σ α} {a : α} {s' : σ} (h : x s = .ok a s') :
    CannotFail x s := by
  simp only [CannotFail, Ends, h]

theorem Ends.exists_error {x : EStateM ε σ α} (h : Ends x s err fun _ _ => False) :
    ∃ e s', x s = .error e s' ∧ err e s' := by
  unfold Ends at h
  cases hx : x s with
  | ok a s' =>
    rw [hx] at h
    exact h.elim
  | error e s' =>
    rw [hx] at h
    exact ⟨e, s', rfl, h⟩

protected theorem Ends.imp {x : EStateM ε σ α} {err' : ε → σ → Prop} {ok'' : α → σ → Prop}
    (h : Ends x s err ok) (he : ∀ e s', err e s' → err' e s')
    (ho : ∀ a s', ok a s' → ok'' a s') : Ends x s err' ok'' := by
  unfold Ends at h ⊢
  split
  · rename_i a s' hx
    rw [hx] at h
    exact ho a s' h
  · rename_i e s' hx
    rw [hx] at h
    exact he e s' h

protected theorem Ends.pure {a : α} (h : ok a s) : Ends (pure a) s err ok := h

protected theorem Ends.throw {e : ε} (h : err e s) : Ends (throw e) s err ok := h

protected theorem Ends.modify {g : σ → σ} {ok : PUnit → σ → Prop} (h : ok .unit (g s)) :
    Ends (modify g) s err ok := h

protected theorem Ends.ite {c : Prop} [Decidable c] {x y : EStateM ε σ α}
    (ht : c → Ends x s err ok) (hf : ¬c → Ends y s err ok) :
    Ends (if c then x else y) s err ok := by
  by_cases hc : c
  · simpa only [hc, if_true] using ht hc
  · simpa only [hc, if_false] using hf hc

protected theorem Ends.bind {x : EStateM ε σ α} {f : α → EStateM ε σ β}
    (h : Ends x s err fun a s' => Ends (f a) s' err ok') : Ends (x >>= f) s err ok' := by
  unfold Ends at h ⊢
  cases hx : x s with
  | ok a s' =>
    rw [hx] at h
    have hb : (x >>= f) s = f a s' := by simp only [Bind.bind, EStateM.bind, hx]
    rw [hb]
    exact h
  | error e s' =>
    rw [hx] at h
    have hb : (x >>= f) s = .error e s' := by simp only [Bind.bind, EStateM.bind, hx]
    rw [hb]
    exact h

/-- Sequential composition: what the first part guarantees is what the rest may assume. -/
theorem Ends.seq {x : EStateM ε σ α} {f : α → EStateM ε σ β} {q : α → σ → Prop}
    (hx : Ends x s err q) (hf : ∀ a s', q a s' → Ends (f a) s' err ok') :
    Ends (x >>= f) s err ok' :=
  .bind (hx.imp (fun _ _ he => he) hf)

/-- A method run on a copy leaves in the copy what it would leave in its receiver. -/
theorem Ends.of_onClone {x : EStateM ε τ Unit} {t t' : τ} {err : ε → τ → Prop}
    {ok : Unit → τ → Prop} (h : Ends x t err ok) (hx : onClone x t = .ok t') : ok () t' :=
  h.of_ok (onClone_eq_ok.mp hx)

theorem Ends.exists_onClone {x : EStateM ε τ Unit} {t : τ} {err : ε → τ → Prop}
    {ok : Unit → τ → Prop} (h : Ends x t err ok) (hno : ∀ e t', ¬err e t') :
    ∃ t', onClone x t = .ok t' ∧ ok () t' := by
  obtain ⟨_, t', hx, hok⟩ := (h.imp (fun e t' he => hno e t' he) fun _ _ hk => hk).exists_ok
  exact ⟨t', onClone_eq_ok.mpr hx, hok⟩

protected theorem Ends.get_bind {f : σ → EStateM ε σ β} (h : Ends (f s) s err ok') :
    Ends (get >>= f) s err ok' := h

protected theorem Ends.attempt {r : Except ε α} (he : ∀ e, r = .error e → err e s)
    (ho : ∀ a, r = .ok a → ok a s) : Ends (attempt r) s err ok := by
  cases r with
  | ok a => exact ho a rfl
  | error e => exact he e rfl

protected theorem Ends.attempt_bind {r : Except ε α} {f : α → EStateM ε σ β}
    (he : ∀ e, r = .error e → err e s) (ho : ∀ a, r = .ok a → Ends (f a) s err ok') :
    Ends (attempt r >>= f) s err ok' :=
  .bind (.attempt he ho)

protected theorem Ends.attempt_ok_bind {r : Except ε α} {a : α} {f : α → EStateM ε σ β}
    (hr : r = .ok a) (h : Ends (f a) s err ok') : Ends (attempt r >>= f) s err ok' := by
  subst hr
  exact h

theorem Ends.checkedAdd_bind {a b : UInt64} {e : ε} {f : UInt64 → EStateM ε σ β}
    (he : 2 ^ 64 ≤ a.toNat + b.toNat → err e s)
    (ho : ∀ c : UInt64, c.toNat = a.toNat + b.toNat → Ends (f c) s err ok') :
    Ends (attempt (okOr (a.checkedAdd b) e) >>= f) s err ok' := by
  refine .attempt_bind (fun e' hr => ?_) fun c hr => ho c (UInt64.checkedAdd_eq_some.mp
    (okOr_eq_ok.mp hr))
  obtain ⟨hn, rfl⟩ := okOr_eq_error.mp hr
  exact he (UInt64.checkedAdd_eq_none.mp hn)

protected theorem Ends.modify_bind {g : σ → σ} {f : PUnit → EStateM ε σ β}
    (h : Ends (f .unit) (g s) err ok') : Ends (modify g >>= f) s err ok' := h

protected theorem Ends.mapErr {f : ε → ε} {x : EStateM ε σ α}
    (h : Ends x s (fun e => err (f e)) ok) : Ends (mapErr f x) s err ok := by
  unfold Ends at h ⊢
  unfold mapErr
  cases hx : x s <;> rw [hx] at h <;> exact h

protected theorem Ends.zoom {part : σ → τ} {put : τ → σ → σ} {x : EStateM ε τ α}
    (h : Ends x (part s) (fun e t => err e (put t s)) fun a t => ok a (put t s)) :
    Ends (zoom part put x) s err ok := by
  unfold Ends at h ⊢
  unfold zoom
  cases hx : x (part s) <;> rw [hx] at h <;> exact h

end

-- How a method ends is known from the lemmas above, never by running it.
attribute [irreducible] Ends

end CashuService
