import CashuService.Base.Fallible
set_option autoImplicit false

namespace CashuService

/-! Two computations side by side: they end in the same way, in states that stay related. -/

section

variable {ε σ τ α β : Type}

/-- `x` from `s` and `y` from `t` both succeed, with the same result and in states related by
`ok`, or both fail, with the same error and in states related by `err`. -/
def Alike (x : EStateM ε σ α) (s : σ) (y : EStateM ε τ α) (t : τ) (err ok : σ → τ → Prop) :
    Prop :=
  match x s, y t with
  | .ok a s', .ok b t' => a = b ∧ ok s' t'
  | .error e s', .error e' t' => e = e' ∧ err s' t'
  | _, _ => False

def outcome (x : EStateM ε σ α) (s : σ) : Except ε α :=
  match x s with
  | .ok a _ => .ok a
  | .error e _ => .error e

variable {s : σ} {t : τ} {err ok q : σ → τ → Prop}

theorem Alike.outcome_eq {x : EStateM ε σ α} {y : EStateM ε τ α} (h : Alike x s y t err ok) :
    outcome y t = outcome x s := by
  unfold Alike at h
  unfold outcome
  cases hx : x s <;> cases hy : y t <;> simp_all

protected theorem Alike.pure {a : α} (h : ok s t) :
    Alike (pure a : EStateM ε σ α) s (pure a : EStateM ε τ α) t err ok := ⟨rfl, h⟩

protected theorem Alike.throw {e : ε} (h : err s t) :
    Alike (throw e : EStateM ε σ α) s (throw e : EStateM ε τ α) t err ok := ⟨rfl, h⟩

protected theorem Alike.bind {x : EStateM ε σ α} {y : EStateM ε τ α} {f : α → EStateM ε σ β}
    {g : α → EStateM ε τ β} (h : Alike x s y t err q)
    (hf : ∀ a s' t', q s' t' → Alike (f a) s' (g a) t' err ok) :
    Alike (x >>= f) s (y >>= g) t err ok := by
  unfold Alike at h
  cases hx : x s with
  | ok a s' =>
    cases hy : y t with
    | ok b t' =>
      simp only [hx, hy] at h
      obtain ⟨rfl, hmid⟩ := h
      have hrest := hf a s' t' hmid
      unfold Alike at hrest ⊢
      simpa only [bind, EStateM.bind, hx, hy] using hrest
    | error e t' => simp only [hx, hy] at h
  | error e s' =>
    cases hy : y t with
    | ok b t' => simp only [hx, hy] at h
    | error e' t' =>
      simp only [hx, hy] at h
      unfold Alike
      simpa only [bind, EStateM.bind, hx, hy] using h

protected theorem Alike.get_bind {f : σ → EStateM ε σ β} {g : τ → EStateM ε τ β}
    (h : Alike (f s) s (g t) t err ok) : Alike (get >>= f) s (get >>= g) t err ok := h

protected theorem Alike.attempt_bind {r r' : Except ε α} {f : α → EStateM ε σ β}
    {g : α → EStateM ε τ β} (hr : r' = r) (he : err s t)
    (ho : ∀ a, r = .ok a → Alike (f a) s (g a) t err ok) :
    Alike (attempt r >>= f) s (attempt r' >>= g) t err ok := by
  subst hr
  cases r' with
  | ok a => exact ho a rfl
  | error e => exact ⟨rfl, he⟩

protected theorem Alike.attempt_ok {γ : Type} {r : Except ε α} {r' : Except ε γ} {a : α} {c : γ}
    {f : α → EStateM ε σ β} {g : γ → EStateM ε τ β} (hr : r = .ok a) (hr' : r' = .ok c)
    (h : Alike (f a) s (g c) t err ok) :
    Alike (attempt r >>= f) s (attempt r' >>= g) t err ok := by
  subst hr hr'
  exact h

protected theorem Alike.modify {f : σ → σ} {g : τ → τ} (h : ok (f s) (g t)) :
    Alike (modify f : EStateM ε σ PUnit) s (modify g : EStateM ε τ PUnit) t err ok := ⟨rfl, h⟩

protected theorem Alike.modify_bind {f : σ → σ} {g : τ → τ} {x : PUnit → EStateM ε σ β}
    {y : PUnit → EStateM ε τ β} (h : Alike (x .unit) (f s) (y .unit) (g t) err ok) :
    Alike (modify f >>= x) s (modify g >>= y) t err ok := h

protected theorem Alike.ite {c : Prop} [Decidable c] {x x' : EStateM ε σ α}
    {y y' : EStateM ε τ α} (ht : c → Alike x s y t err ok) (hf : ¬c → Alike x' s y' t err ok) :
    Alike (if c then x else x') s (if c then y else y') t err ok := by
  by_cases hc : c
  · simpa only [hc, if_true] using ht hc
  · simpa only [hc, if_false] using hf hc

end
end CashuService
