import Mathlib
set_option autoImplicit false

namespace CashuService

/-! A run of one component through a labelled transition relation, and two runs over the same
labels side by side. -/

section

variable {σ τ μ : Type}

/-- The labels are the steps of a run, one after the other. -/
inductive StepRun (step : σ → μ → σ → Prop) : σ → List μ → σ → Prop where
  | nil {s : σ} : StepRun step s [] s
  | cons {s s' s'' : σ} {l : μ} {rest : List μ} (taken : step s l s')
      (tail : StepRun step s' rest s'') : StepRun step s (l :: rest) s''

namespace StepRun

variable {step : σ → μ → σ → Prop} {step' : τ → μ → τ → Prop} {R : σ → τ → Prop} {s s' : σ}
  {t t' : τ} {ls : List μ}

theorem related
    (hstep : ∀ s t l s' t', R s t → step s l s' → step' t l t' → R s' t')
    (h : StepRun step s ls s') (h' : StepRun step' t ls t') (hr : R s t) : R s' t' := by
  induction h generalizing t with
  | nil =>
    cases h'
    exact hr
  | cons taken _ ih =>
    cases h' with
    | cons taken' tail' => exact ih tail' (hstep _ _ _ _ _ hr taken taken')

theorem simulated
    (hstep : ∀ s t l s', R s t → step s l s' → ∃ t', step' t l t' ∧ R s' t')
    (h : StepRun step s ls s') (hr : R s t) : ∃ t', StepRun step' t ls t' ∧ R s' t' := by
  induction h generalizing t with
  | nil => exact ⟨t, .nil, hr⟩
  | cons taken _ ih =>
    obtain ⟨u, hu, hr'⟩ := hstep _ _ _ _ hr taken
    obtain ⟨t', htail, hend⟩ := ih hr'
    exact ⟨t', .cons hu htail, hend⟩

theorem level (f : σ → Nat) {inc dec : μ → Nat}
    (balanced : ∀ s l s', step s l s' → f s' + dec l = f s + inc l) (h : StepRun step s ls s') :
    f s' + (ls.map dec).sum = f s + (ls.map inc).sum := by
  induction h with
  | nil => rfl
  | cons taken _ ih =>
    have htaken := balanced _ _ _ taken
    simp only [List.map_cons, List.sum_cons]
    omega

end StepRun
end
end CashuService
