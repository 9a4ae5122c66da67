import CashuService.Base.BTreeMap
import CashuService.Base.Fallible
import CashuService.Base.StepRun
set_option autoImplicit false

namespace CashuService

/-! A family of components indexed by keys, and a run that takes one component after another
through a step of a labelled transition relation. -/

namespace KeyedRun

variable {κ μ : Type}

section

variable [DecidableEq κ]

def amountAt (k : κ) (f : μ → Nat) (es : List (κ × μ)) : Nat :=
  (es.map fun e => if e.1 = k then f e.2 else 0).sum

@[simp] theorem amountAt_nil (k : κ) (f : μ → Nat) :
    amountAt k f ([] : List (κ × μ)) = 0 := rfl

@[simp] theorem amountAt_cons (k j : κ) (l : μ) (f : μ → Nat) (es : List (κ × μ)) :
    amountAt k f ((j, l) :: es) = (if j = k then f l else 0) + amountAt k f es := rfl

@[simp] theorem amountAt_append (k : κ) (f : μ → Nat) (es es' : List (κ × μ)) :
    amountAt k f (es ++ es') = amountAt k f es + amountAt k f es' := by
  simp [amountAt, List.map_append, List.sum_append]

def labelsAt (k : κ) (es : List (κ × μ)) : List μ :=
  es.filterMap fun e => if e.1 = k then some e.2 else none

@[simp] theorem labelsAt_nil (k : κ) : labelsAt k ([] : List (κ × μ)) = [] := rfl

@[simp] theorem labelsAt_cons (k j : κ) (l : μ) (es : List (κ × μ)) :
    labelsAt k ((j, l) :: es) = if j = k then l :: labelsAt k es else labelsAt k es := by
  by_cases hj : j = k <;> simp [labelsAt, hj]

theorem amountAt_eq (k : κ) (f : μ → Nat) (es : List (κ × μ)) :
    amountAt k f es = ((labelsAt k es).map f).sum := by
  induction es with
  | nil => rfl
  | cons e es ih =>
    obtain ⟨j, l⟩ := e
    by_cases hj : j = k <;> simp [hj, ih]

end

def amountAll (f : μ → Nat) (es : List (κ × μ)) : Nat := (es.map fun e => f e.2).sum

@[simp] theorem amountAll_nil (f : μ → Nat) :
    amountAll f ([] : List (κ × μ)) = 0 := rfl

@[simp] theorem amountAll_cons (j : κ) (l : μ) (f : μ → Nat) (es : List (κ × μ)) :
    amountAll f ((j, l) :: es) = f l + amountAll f es := rfl

end KeyedRun

section

variable {κ σ τ μ : Type} [Ord κ] [Std.TransOrd κ]

/-- Each listed label is a step of the component under its key. -/
inductive KeyedRun (step : σ → μ → σ → Prop) :
    BTreeMap κ σ → List (κ × μ) → BTreeMap κ σ → Prop where
  | nil {m : BTreeMap κ σ} : KeyedRun step m [] m
  | cons {m m' : BTreeMap κ σ} {k : κ} {l : μ} {rest : List (κ × μ)} {s s' : σ}
      (present : m[k]? = some s) (taken : step s l s')
      (tail : KeyedRun step (m.modify k fun _ => s') rest m') : KeyedRun step m ((k, l) :: rest) m'

namespace KeyedRun

variable {step : σ → μ → σ → Prop} {m m' m'' : BTreeMap κ σ} {es es' : List (κ × μ)}

theorem single {k : κ} {l : μ} {s s' : σ} (present : m[k]? = some s) (taken : step s l s') :
    KeyedRun step m [(k, l)] (m.modify k fun _ => s') :=
  .cons present taken .nil

theorem append (h : KeyedRun step m es m') (h' : KeyedRun step m' es' m'') :
    KeyedRun step m (es ++ es') m'' := by
  induction h with
  | nil => exact h'
  | cons present taken _ ih => exact .cons present taken (ih h')

theorem mem_iff (h : KeyedRun step m es m') (k : κ) : k ∈ m' ↔ k ∈ m := by
  induction h with
  | nil => rfl
  | cons _ _ _ ih => rw [ih, Std.ExtTreeMap.mem_modify]

theorem mem_of_label (h : KeyedRun step m es m') {k : κ} {l : μ} (hl : (k, l) ∈ es) : k ∈ m := by
  induction h with
  | nil => simp at hl
  | @cons m m' j l' rest s s' present taken tail ih =>
    rcases List.mem_cons.mp hl with he | hrest
    · rw [(Prod.mk.inj he).1]
      exact BTreeMap.mem_of_getElem? present
    · exact Std.ExtTreeMap.mem_modify.mp (ih hrest)

theorem append_iff :
    KeyedRun step m (es ++ es') m'' ↔
      ∃ m', KeyedRun step m es m' ∧ KeyedRun step m' es' m'' := by
  constructor
  · intro h
    induction es generalizing m with
    | nil => exact ⟨m, .nil, h⟩
    | cons e es ih =>
      obtain ⟨k, l⟩ := e
      cases h with
      | cons present taken tail =>
        obtain ⟨m', hfirst, hsecond⟩ := ih tail
        exact ⟨m', .cons present taken hfirst, hsecond⟩
  · intro h
    obtain ⟨m', hfirst, hsecond⟩ := h
    exact hfirst.append hsecond

theorem functional (hstep : ∀ s l s' s'', step s l s' → step s l s'' → s' = s'')
    (h : KeyedRun step m es m') (h' : KeyedRun step m es m'') : m' = m'' := by
  induction h with
  | nil =>
    cases h'
    rfl
  | cons present taken _ ih =>
    cases h' with
    | cons present' taken' tail' =>
      rw [present, Option.some.injEq] at present'
      subst present'
      rw [← hstep _ _ _ _ taken taken'] at tail'
      exact ih tail'

/-- A loop whose rounds are runs is a run of all their labels. The rounds may check their element
against the set of keys, which stays the same. -/
theorem foldlM_iff {ε α : Type} {f : BTreeMap κ σ → α → Except ε (BTreeMap κ σ)}
    {labels : α → List (κ × μ)} {valid : α → Prop} {keys : κ → Prop}
    (hf : ∀ m a m', (∀ k, k ∈ m ↔ keys k) →
      (f m a = .ok m' ↔ valid a ∧ KeyedRun step m (labels a) m'))
    (l : List α) (hm : ∀ k, k ∈ m ↔ keys k) :
    l.foldlM f m = .ok m' ↔ (∀ a ∈ l, valid a) ∧ KeyedRun step m (l.flatMap labels) m' := by
  induction l generalizing m with
  | nil =>
    simp only [List.foldlM_nil, Except.pure_eq_ok, List.flatMap_nil, List.not_mem_nil,
      false_implies, implies_true, true_and]
    constructor
    · intro h
      subst h
      exact .nil
    · intro h
      cases h
      rfl
  | cons a l ih =>
    rw [List.foldlM_cons, Except.bind_eq_ok, List.flatMap_cons, append_iff, List.forall_mem_cons]
    constructor
    · intro h
      obtain ⟨n, hfirst, hrest⟩ := h
      obtain ⟨hvalid, hrun⟩ := (hf m a n hm).mp hfirst
      have hn : ∀ k, k ∈ n ↔ keys k := fun k => (hrun.mem_iff k).trans (hm k)
      obtain ⟨hall, htail⟩ := (ih hn).mp hrest
      exact ⟨⟨hvalid, hall⟩, n, hrun, htail⟩
    · intro h
      obtain ⟨⟨hvalid, hall⟩, n, hrun, htail⟩ := h
      have hn : ∀ k, k ∈ n ↔ keys k := fun k => (hrun.mem_iff k).trans (hm k)
      exact ⟨n, (hf m a n hm).mpr ⟨hvalid, hrun⟩, (ih hn).mpr ⟨hall, htail⟩⟩

variable [Std.LawfulEqOrd κ]

theorem invariant {P : κ → σ → Prop} (hstep : ∀ k s l s', P k s → step s l s' → P k s')
    (h : KeyedRun step m es m') (hm : m.Each P) : m'.Each P := by
  induction h with
  | nil => exact hm
  | cons present taken _ ih =>
    apply ih
    apply hm.modify
    intro s hs hp
    rw [present, Option.some.injEq] at hs
    subst hs
    exact hstep _ _ _ _ hp taken

/-- A part of one component that the labels under its key leave alone stays as it is. -/
theorem part_eq (h : KeyedRun step m es m') (part : σ → τ) (k : κ)
    (hk : ∀ l, (k, l) ∈ es → ∀ s s', step s l s' → part s' = part s) :
    m'[k]?.map part = m[k]?.map part := by
  induction h with
  | nil => rfl
  | @cons m m' j l rest s s' present taken _ ih =>
    rw [ih fun l' hl' => hk l' (List.mem_cons_of_mem _ hl')]
    by_cases hj : j = k
    · subst j
      rw [BTreeMap.getElem?_modify_self, present, Option.map_some, Option.map_some, Option.map_some,
        hk l List.mem_cons_self _ _ taken]
    · rw [BTreeMap.getElem?_modify_ne _ _ hj]

theorem component [DecidableEq κ] (h : KeyedRun step m es m') {k : κ} {s : σ}
    (hs : m[k]? = some s) : ∃ s', m'[k]? = some s' ∧ StepRun step s (labelsAt k es) s' := by
  induction h generalizing s with
  | nil => exact ⟨s, hs, .nil⟩
  | @cons m m' j l rest t t' present taken _ ih =>
    by_cases hj : j = k
    · subst j
      rw [present, Option.some.injEq] at hs
      subst hs
      have hnext : (m.modify k fun _ => t')[k]? = some t' := by
        rw [BTreeMap.getElem?_modify_self, present]; rfl
      obtain ⟨s', hs', hrun⟩ := ih hnext
      refine ⟨s', hs', ?_⟩
      rw [labelsAt_cons, if_pos rfl]
      exact .cons taken hrun
    · have hnext : (m.modify j fun _ => t')[k]? = some s :=
        (BTreeMap.getElem?_modify_ne m _ hj).trans hs
      obtain ⟨s', hs', hrun⟩ := ih hnext
      refine ⟨s', hs', ?_⟩
      rwa [labelsAt_cons, if_neg hj]

section

variable (level : σ → Nat) {inc dec : μ → Nat}
  (balanced : ∀ s l s', step s l s' → level s' + dec l = level s + inc l)

include balanced

/-- The level of one component moves by what the labels under its key add and remove. -/
theorem level_at [DecidableEq κ] (h : KeyedRun step m es m') {k : κ} {s : σ} (hs : m[k]? = some s) :
    ∃ s', m'[k]? = some s' ∧ level s' + amountAt k dec es = level s + amountAt k inc es := by
  obtain ⟨s', hs', hrun⟩ := h.component hs
  refine ⟨s', hs', ?_⟩
  rw [amountAt_eq, amountAt_eq]
  exact hrun.level level balanced

theorem level_all (h : KeyedRun step m es m') :
    BTreeMap.sumOf level m' + amountAll dec es =
      BTreeMap.sumOf level m + amountAll inc es := by
  induction h with
  | nil => rfl
  | @cons m m' k l rest s s' present taken _ ih =>
    have hone := BTreeMap.sumOf_modify level (fun _ => s') present
    have htaken := balanced _ _ _ taken
    simp only [amountAll_cons]
    omega

end

/-- A run of the selected labels on a part of every component, when the other labels leave that
part alone. -/
theorem project {step' : τ → μ → τ → Prop} {part : σ → τ} {p : μ → Bool}
    (hyes : ∀ s l s', p l = true → step s l s' → step' (part s) l (part s'))
    (hno : ∀ s l s', p l = false → step s l s' → part s' = part s)
    (h : KeyedRun step m es m') :
    KeyedRun step' (m.map fun _ s => part s) (es.filter fun e => p e.2)
      (m'.map fun _ s => part s) := by
  induction h with
  | nil => exact .nil
  | @cons m m' k l rest s s' present taken _ ih =>
    have hmap : (m.modify k fun _ => s').map (fun _ s => part s) =
        (m.map fun _ s => part s).modify k fun _ => part s' := by
      apply Std.ExtTreeMap.ext_getElem?
      intro j
      by_cases hj : k = j
      · subst j; simp [present]
      · rw [BTreeMap.getElem?_modify_ne _ _ hj]
        simp [BTreeMap.getElem?_modify_ne _ _ hj]
    have hpresent : (m.map fun _ s => part s)[k]? = some (part s) := by simp [present]
    rw [hmap] at ih
    cases hp : p l with
    | true =>
      simp only [List.filter_cons, hp, if_true]
      exact .cons hpresent (hyes _ _ _ hp taken) ih
    | false =>
      simp only [List.filter_cons, hp]
      rw [hno _ _ _ hp taken, BTreeMap.modify_eq_self hpresent] at ih
      exact ih

end KeyedRun
end
end CashuService
