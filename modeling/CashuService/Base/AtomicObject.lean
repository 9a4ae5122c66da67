import CashuService.Base.Threads
set_option autoImplicit false

namespace CashuService

/-! Objects whose calls are to look like single steps, whatever the threads that make them do in
between. -/

/-- What each call answers, and what it makes of the state. -/
structure AtomicObject (σ κ τ : Type) where
  apply : κ → σ → τ × σ

namespace AtomicObject

section

variable {ι ρ σ κ τ : Type} (O : AtomicObject σ κ τ) (calls : ι → κ) (start : σ)

inductive History : List (ι × τ) → σ → Prop where
  | nil : History [] start
  | snoc {h : List (ι × τ)} {s : σ} {i : ι} (earlier : History h s) (once : i ∉ h.map Prod.fst) :
      History (h ++ [(i, (O.apply (calls i) s).1)]) (O.apply (calls i) s).2

def replay (h : List (ι × τ)) (s : σ) : σ := h.foldl (fun s e => (O.apply (calls e.1) s).2) s

variable {O calls start}

theorem History.eq_replay {h : List (ι × τ)} {s : σ} (hh : O.History calls start h s) :
    s = replay O calls h start := by
  induction hh with
  | nil => rfl
  | snoc _ _ ih => simp [replay, ih]

/-- What every call does to the state, the calls between two moments do together. -/
theorem History.related {R : σ → σ → Prop} (hrefl : ∀ s, R s s)
    (htrans : ∀ s t u, R s t → R t u → R s u) (hR : ∀ call s, R s (O.apply call s).2)
    {h h' : List (ι × τ)} {s s' : σ} (hh : O.History calls start h s)
    (hh' : O.History calls start h' s') (hgrows : h <+: h') : R s s' := by
  obtain ⟨made, rfl⟩ := hgrows
  have hlater : s' = replay O calls made s := by
    rw [hh'.eq_replay, hh.eq_replay, replay, List.foldl_append]
    rfl
  rw [hlater]
  clear hlater hh hh'
  induction made generalizing s with
  | nil => exact hrefl s
  | cons e made ih => exact htrans _ _ _ (hR _ s) ih

variable (O calls start)

/-- The history only grows, by calls of the thread that takes the step. -/
def protocol : Protocol ι σ (List (ι × τ)) where
  release _ s := s
  inv w := O.History calls start w.2 w.1
  guar i w w' := ∃ made, w'.2 = w.2 ++ made ∧ ∀ e ∈ made, e.1 = i
  idle _ _ _ := ⟨[], by simp, by simp⟩
  stops _ _ h := ⟨h, [], by simp, by simp⟩

variable {O calls start} {i : ι} {r : τ} {w : σ × List (ι × τ)}

/-- The call of `i` has not been made yet. -/
def Pending (i : ι) (w : σ × List (ι × τ)) : Prop := i ∉ w.2.map Prod.fst

/-- The call of `i` has been made, with this answer. -/
def Answered (i : ι) (r : τ) (w : σ × List (ι × τ)) : Prop := (i, r) ∈ w.2

theorem pending_stable : (O.protocol calls start).Stable i (Pending i) := by
  rintro j hj u v - - ⟨made, hv, hmade⟩ hpending
  simp only [Pending, hv, List.map_append, List.mem_append, not_or]
  refine ⟨hpending, fun hmem => ?_⟩
  obtain ⟨e, he, rfl⟩ := List.mem_map.mp hmem
  exact hj (hmade e he).symm

theorem answered_stable : (O.protocol calls start).Stable i (Answered i r) := by
  rintro j - u v - - ⟨made, hv, -⟩ hanswered
  simp only [Answered, hv, List.mem_append]
  exact .inl hanswered

theorem makes {s : σ} (hinv : (O.protocol calls start).inv w) (hpending : Pending i w)
    (happly : O.apply (calls i) w.1 = (r, s)) :
    ∃ g, (O.protocol calls start).inv (s, g) ∧ (O.protocol calls start).guar i w (s, g) ∧
      Answered i r (s, g) := by
  have hmade := History.snoc (O := O) hinv hpending
  rw [happly] at hmade
  exact ⟨w.2 ++ [(i, r)], hmade, ⟨[(i, r)], rfl, by simp⟩, by simp [Answered]⟩

theorem waits {A : σ × List (ι × τ) → Prop} (hinv : (O.protocol calls start).inv w) (ha : A w) :
    ∃ g, (O.protocol calls start).inv (w.1, g) ∧ (O.protocol calls start).guar i w (w.1, g) ∧
      A (w.1, g) :=
  ⟨w.2, hinv, (O.protocol calls start).idle i w hinv, ha⟩

/-- Threads that make their calls, however they do it, as long as each answers what the history
says. -/
def Implements (O : AtomicObject σ κ τ) (call : κ) (x : ExceptT Unit (Thread ρ σ) τ) : Prop :=
  ∀ (ι : Type) (calls : ι → κ) (start : σ) (i : ι) (w : σ × List (ι × τ)), calls i = call →
    Pending i w →
    (O.protocol calls start).Tries i x w (fun _ _ => True) fun r => Answered i r

/-- What the order of the calls has to say of a moment of a run, after these moves. -/
structure OrderedAt (O : AtomicObject σ κ τ) (calls : ι → κ) (start : σ) (moves : List (Move ι ρ))
    (p : Pool ι ρ σ (Except Unit τ)) (h : List (ι × τ)) : Prop where
  made : O.History calls start h p.state
  answered : ∀ i r, p.ended i = some (.ok r) → (i, r) ∈ h
  begun : ∀ i, (∀ m ∈ moves, m.thread ≠ i) → i ∉ h.map Prod.fst

variable [DecidableEq ι]

/-- One order of the calls of a run: at each moment it is as long as the calls made by then. -/
structure Linearizes (O : AtomicObject σ κ τ) (calls : ι → κ) (p : Pool ι ρ σ (Except Unit τ))
    (moves : List (Move ι ρ)) (order : ℕ → List (ι × τ)) : Prop where
  grows : ∀ k l, k ≤ l → order k <+: order l
  ordered : ∀ k q, p.run (fun _ s => s) (moves.take k) = some q →
    OrderedAt O calls p.state (moves.take k) q (order k)

theorem run_take {p p' : Pool ι ρ σ (Except Unit τ)} {moves : List (Move ι ρ)}
    (hrun : p.run (fun _ s => s) moves = some p') (k : ℕ) :
    ∃ q, p.run (fun _ s => s) (moves.take k) = some q := by
  rw [← List.take_append_drop k moves, Pool.run, List.foldlM_append] at hrun
  obtain ⟨q, hq, -⟩ := Option.bind_eq_some_iff.mp hrun
  exact ⟨q, hq⟩

/-- The calls of any number of threads take effect one after the other, each at a moment between
its first step and its last. -/
theorem linearizes {p p' : Pool ι ρ σ (Except Unit τ)} {moves : List (Move ι ρ)}
    (himplements : ∀ i x, p.threads i = some x → O.Implements (calls i) (ExceptT.mk x))
    (hrun : p.run (fun _ s => s) moves = some p') :
    ∃ order, Linearizes O calls p moves order := by
  have hpost : ∀ (i : ι) (a : Except Unit τ), (O.protocol calls p.state).Stable i
      (Protocol.outcomes (fun _ _ => True) (fun r => Answered i r) a) := by
    intro i a
    cases a with
    | ok r => exact answered_stable
    | error e => exact .true
  have hstart : Pool.Obeys (O.protocol calls p.state)
      (fun i => Protocol.outcomes (fun _ _ => True) fun r => Answered i r) p [] :=
    ⟨.nil, fun i x hx => himplements i x hx ι calls p.state i _ rfl (by simp [Pending])⟩
  obtain ⟨order, horder, hobeys, hbetween⟩ := hstart.trace hpost hrun
  refine ⟨order, fun k l hle => ?_, fun k q hq =>
    ⟨(hobeys k q hq).inv, fun i r hr => (hobeys k q hq).result hr, fun i hi => ?_⟩⟩
  · obtain ⟨q, hq⟩ := run_take hrun k
    obtain ⟨q', hq'⟩ := run_take hrun l
    refine hbetween (fun u v => u.2 <+: v.2) (fun _ => List.prefix_rfl) ?_ k l q q' hle hq hq' ?_
    · exact fun _ _ _ huv hvw => huv.trans hvw
    · rintro m - u v - - ⟨made, hv, -⟩
      exact ⟨made, hv.symm⟩
  · have hpending := hbetween (fun u v => i ∉ u.2.map Prod.fst → i ∉ v.2.map Prod.fst)
      (fun _ hu => hu) (fun _ _ _ huv hvw hu => hvw (huv hu)) 0 k p q (Nat.zero_le k) rfl hq ?_
    · exact hpending (by simp [horder])
    intro m hm u v hu hv hstep hfresh
    have hstable : (O.protocol calls p.state).Stable i (Pending i) := pending_stable
    exact hstable m.thread (hi m hm) u v hu hv hstep hfresh

end
end AtomicObject
end CashuService
