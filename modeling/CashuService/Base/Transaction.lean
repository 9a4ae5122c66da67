import CashuService.Base.Fallible
set_option autoImplicit false

namespace CashuService

/-! Statements against a database that may refuse any of them, and transactions that are rolled
back unless they commit. -/

/-- A connection: the tables as they stand, and the answers the engine will give to the next
statements. A statement without an answer of its own is executed. -/
structure Connection (ζ δ : Type) where
  tables : δ
  answers : List (Option ζ)
  deriving DecidableEq, Repr

def Connection.Refuses {ζ δ : Type} (self : Connection ζ δ) (n : Nat) : Prop :=
  ∃ z, self.answers[n]? = some (some z)

section

variable {ζ δ ε α : Type}

def proceed (refused : ζ → ε) : EStateM ε (Connection ζ δ) Unit := fun c =>
  match c.answers with
  | some z :: answers => .error (refused z) { c with answers }
  | _ => .ok () { c with answers := c.answers.tail }

/-- One statement. It is executed as a whole, or refused without effect. -/
def statement (refused : ζ → ε) (f : δ → Except ε (α × δ)) :
    EStateM ε (Connection ζ δ) α := do
  proceed refused
  let (a, tables) ← attempt (f (← get).tables)
  modify fun c => { c with tables }
  return a

def rollback (before : δ) (body : EStateM ε (Connection ζ δ) α) :
    EStateM ε (Connection ζ δ) α := fun c =>
  match body c with
  | .ok a c' => .ok a c'
  | .error e c' => .error e { c' with tables := before }

/-- `BEGIN IMMEDIATE`, a body and `COMMIT`. A transaction that is dropped before its commit
succeeded is rolled back. -/
def immediate (refused : ζ → ε) (body : EStateM ε (Connection ζ δ) α) :
    EStateM ε (Connection ζ δ) α := do
  proceed refused
  rollback (← get).tables do
    let a ← body
    proceed refused
    return a

variable {refused : ζ → ε} {c : Connection ζ δ}

theorem refuses_of_tail {c' : Connection ζ δ} (h : c'.answers = c.answers.tail) (n : Nat) :
    c'.Refuses n ↔ c.Refuses (n + 1) := by
  simp only [Connection.Refuses, h, List.getElem?_tail]

theorem not_refuses_nil (tables : δ) (n : Nat) : ¬(Connection.mk (ζ := ζ) tables []).Refuses n := by
  simp [Connection.Refuses]

theorem proceed_answers : Ends (proceed refused) c (fun _ c' => c.Refuses 0 ∧ c'.tables = c.tables)
    fun _ c' => ¬c.Refuses 0 ∧ c'.tables = c.tables ∧ c'.answers = c.answers.tail := by
  unfold Ends proceed
  rcases hanswers : c.answers with _ | ⟨_ | z, answers⟩ <;> simp [Connection.Refuses, hanswers]

theorem statement_answers {f : δ → Except ε (α × δ)} :
    Ends (statement refused f) c
      (fun _ c' => (c.Refuses 0 ∨ ∃ e, f c.tables = .error e) ∧ c'.tables = c.tables)
      fun a c' => ¬c.Refuses 0 ∧ f c.tables = .ok (a, c'.tables) ∧
        c'.answers = c.answers.tail := by
  refine (proceed_answers.imp (fun _ _ h => ⟨.inl h.1, h.2⟩) fun _ _ h => h).seq fun _ c' h => ?_
  obtain ⟨hproceed, htables, hanswers⟩ := h
  refine .get_bind (.attempt_bind (fun e he => ?_) fun a ha => ?_)
  · exact ⟨.inr ⟨e, htables ▸ he⟩, htables⟩
  · rw [htables] at ha
    exact .modify_bind (.pure ⟨hproceed, ha, hanswers⟩)

theorem proceed_ends : Ends (proceed refused) c (fun _ c' => c'.tables = c.tables)
    fun _ c' => c'.tables = c.tables :=
  proceed_answers.imp (fun _ _ h => h.2) fun _ _ h => h.2.1

theorem statement_ends {f : δ → Except ε (α × δ)} :
    Ends (statement refused f) c (fun _ c' => c'.tables = c.tables)
      fun a c' => f c.tables = .ok (a, c'.tables) :=
  statement_answers.imp (fun _ _ h => h.2) fun _ _ h => h.2.1

theorem rollback_ends {body : EStateM ε (Connection ζ δ) α}
    {ok : α → Connection ζ δ → Prop} (h : Ends body c (fun _ _ => True) ok) :
    Ends (rollback c.tables body) c (fun _ c' => c'.tables = c.tables) ok := by
  unfold Ends at h ⊢
  unfold rollback
  cases hb : body c <;> simp_all

/-- A transaction fails without effect, or everything its body did is committed. -/
theorem immediate_ends {body : EStateM ε (Connection ζ δ) α} (ok : α → δ → Prop)
    (h : ∀ c' : Connection ζ δ, c'.tables = c.tables →
      Ends body c' (fun _ _ => True) fun a c'' => ok a c''.tables) :
    Ends (immediate refused body) c (fun _ c' => c'.tables = c.tables)
      fun a c' => ok a c'.tables := by
  refine proceed_ends.seq fun _ c' hc' => .get_bind ?_
  rw [← hc']
  apply rollback_ends
  refine (h c' hc').seq fun a c'' ha => ?_
  refine (proceed_ends.imp (fun _ _ _ => trivial) fun _ _ h => h).seq fun _ c₃ hc₃ => ?_
  exact .pure (hc₃.symm ▸ ha)

end
end CashuService
