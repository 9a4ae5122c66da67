import CashuService.Base.Fallible
set_option autoImplicit false

namespace CashuService

/-! Processes that call their surroundings and may be stopped at any call. What is durable
survives the process, everything else is lost with it. -/

/-- What becomes of a call. A failed call and a stop tell how far the effect of the call got:
`0` is not at all. -/
inductive Reply (A : Type) where
  | returns (a : A)
  | fails (progress : Nat) (message : String)
  | stops (progress : Nat)
  deriving DecidableEq, Repr

/-- A process, with the replies its surroundings have in store for it. A process without a
further reply is stopped before its next call. -/
structure Process (A σ : Type) where
  durable : σ
  replies : List (Reply A)

section

variable {A σ ε α β : Type}

/-- A call: `full` is its effect when it returns, `part` what is done when it does not. -/
def call (stopped : ε) (failed : String → ε) (full : A → σ → σ) (part : Nat → σ → σ) :
    EStateM ε (Process A σ) A := fun p =>
  match p.replies with
  | [] => .error stopped p
  | .returns a :: replies => .ok a ⟨full a p.durable, replies⟩
  | .fails n message :: replies => .error (failed message) ⟨part n p.durable, replies⟩
  | .stops n :: replies => .error stopped ⟨part n p.durable, replies⟩

/-- A call whose result the caller looks at. Of a failed one nothing is done, and `part` is what is
done when the process is stopped. -/
def tryCall (stopped : ε) (full : A → σ → σ) (part : Nat → σ → σ) :
    EStateM ε (Process A σ) (Except String A) := fun p =>
  match p.replies with
  | [] => .error stopped p
  | .returns a :: replies => .ok (.ok a) ⟨full a p.durable, replies⟩
  | .fails _ message :: replies => .ok (.error message) ⟨p.durable, replies⟩
  | .stops n :: replies => .error stopped ⟨part n p.durable, replies⟩

def peek (f : σ → α) : EStateM ε (Process A σ) α := fun p => .ok (f p.durable) p

def onError (f : ε → ε) (x : EStateM ε (Process A σ) α) : EStateM ε (Process A σ) α := fun p =>
  match x p with
  | .ok a p' => .ok a p'
  | .error e p' => .error (f e) p'

def leaves (r : EStateM.Result ε (Process A σ) α) : σ :=
  match r with
  | .ok _ p => p.durable
  | .error _ p => p.durable

/-- Every way `x` can end from the durable state `d`, whatever the surroundings reply. -/
def Acts (x : EStateM ε (Process A σ) α) (d : σ) (err : ε → σ → Prop) (ok : α → σ → Prop) :
    Prop :=
  ∀ replies, Ends x ⟨d, replies⟩ (fun e p => err e p.durable) fun a p => ok a p.durable

variable {d : σ} {err : ε → σ → Prop} {ok : α → σ → Prop} {ok' : β → σ → Prop}

namespace Acts

theorem of_ok {x : EStateM ε (Process A σ) α} (h : Acts x d err ok) {replies : List (Reply A)}
    {a : α} {p : Process A σ} (hx : x ⟨d, replies⟩ = .ok a p) : ok a p.durable :=
  (h replies).of_ok hx

theorem of_error {x : EStateM ε (Process A σ) α} (h : Acts x d err ok)
    {replies : List (Reply A)} {e : ε} {p : Process A σ} (hx : x ⟨d, replies⟩ = .error e p) :
    err e p.durable :=
  (h replies).of_error hx

theorem leaves {x : EStateM ε (Process A σ) α} {inv : σ → Prop}
    (h : Acts x d (fun _ => inv) fun _ => inv) (replies : List (Reply A)) :
    inv (leaves (x ⟨d, replies⟩)) := by
  unfold CashuService.leaves
  cases hx : x ⟨d, replies⟩ with
  | ok a p => exact h.of_ok hx
  | error e p => exact h.of_error hx

protected theorem imp {x : EStateM ε (Process A σ) α} {err' : ε → σ → Prop}
    {ok'' : α → σ → Prop} (h : Acts x d err ok) (he : ∀ e d', err e d' → err' e d')
    (ho : ∀ a d', ok a d' → ok'' a d') : Acts x d err' ok'' :=
  fun replies => (h replies).imp (fun e _ => he e _) fun a _ => ho a _

protected theorem pure {a : α} (h : ok a d) :
    Acts (pure a : EStateM ε (Process A σ) α) d err ok := fun _ => .pure h

protected theorem throw {e : ε} (h : err e d) :
    Acts (throw e : EStateM ε (Process A σ) α) d err ok := fun _ => .throw h

protected theorem seq {x : EStateM ε (Process A σ) α} {f : α → EStateM ε (Process A σ) β}
    {q : α → σ → Prop} (hx : Acts x d err q) (hf : ∀ a d', q a d' → Acts (f a) d' err ok') :
    Acts (x >>= f) d err ok' :=
  fun replies => (hx replies).seq fun a p hp => hf a p.durable hp p.replies

protected theorem ite {c : Prop} [Decidable c] {x y : EStateM ε (Process A σ) α}
    (ht : c → Acts x d err ok) (hf : ¬c → Acts y d err ok) :
    Acts (if c then x else y) d err ok :=
  fun replies => .ite (fun h => ht h replies) fun h => hf h replies

protected theorem peek {g : σ → α} (h : ok (g d) d) :
    Acts (peek g : EStateM ε (Process A σ) α) d err ok := fun _ => .of_eq_ok rfl h

protected theorem peek_bind {g : σ → α} {f : α → EStateM ε (Process A σ) β}
    (h : Acts (f (g d)) d err ok') : Acts (peek g >>= f) d err ok' :=
  fun _ => .intro (fun _ _ hx => h.of_error hx) fun _ _ hx => h.of_ok hx

protected theorem call {stopped : ε} {failed : String → ε} {full : A → σ → σ}
    {part : Nat → σ → σ} {ok : A → σ → Prop} (hbefore : err stopped d)
    (hfull : ∀ a, ok a (full a d)) (hfails : ∀ n message, err (failed message) (part n d))
    (hstops : ∀ n, err stopped (part n d)) : Acts (call stopped failed full part) d err ok := by
  intro replies
  cases replies with
  | nil => exact .of_eq_error rfl hbefore
  | cons reply replies =>
    cases reply with
    | returns a => exact .of_eq_ok rfl (hfull a)
    | fails n message => exact .of_eq_error rfl (hfails n message)
    | stops n => exact .of_eq_error rfl (hstops n)

protected theorem tryCall {stopped : ε} {full : A → σ → σ} {part : Nat → σ → σ}
    {ok : Except String A → σ → Prop} (hbefore : err stopped d)
    (hfull : ∀ a, ok (.ok a) (full a d)) (hfails : ∀ message, ok (.error message) d)
    (hstops : ∀ n, err stopped (part n d)) : Acts (tryCall stopped full part) d err ok := by
  intro replies
  cases replies with
  | nil => exact .of_eq_error rfl hbefore
  | cons reply replies =>
    cases reply with
    | returns a => exact .of_eq_ok rfl (hfull a)
    | fails n message => exact .of_eq_ok rfl (hfails message)
    | stops n => exact .of_eq_error rfl (hstops n)

protected theorem onError {g : ε → ε} {x : EStateM ε (Process A σ) α}
    (h : Acts x d (fun e => err (g e)) ok) : Acts (onError g x) d err ok := by
  intro replies
  have hx := h replies
  unfold Ends at hx ⊢
  unfold CashuService.onError
  cases hr : x ⟨d, replies⟩ <;> rw [hr] at hx <;> exact hx

end Acts

def Answers (Q : A → Prop) (replies : List (Reply A)) : Prop := ∀ a, .returns a ∈ replies → Q a

def ActsOn (Q : A → Prop) (x : EStateM ε (Process A σ) α) (d : σ) (err : ε → σ → Prop)
    (ok : α → σ → Prop) : Prop :=
  ∀ replies, Answers Q replies → Ends x ⟨d, replies⟩ (fun e p => err e p.durable)
    fun a p => ok a p.durable ∧ Answers Q p.replies

namespace ActsOn

variable {Q : A → Prop}

theorem of_ok {x : EStateM ε (Process A σ) α} (h : ActsOn Q x d err ok) {replies : List (Reply A)}
    {a : α} {p : Process A σ} (hreplies : Answers Q replies) (hx : x ⟨d, replies⟩ = .ok a p) :
    ok a p.durable :=
  ((h replies hreplies).of_ok hx).1

theorem leaves {x : EStateM ε (Process A σ) α} {inv : σ → Prop}
    (h : ActsOn Q x d (fun _ => inv) fun _ => inv) {replies : List (Reply A)}
    (hreplies : Answers Q replies) : inv (leaves (x ⟨d, replies⟩)) := by
  unfold CashuService.leaves
  cases hx : x ⟨d, replies⟩ with
  | ok a p => exact h.of_ok hreplies hx
  | error e p => exact (h replies hreplies).of_error hx

protected theorem imp {x : EStateM ε (Process A σ) α} {err' : ε → σ → Prop}
    {ok'' : α → σ → Prop} (h : ActsOn Q x d err ok) (he : ∀ e d', err e d' → err' e d')
    (ho : ∀ a d', ok a d' → ok'' a d') : ActsOn Q x d err' ok'' :=
  fun replies hreplies => (h replies hreplies).imp (fun e _ => he e _)
    fun a _ hp => ⟨ho a _ hp.1, hp.2⟩

protected theorem pure {a : α} (h : ok a d) :
    ActsOn Q (pure a : EStateM ε (Process A σ) α) d err ok := fun _ hreplies => .pure ⟨h, hreplies⟩

protected theorem throw {e : ε} (h : err e d) :
    ActsOn Q (throw e : EStateM ε (Process A σ) α) d err ok := fun _ _ => .throw h

protected theorem seq {x : EStateM ε (Process A σ) α} {f : α → EStateM ε (Process A σ) β}
    {q : α → σ → Prop} (hx : ActsOn Q x d err q) (hf : ∀ a d', q a d' → ActsOn Q (f a) d' err ok') :
    ActsOn Q (x >>= f) d err ok' :=
  fun replies hreplies => (hx replies hreplies).seq fun a p hp =>
    hf a p.durable hp.1 p.replies hp.2

protected theorem ite {c : Prop} [Decidable c] {x y : EStateM ε (Process A σ) α}
    (ht : c → ActsOn Q x d err ok) (hf : ¬c → ActsOn Q y d err ok) :
    ActsOn Q (if c then x else y) d err ok :=
  fun replies hreplies => .ite (fun h => ht h replies hreplies) fun h => hf h replies hreplies

protected theorem attempt {r : Except ε α} (he : ∀ e, r = .error e → err e d)
    (ho : ∀ a, r = .ok a → ok a d) : ActsOn Q (attempt r) d err ok :=
  fun _ hreplies => .attempt he fun a ha => ⟨ho a ha, hreplies⟩

protected theorem peek_bind {g : σ → α} {f : α → EStateM ε (Process A σ) β}
    (h : ActsOn Q (f (g d)) d err ok') : ActsOn Q (peek g >>= f) d err ok' :=
  fun replies hreplies => .intro (fun _ _ hx => (h replies hreplies).of_error hx)
    fun _ _ hx => (h replies hreplies).of_ok hx

protected theorem call {stopped : ε} {failed : String → ε} {full : A → σ → σ}
    {part : Nat → σ → σ} {ok : A → σ → Prop} (hbefore : err stopped d)
    (hfull : ∀ a, Q a → ok a (full a d)) (hfails : ∀ n message, err (failed message) (part n d))
    (hstops : ∀ n, err stopped (part n d)) :
    ActsOn Q (call stopped failed full part) d err ok := by
  intro replies hreplies
  cases replies with
  | nil => exact .of_eq_error rfl hbefore
  | cons reply replies =>
    cases reply with
    | returns a =>
      exact .of_eq_ok rfl ⟨hfull a (hreplies a List.mem_cons_self),
        fun a' h => hreplies a' (List.mem_cons_of_mem _ h)⟩
    | fails n message => exact .of_eq_error rfl (hfails n message)
    | stops n => exact .of_eq_error rfl (hstops n)

end ActsOn

theorem acts_iff_on {x : EStateM ε (Process A σ) α} :
    Acts x d err ok ↔ ActsOn (fun _ => True) x d err ok := by
  constructor
  · intro h replies _
    exact (h replies).imp (fun _ _ h => h) fun _ _ h => ⟨h, fun _ _ => trivial⟩
  · intro h replies
    exact (h replies fun _ _ => trivial).imp (fun _ _ h => h) fun _ _ h => h.1

end
end CashuService
