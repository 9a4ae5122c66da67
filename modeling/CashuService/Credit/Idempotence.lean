import CashuService.Credit.Growth
import CashuService.Credit.Settlement
set_option autoImplicit false

namespace CashuService

/-- A record that is submitted under an idempotency key of its own. -/
inductive Submission where
  | deposit (deposit : BackingDeposit)
  | receipt (claim : ServiceReceiptClaim)
  | novation (novation : CreditNovation)
  | backed (settlement : BackedCreditSettlement)
  | consumption (consumption : ClosedLoopConsumption)
  | external (request : ExternalSettlementRequest)
  deriving DecidableEq, Repr

/-- What a call is applied at most once for. A decision is the completion or cancellation of an
external settlement. -/
inductive IdempotencyKey where
  | deposit (issuer depositId : String)
  | receipt (receiptId : String)
  | novation (novationId : String)
  | backed (settlementId : String)
  | consumption (consumptionId : String)
  | external (settlementId : String)
  | decision (settlementId : String)
  deriving DecidableEq, Repr

def Submission.key : Submission → IdempotencyKey
  | deposit d => .deposit d.issuer d.depositId
  | receipt c => .receipt c.receiptId
  | novation n => .novation n.novationId
  | backed b => .backed b.settlementId
  | consumption c => .consumption c.consumptionId
  | external r => .external r.settlementId

def Submission.identify : Submission → String → CreditAccount → Except CreditError Unit
  | deposit d, auth, a => a.validateBackingDeposit d auth
  | receipt c, auth, a => a.validateReceiptIdentity c auth
  | novation n, auth, a => a.validateNovationIdentity n auth
  | backed b, auth, a => a.validateBackedSettlementIdentity b auth
  | consumption c, auth, a => a.validateClosedLoopConsumption c auth
  | external r, auth, a => a.validateSettlementIdentity r auth

namespace Operation

def submission : Operation → Option Submission
  | recordBackingDeposit d _ => some (.deposit d)
  | applyReceipt c _ _ _ => some (.receipt c)
  | novatePeerCredit n _ _ => some (.novation n)
  | settlePeerCreditWithBacking b _ _ => some (.backed b)
  | consumeClosedLoop c _ => some (.consumption c)
  | authorizeExternalSettlement r _ _ => some (.external r)
  | completeExternalSettlement _ _ | cancelExternalSettlement _ => none

def key : Operation → IdempotencyKey
  | recordBackingDeposit d _ => (Submission.deposit d).key
  | applyReceipt c _ _ _ => (Submission.receipt c).key
  | novatePeerCredit n _ _ => (Submission.novation n).key
  | settlePeerCreditWithBacking b _ _ => (Submission.backed b).key
  | consumeClosedLoop c _ => (Submission.consumption c).key
  | authorizeExternalSettlement r _ _ => (Submission.external r).key
  | completeExternalSettlement id _ | cancelExternalSettlement id => .decision id

def identity : Operation → Option String
  | recordBackingDeposit _ auth | applyReceipt _ auth _ _ | novatePeerCredit _ auth _
  | settlePeerCreditWithBacking _ auth _ | consumeClosedLoop _ auth
  | authorizeExternalSettlement _ auth _ => some auth
  | completeExternalSettlement _ _ | cancelExternalSettlement _ => none

end Operation

namespace CreditAccount

def stored (a : CreditAccount) : IdempotencyKey → Option Submission
  | .deposit issuer depositId => a.backingDeposits[(issuer, depositId)]?.map .deposit
  | .receipt id => a.appliedReceipts[id]?.map .receipt
  | .novation id => a.novations[id]?.map .novation
  | .backed id => a.backedSettlements[id]?.map .backed
  | .consumption id => a.closedLoopConsumptions[id]?.map .consumption
  | .external id => a.settlements[id]?.map fun x => .external x.request
  | .decision _ => none

/-- The key has had its effect. -/
def Used (a : CreditAccount) : IdempotencyKey → Prop
  | .decision id => ∃ x, a.settlements[id]? = some x ∧ x.state ≠ .pending
  | k => ∃ x, a.stored k = some x

/-- How often the calls under a key changed the account during a run. -/
def timesApplied (k : IdempotencyKey) : CreditAccount → List Operation → Nat
  | _, [] => 0
  | a, op :: ops =>
    (if op.key = k ∧ op.exec a ≠ a then 1 else 0) + timesApplied k (op.exec a) ops

/-- What an account reports when a record it keeps is submitted again, and `first` was the
report when it was applied. -/
inductive Recognizes (a : CreditAccount) (first : Response) :
    Submission → EStateM.Result CreditError CreditAccount Response → Prop where
  | deposit {d : BackingDeposit} :
      Recognizes a first (.deposit d) (.ok (.receipt .alreadyApplied) a)
  | receipt {c : ServiceReceiptClaim} :
      Recognizes a first (.receipt c) (.ok (.receipt .alreadyApplied) a)
  | novation {n : CreditNovation} : Recognizes a first (.novation n) (.ok .done a)
  | backed {b : BackedCreditSettlement} :
      Recognizes a first (.backed b) (.ok (.receipt .alreadyApplied) a)
  | consumption {c : ClosedLoopConsumption} :
      Recognizes a first (.consumption c) (.ok (.receipt .alreadyApplied) a)
  | pending {r : ExternalSettlementRequest} {x : SettlementRecord}
      (stored : a.settlements[r.settlementId]? = some x) (state : x.state = .pending) :
      Recognizes a first (.external r) (.ok first a)
  | completed {r : ExternalSettlementRequest} {x : SettlementRecord} {fee : UInt64}
      (stored : a.settlements[r.settlementId]? = some x) (state : x.state = .completed fee) :
      Recognizes a first (.external r) (.error .settlementCompleted a)
  | cancelled {r : ExternalSettlementRequest} {x : SettlementRecord}
      (stored : a.settlements[r.settlementId]? = some x) (state : x.state = .cancelled) :
      Recognizes a first (.external r) (.error .settlementCancelled a)

variable {a b a' : CreditAccount} {op : Operation} {r : Response} {x y : Submission}
  {k : IdempotencyKey}

theorem map_getElem?_of_extends {κ α β : Type} [Ord κ] [Std.TransOrd κ] [Std.LawfulEqOrd κ]
    {m m' : BTreeMap κ α} {k : κ} {f : α → β} {y : β} (h : m'.Extends m)
    (hy : m[k]?.map f = some y) : m'[k]?.map f = some y := by
  obtain ⟨v, hv, hf⟩ := Option.map_eq_some_iff.mp hy
  rw [h k v hv, Option.map_some, hf]

theorem Grows.stored (h : a.Grows b) (hx : a.stored k = some x) : b.stored k = some x := by
  cases k with
  | deposit issuer depositId => exact map_getElem?_of_extends h.deposits hx
  | receipt id => exact map_getElem?_of_extends h.receipts hx
  | novation id => exact map_getElem?_of_extends h.novations hx
  | backed id => exact map_getElem?_of_extends h.backed hx
  | consumption id => exact map_getElem?_of_extends h.consumptions hx
  | external id =>
    obtain ⟨z, hz, rfl⟩ := Option.map_eq_some_iff.mp hx
    obtain ⟨w, hw, hfollows⟩ := h.settlements _ _ hz
    simp only [CreditAccount.stored, hw, Option.map_some, hfollows.request]
  | decision id => cases hx

theorem Grows.used (h : a.Grows b) (hk : a.Used k) : b.Used k := by
  cases k with
  | decision id =>
    obtain ⟨x, hx, hdecided⟩ := hk
    exact ⟨x, h.decided hx hdecided, hdecided⟩
  | _ =>
    obtain ⟨x, hx⟩ := hk
    exact ⟨x, h.stored hx⟩

end CreditAccount

open CreditAccount

section

variable {a a' : CreditAccount} {op : Operation} {r : Response}

theorem Applied.unused (h : Applied a op r a') : ¬a.Used op.key := by
  cases h with
  | completion hstored hstate =>
    intro hused
    obtain ⟨y, hy, hdecided⟩ := hused
    rw [hstored, Option.some.injEq] at hy
    subst hy
    exact hdecided hstate
  | cancellation hstored hstate =>
    intro hused
    obtain ⟨y, hy, hdecided⟩ := hused
    rw [hstored, Option.some.injEq] at hy
    subst hy
    exact hdecided hstate
  | _ => simp [Used, stored, Operation.key, Submission.key, *]

theorem Applied.used (h : Applied a op r a') : a'.Used op.key := by
  cases h with
  | completion hstored hstate => simp [Used, Operation.key, hstored]
  | cancellation hstored hstate => simp [Used, Operation.key, hstored]
  | _ => simp [Used, stored, Operation.key, Submission.key]

end

namespace CreditAccount

variable {a b a' : CreditAccount} {op : Operation} {r : Response} {x y : Submission}
  {k : IdempotencyKey}

theorem exec_of_used (h : a.Used op.key) : op.exec a = a := by
  rcases op.exec_cases a with hsame | ⟨_, _, happlied⟩
  · exact hsame
  · exact absurd h happlied.unused

theorem used_of_exec (h : op.exec a ≠ a) : (op.exec a).Used op.key := by
  rcases op.exec_cases a with hsame | ⟨_, _, happlied⟩
  · exact absurd hsame h
  · exact happlied.used

theorem timesApplied_of_used (ops : List Operation) (h : a.Used k) : timesApplied k a ops = 0 := by
  induction ops generalizing a with
  | nil => rfl
  | cons op ops ih =>
    have hstill : ¬(op.key = k ∧ op.exec a ≠ a) := by
      intro hchanged
      obtain ⟨rfl, hne⟩ := hchanged
      exact hne (exec_of_used h)
    simp only [timesApplied, hstill, if_false, ih ((op.exec_grows a).used h)]

theorem timesApplied_le_one (a : CreditAccount) (ops : List Operation) (k : IdempotencyKey) :
    timesApplied k a ops ≤ 1 := by
  induction ops generalizing a with
  | nil => exact Nat.zero_le _
  | cons op ops ih =>
    by_cases hchanged : op.key = k ∧ op.exec a ≠ a
    · have hused : (op.exec a).Used k := hchanged.1 ▸ used_of_exec hchanged.2
      simp only [timesApplied, if_pos hchanged, timesApplied_of_used ops hused]
      omega
    · simp only [timesApplied, hchanged, if_false]
      have hrest := ih (op.exec a)
      omega

theorem known_congr {i : String} {f : Except CreditError Unit}
    (h : b.relationship = a.relationship) :
    (b.issuer i >>= fun _ => f) = (a.issuer i >>= fun _ => f) := by
  have hmem : i ∈ b.issuers ↔ i ∈ a.issuers := by
    have hset := congrArg Relationship.issuers h
    exact Set.ext_iff.mp hset i
  simp only [BTreeMap.mem_iff_exists] at hmem
  cases hb : b.issuers[i]? <;> cases ha : a.issuers[i]? <;> simp_all [issuer, okOr]
  rfl

theorem identify_congr (x : Submission) (auth : String) (h : b.relationship = a.relationship) :
    x.identify auth b = x.identify auth a := by
  have hcounterparty : b.counterparty = a.counterparty := congrArg Relationship.counterparty h
  cases x <;> simp only [Submission.identify, validateBackingDeposit, validateReceiptIdentity,
    validateNovationIdentity, validateBackedSettlementIdentity, validateClosedLoopConsumption,
    validateSettlementIdentity, hcounterparty, known_congr h]

/-- The checks an accepted call passed, and the record it left or found. -/
structure Accepted (a : CreditAccount) (x : Submission) (auth : Option String) (r : Response) :
    Prop where
  identified : ∃ i, auth = some i ∧ x.identify i a = .ok ()
  kept : a.stored x.key = some x
  issued : ∀ q, x = .external q → ∃ z, r = .authorization z ∧
    ∃ y, a.settlements[q.settlementId]? = some y ∧ y.authorization = z

theorem accepted_of_replayed (hx : op.submission = some x) (h : Replayed a op r) :
    a.Accepted x op.identity r := by
  cases h with
  | completion | cancellation => cases hx
  | authorization identity hstored =>
    cases hx
    exact ⟨⟨_, rfl, identity⟩, by simp [stored, Submission.key, hstored],
      fun q hq => ⟨_, rfl, _, by cases hq; exact hstored, rfl⟩⟩
  | _ =>
    cases hx
    exact ⟨⟨_, rfl, by assumption⟩, by simp [stored, Submission.key, *], by simp⟩

theorem accepted_of_applied (hx : op.submission = some x) (h : Applied a op r a') :
    a'.Accepted x op.identity r := by
  have hrelationship := h.grows.relationship
  cases h with
  | completion | cancellation => cases hx
  | deposit valid =>
    cases hx
    exact ⟨⟨_, rfl, by rwa [identify_congr _ _ hrelationship]⟩,
      by simp [stored, Submission.key], by simp⟩
  | consumption valid =>
    cases hx
    exact ⟨⟨_, rfl, by rwa [identify_congr _ _ hrelationship]⟩,
      by simp [stored, Submission.key], by simp⟩
  | receipt fresh valid =>
    cases hx
    exact ⟨⟨_, rfl, by rw [identify_congr _ _ hrelationship]; exact Except.first_eq_ok valid⟩,
      by simp [stored, Submission.key], by simp⟩
  | novation fresh valid =>
    cases hx
    exact ⟨⟨_, rfl, by rw [identify_congr _ _ hrelationship]; exact Except.first_eq_ok valid⟩,
      by simp [stored, Submission.key], by simp⟩
  | backed fresh valid =>
    cases hx
    exact ⟨⟨_, rfl, by rw [identify_congr _ _ hrelationship]; exact Except.first_eq_ok valid⟩,
      by simp [stored, Submission.key], by simp⟩
  | authorization fresh valid =>
    cases hx
    exact ⟨⟨_, rfl, by rw [identify_congr _ _ hrelationship]; exact Except.first_eq_ok valid⟩,
      by simp [stored, Submission.key], by simp⟩

theorem Accepted.later {auth : Option String} (h : a.Accepted x auth r) (hg : a.Grows b) :
    b.Accepted x auth r := by
  obtain ⟨⟨i, hi, hidentified⟩, hkept, hissued⟩ := h
  refine ⟨⟨i, hi, by rwa [identify_congr _ _ hg.relationship]⟩, hg.stored hkept, ?_⟩
  intro q hq
  obtain ⟨z, hz, y, hy, hauthorization⟩ := hissued q hq
  obtain ⟨w, hw, hfollows⟩ := hg.settlements _ _ hy
  exact ⟨z, hz, w, hw, hfollows.authorization.trans hauthorization⟩

theorem run_identified {α : Type} {check : CreditAccount → Except CreditError Unit}
    {f : CreditAccount → AccountM α} (h : check a = .ok ()) :
    (get >>= fun self => attempt (check self) >>= fun _ => get >>= f) a = f a a := by
  simp only [bind, EStateM.bind, get, getThe, MonadStateOf.get, EStateM.get, attempt, h]

theorem recordBackingDeposit_again {d : BackingDeposit} {auth : String}
    (hidentified : a.validateBackingDeposit d auth = .ok ())
    (hd : a.backingDeposits[(d.issuer, d.depositId)]? = some d) :
    recordBackingDeposit d auth a = .ok .alreadyApplied a := by
  unfold recordBackingDeposit
  rw [run_identified hidentified]
  simp only [hd, if_true]
  rfl

theorem applyReceipt_again {c : ServiceReceiptClaim} {auth : String} (mode : AcceptanceMode)
    (now : UInt64) (hidentified : a.validateReceiptIdentity c auth = .ok ())
    (hc : a.appliedReceipts[c.receiptId]? = some c) :
    applyReceipt c auth mode now a = .ok .alreadyApplied a := by
  unfold applyReceipt
  rw [run_identified hidentified]
  simp only [hc, if_true]
  rfl

theorem novatePeerCredit_again {n : CreditNovation} {auth : String} (now : UInt64)
    (hidentified : a.validateNovationIdentity n auth = .ok ())
    (hn : a.novations[n.novationId]? = some n) :
    novatePeerCredit n auth now a = .ok () a := by
  unfold novatePeerCredit
  rw [run_identified hidentified]
  simp only [hn, if_true]
  rfl

theorem settlePeerCreditWithBacking_again {s : BackedCreditSettlement} {auth : String}
    (now : UInt64)
    (hidentified : a.validateBackedSettlementIdentity s auth = .ok ())
    (hs : a.backedSettlements[s.settlementId]? = some s) :
    settlePeerCreditWithBacking s auth now a = .ok .alreadyApplied a := by
  unfold settlePeerCreditWithBacking
  rw [run_identified hidentified]
  simp only [hs, if_true]
  rfl

theorem consumeClosedLoop_again {c : ClosedLoopConsumption} {auth : String}
    (hidentified : a.validateClosedLoopConsumption c auth = .ok ())
    (hc : a.closedLoopConsumptions[c.consumptionId]? = some c) :
    consumeClosedLoop c auth a = .ok .alreadyApplied a := by
  unfold consumeClosedLoop
  rw [run_identified hidentified]
  simp only [hc, if_true]
  rfl

theorem authorizeExternalSettlement_again {auth : String} (now : UInt64) {y : SettlementRecord}
    (hidentified : a.validateSettlementIdentity y.request auth = .ok ())
    (hy : a.settlements[y.request.settlementId]? = some y) :
    authorizeExternalSettlement y.request auth now a = match y.state with
      | .pending => .ok y.authorization a
      | .completed _ => .error .settlementCompleted a
      | .cancelled => .error .settlementCancelled a := by
  unfold authorizeExternalSettlement
  rw [run_identified hidentified]
  simp only [hy, ne_eq, not_true, if_false]
  cases y.state <;> rfl

theorem Accepted.again {auth : Option String} (h : a.Accepted x auth r)
    (hx : op.submission = some x) (hauth : op.identity = auth) : a.Recognizes r x (op.run a) := by
  obtain ⟨⟨i, hi, hidentified⟩, hkept, hissued⟩ := h
  subst hauth
  cases op with
  | completeExternalSettlement | cancelExternalSettlement => cases hx
  | authorizeExternalSettlement q auth now =>
    cases hx
    cases hi
    obtain ⟨_, rfl, y, hy, rfl⟩ := hissued q rfl
    have hrequest : y.request = q := by simpa [stored, Submission.key, hy] using hkept
    subst hrequest
    have hrun := authorizeExternalSettlement_again now hidentified hy
    cases hstate : y.state with
    | pending =>
      simp only [Operation.run, bind, EStateM.bind, hrun, hstate]
      exact .pending hy hstate
    | completed fee =>
      simp only [Operation.run, bind, EStateM.bind, hrun, hstate]
      exact .completed hy hstate
    | cancelled =>
      simp only [Operation.run, bind, EStateM.bind, hrun, hstate]
      exact .cancelled hy hstate
  | recordBackingDeposit d auth =>
    cases hx
    cases hi
    obtain ⟨_, hd, heq⟩ := Option.map_eq_some_iff.mp hkept
    cases heq
    simp only [Operation.run, bind, EStateM.bind, recordBackingDeposit_again hidentified hd]
    exact .deposit
  | applyReceipt c auth mode now =>
    cases hx
    cases hi
    obtain ⟨_, hc, heq⟩ := Option.map_eq_some_iff.mp hkept
    cases heq
    simp only [Operation.run, bind, EStateM.bind, applyReceipt_again mode now hidentified hc]
    exact .receipt
  | novatePeerCredit n auth now =>
    cases hx
    cases hi
    obtain ⟨_, hn, heq⟩ := Option.map_eq_some_iff.mp hkept
    cases heq
    simp only [Operation.run, bind, EStateM.bind, novatePeerCredit_again now hidentified hn]
    exact .novation
  | settlePeerCreditWithBacking s auth now =>
    cases hx
    cases hi
    obtain ⟨_, hs, heq⟩ := Option.map_eq_some_iff.mp hkept
    cases heq
    simp only [Operation.run, bind, EStateM.bind,
      settlePeerCreditWithBacking_again now hidentified hs]
    exact .backed
  | consumeClosedLoop c auth =>
    cases hx
    cases hi
    obtain ⟨_, hc, heq⟩ := Option.map_eq_some_iff.mp hkept
    cases heq
    simp only [Operation.run, bind, EStateM.bind, consumeClosedLoop_again hidentified hc]
    exact .consumption

theorem conflict (hk : a.stored y.key = some x) (hy : op.submission = some y) (hne : y ≠ x) :
    ∃ e, op.run a = .error e a := by
  cases hr : op.run a with
  | error e a' => exact ⟨e, by rw [(op.run_ends a).of_error hr]⟩
  | ok r a' =>
    have hends := (op.run_ends a).of_ok hr
    rcases hends with ⟨_, hreplayed⟩ | happlied
    · have hkept := (accepted_of_replayed hy hreplayed).kept
      rw [hk, Option.some.injEq] at hkept
      exact absurd hkept.symm hne
    · have hunused := happlied.unused
      have hkey : op.key = y.key := by cases op <;> cases hy <;> rfl
      rw [hkey] at hunused
      cases y <;> exact absurd ⟨x, hk⟩ hunused

/-- Exactly-once application. Whatever happens after a record was applied under its key, the
account keeps it, recognizes it when the same caller repeats it, and refuses any other record
under that key. So a key has its effect at most once. -/
theorem exactly_once (a : CreditAccount) :
    (∀ (op : Operation) x r a', op.submission = some x → op.run a = .ok r a' → ∀ ops,
      (a'.after ops).stored x.key = some x ∧
      (∀ again : Operation, again.submission = some x → again.identity = op.identity →
        (a'.after ops).Recognizes r x (again.run (a'.after ops))) ∧
      ∀ (other : Operation) (y : Submission), other.submission = some y → y.key = x.key →
        y ≠ x → ∃ e, other.run (a'.after ops) = .error e (a'.after ops)) ∧
    (∀ ops k x, a.stored k = some x → (a.after ops).stored k = some x) ∧
    (∀ ops, a.settlements.Each fun id y =>
      ∃ z, (a.after ops).settlements[id]? = some z ∧ y.Follows z) ∧
    ∀ ops k, timesApplied k a ops ≤ 1 := by
  refine ⟨?_, fun ops k x hx => (a.after_grows ops).stored hx,
    fun ops => (a.after_grows ops).settlements, timesApplied_le_one a⟩
  intro op x r a' hx hr ops
  have haccepted : a'.Accepted x op.identity r := by
    rcases (op.run_ends a).of_ok hr with ⟨rfl, hreplayed⟩ | happlied
    · exact accepted_of_replayed hx hreplayed
    · exact accepted_of_applied hx happlied
  have hlater := haccepted.later (a'.after_grows ops)
  refine ⟨hlater.kept, fun again hagain hidentity => hlater.again hagain hidentity, ?_⟩
  intro other y hy hkey hne
  exact conflict (hkey ▸ hlater.kept) hy hne

theorem exactly_once_sample :
    (sampleAccount.after sampleOperations).Recognizes (.receipt .applied)
      (.receipt (sampleReceipt "r1" 40 .reserveBackedWithdrawable))
      ((Operation.applyReceipt (sampleReceipt "r1" 40 .reserveBackedWithdrawable) "alpha"
        .offlineDeferred 1000).run (sampleAccount.after sampleOperations)) := by
  have hops : sampleAccount.after sampleOperations =
      (sampleAccount.after (sampleOperations.take 3)).after (sampleOperations.drop 3) := rfl
  have hrun : (Operation.applyReceipt (sampleReceipt "r1" 40 .reserveBackedWithdrawable) "alpha"
      .online 15).run (sampleAccount.after (sampleOperations.take 2)) =
        .ok (.receipt .applied) (sampleAccount.after (sampleOperations.take 3)) := by
    rfl
  rw [hops]
  exact ((exactly_once _).1 _ _ _ _ rfl hrun _).2.1 _ rfl rfl

/-- A failed call leaves no trace, so it can be struck from any run. -/
theorem failed_operation_atomic {e : CreditError} (h : op.run a = .error e a') :
    a' = a ∧ ∀ ops, a.after (op :: ops) = a.after ops := by
  have hsame := (op.run_ends a).of_error h
  have hexec : op.exec a = a := by simp only [Operation.exec, h, hsame]
  refine ⟨hsame, fun ops => ?_⟩
  simp only [after, List.foldl_cons, hexec]

def sampleOverdraft : Operation :=
  .novatePeerCredit ⟨"n2", "peer", "alpha", "beta", 11, 20⟩ "beta" 15

theorem failed_operation_atomic_sample :
    ∃ e a', sampleOverdraft.run (sampleAccount.after sampleOperations) = .error e a' ∧
      a' = sampleAccount.after sampleOperations := by
  have hfails : (match sampleOverdraft.run (sampleAccount.after sampleOperations) with
    | .error e _ => decide (e = .insufficientPeerCredit)
    | .ok _ _ => false) = true := by decide +kernel
  cases hr : sampleOverdraft.run (sampleAccount.after sampleOperations) with
  | error e a' => exact ⟨e, a', rfl, (failed_operation_atomic hr).1⟩
  | ok r a' => simp [hr] at hfails

end CreditAccount
end CashuService
