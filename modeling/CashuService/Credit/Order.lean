import CashuService.Credit.Creation
import CashuService.Credit.Determined
import CashuService.Credit.History
set_option autoImplicit false

namespace CashuService

def PeerCreditEvent.undated : PeerCreditEvent → PeerCreditEvent
  | receipt _ id mode => .receipt 0 id mode
  | novation _ id => .novation 0 id
  | backedSettlement _ id => .backedSettlement 0 id

@[simp] theorem PeerCreditEvent.record_undated (e : PeerCreditEvent) :
    e.undated.record = e.record := by cases e <;> rfl

inductive Fact where
  | deposit (key : String × String) (deposit : BackingDeposit)
  | receipt (id : String) (claim : ServiceReceiptClaim)
  | novation (id : String) (novation : CreditNovation)
  | backed (id : String) (settlement : BackedCreditSettlement)
  | consumption (id : String) (consumption : ClosedLoopConsumption)
  | filed (id : String) (request : ExternalSettlementRequest)
      (authorization : ExternalSettlementAuthorization)
  | decided (id : String) (state : SettlementState)
  | logged (event : PeerCreditEvent)

def CreditAccount.Holds (a : CreditAccount) : Fact → Prop
  | .deposit key d => a.backingDeposits[key]? = some d
  | .receipt id c => a.appliedReceipts[id]? = some c
  | .novation id n => a.novations[id]? = some n
  | .backed id b => a.backedSettlements[id]? = some b
  | .consumption id c => a.closedLoopConsumptions[id]? = some c
  | .filed id q z => ∃ x, a.settlements[id]? = some x ∧ x.request = q ∧ x.authorization = z
  | .decided id state => state ≠ .pending ∧ ∃ x, a.settlements[id]? = some x ∧ x.state = state
  | .logged e => ∃ e' ∈ a.peerCreditEvents, e'.undated = e

def Operation.Adds : Operation → Fact → Prop
  | recordBackingDeposit d _, .deposit key d' => key = (d.issuer, d.depositId) ∧ d' = d
  | applyReceipt c _ _ _, .receipt id c' => id = c.receiptId ∧ c' = c
  | applyReceipt c _ mode _, .logged e =>
    c.valueClass = .peerCredit ∧ e = .receipt 0 c.receiptId mode
  | novatePeerCredit n _ _, .novation id n' => id = n.novationId ∧ n' = n
  | novatePeerCredit n _ _, .logged e => e = .novation 0 n.novationId
  | settlePeerCreditWithBacking b _ _, .backed id b' => id = b.settlementId ∧ b' = b
  | settlePeerCreditWithBacking b _ _, .logged e => e = .backedSettlement 0 b.settlementId
  | consumeClosedLoop c _, .consumption id c' => id = c.consumptionId ∧ c' = c
  | authorizeExternalSettlement q _ now, .filed id q' z => id = q.settlementId ∧ q' = q ∧
    ∃ reserved : UInt64, reserved.toNat = q.amountSat.toNat + q.maxFeeSat.toNat ∧
      z = CreditAccount.authorizationFor q reserved now
  | completeExternalSettlement id fee, .decided id' state => id' = id ∧ state = .completed fee
  | cancelExternalSettlement id, .decided id' state => id' = id ∧ state = .cancelled
  | _, _ => False

section

variable {κ α : Type} [Ord κ] [Std.TransOrd κ] [Std.LawfulEqOrd κ]

theorem getElem?_insert_eq_some {m : BTreeMap κ α} {k j : κ} {v w : α} (h : m[k]? = none) :
    (m.insert k v)[j]? = some w ↔ m[j]? = some w ∨ j = k ∧ w = v := by
  by_cases hj : k = j
  · subst j
    simp [h, eq_comm]
  · simp [BTreeMap.getElem?_insert_ne m v hj, Ne.symm hj]

theorem exists_getElem?_insert {m : BTreeMap κ α} {k j : κ} {v : α} {P : α → Prop}
    (h : m[k]? = none) :
    (∃ w, (m.insert k v)[j]? = some w ∧ P w) ↔ (∃ w, m[j]? = some w ∧ P w) ∨ j = k ∧ P v := by
  simp only [getElem?_insert_eq_some h, or_and_right, exists_or, and_assoc, exists_and_left,
    exists_eq_left]

theorem exists_getElem?_modify {m : BTreeMap κ α} {k j : κ} {g : α → α} {P : α → Prop}
    (h : ∀ v, P (g v) ↔ P v) :
    (∃ w, (m.modify k g)[j]? = some w ∧ P w) ↔ ∃ w, m[j]? = some w ∧ P w := by
  by_cases hj : k = j
  · subst j
    simp [h]
  · simp [BTreeMap.getElem?_modify_ne m g hj]

end

open CreditAccount

section

variable {a a' : CreditAccount} {op : Operation} {r : Response}

theorem holds_decide {id : String} {x : SettlementRecord} {state : SettlementState}
    {revision : UInt64} {issuers : BTreeMap String IssuerState}
    (stored : a.settlements[id]? = some x) (pending : x.state = .pending)
    (decided : state ≠ .pending) (f : Fact) :
    Holds { a with
      revision, issuers
      settlements := a.settlements.modify id fun y => { y with state } } f ↔
        a.Holds f ∨ f = .decided id state := by
  cases f with
  | filed id' q z =>
    simp only [Holds, reduceCtorEq, or_false]
    exact exists_getElem?_modify fun _ => .rfl
  | decided id' state' =>
    simp only [Holds, Fact.decided.injEq]
    by_cases hid : id = id'
    · subst hid
      simp [stored]
      grind
    · simp [BTreeMap.getElem?_modify_ne _ _ hid, Ne.symm hid]
  | _ => simp [Holds]

theorem Applied.holds_iff (h : Applied a op r a') (f : Fact) :
    a'.Holds f ↔ a.Holds f ∨ op.Adds f := by
  cases h with
  | deposit valid fresh =>
    cases f <;> simp [Holds, Operation.Adds, getElem?_insert_eq_some fresh]
  | @receipt c auth mode now revision total issuers fresh =>
    cases f <;> simp [Holds, Operation.Adds, getElem?_insert_eq_some fresh]
    by_cases hclass : c.valueClass = .peerCredit <;>
      simp [receiptEvents, hclass, or_and_right, exists_or, PeerCreditEvent.undated, eq_comm]
  | novation fresh =>
    cases f <;> simp [Holds, Operation.Adds, getElem?_insert_eq_some fresh, or_and_right, exists_or,
      PeerCreditEvent.undated, eq_comm]
  | backed fresh =>
    cases f <;> simp [Holds, Operation.Adds, getElem?_insert_eq_some fresh, or_and_right, exists_or,
      PeerCreditEvent.undated, eq_comm]
  | consumption valid fresh =>
    cases f <;> simp [Holds, Operation.Adds, getElem?_insert_eq_some fresh]
  | @authorization q auth now revision reserved issuers fresh valid next reserve =>
    cases f with
    | filed id q' z =>
      have hunique : (∃ x : UInt64, x.toNat = q.amountSat.toNat + q.maxFeeSat.toNat ∧
          z = authorizationFor q x now) ↔ authorizationFor q reserved now = z := by
        constructor
        · intro h
          obtain ⟨x, hx, rfl⟩ := h
          rw [UInt64.toNat_inj.mp (hx.trans reserve.symm)]
        · intro h
          exact ⟨reserved, reserve, h.symm⟩
      have hrequest : q = q' ↔ q' = q := eq_comm
      simp only [Holds, Operation.Adds, exists_getElem?_insert fresh, hunique, hrequest]
    | decided id state =>
      simp only [Holds, Operation.Adds, exists_getElem?_insert fresh, or_false]
      grind
    | _ => simp [Holds, Operation.Adds]
  | completion stored state =>
    rw [holds_decide stored state (by simp)]
    cases f <;> simp [Operation.Adds]
  | cancellation stored state =>
    rw [holds_decide stored state (by simp)]
    cases f <;> simp [Operation.Adds]

theorem Replayed.used (h : Replayed a op r) : a.Used op.key := by
  cases h with
  | completion stored state => exact ⟨_, stored, by simp [state]⟩
  | cancellation stored state => exact ⟨_, stored, by simp [state]⟩
  | _ => simp [Used, CreditAccount.stored, Operation.key, Submission.key, *]

end

namespace CreditAccount

variable {a b : CreditAccount} {op : Operation} {ops ops' : List Operation}

theorem FirstApplication.applied (h : a.FirstApplication op) :
    ∃ r, Applied a op r (op.exec a) := by
  obtain ⟨r, hrun⟩ := h.accepted
  rcases (op.run_ends a).of_ok hrun with ⟨_, hreplayed⟩ | happlied
  · exact absurd hreplayed.used h.fresh
  · exact ⟨r, happlied⟩

/-- A run in which every call is a first application. -/
def FirstApplications : CreditAccount → List Operation → Prop
  | _, [] => True
  | a, op :: ops => a.FirstApplication op ∧ FirstApplications (op.exec a) ops

/-- What an account remembers after a run depends on the set of its operations alone. -/
theorem FirstApplications.holds_iff (h : FirstApplications a ops) (f : Fact) :
    (a.after ops).Holds f ↔ a.Holds f ∨ ∃ op ∈ ops, Operation.Adds op f := by
  induction ops generalizing a with
  | nil => simp [after]
  | cons op ops ih =>
    obtain ⟨hfirst, hrest⟩ := h
    obtain ⟨r, happlied⟩ := hfirst.applied
    have hstep : a.after (op :: ops) = (op.exec a).after ops := rfl
    rw [hstep, ih hrest, happlied.holds_iff, List.exists_mem_cons_iff, or_assoc]

theorem settlement_of_holds (h : ∀ f, b.Holds f ↔ a.Holds f) {id : String}
    {x : SettlementRecord} (hx : b.settlements[id]? = some x) : a.settlements[id]? = some x := by
  obtain ⟨y, hy, hrequest, hauthorization⟩ :=
    (h (.filed id x.request x.authorization)).mp ⟨x, hx, rfl, rfl⟩
  have hstate : y.state = x.state := by
    by_cases hpending : x.state = .pending
    · by_contra hne
      have hdecided : y.state ≠ .pending := fun hp => hne (hp.trans hpending.symm)
      obtain ⟨_, z, hz, hstate⟩ := (h (.decided id y.state)).mpr ⟨hdecided, y, hy, rfl⟩
      rw [hx, Option.some.injEq] at hz
      subst hz
      exact hne hstate.symm
    · obtain ⟨_, z, hz, hstate⟩ := (h (.decided id x.state)).mp ⟨hpending, x, hx, rfl⟩
      rw [hy, Option.some.injEq] at hz
      subst hz
      exact hstate
  rw [hy]
  cases x
  cases y
  simp_all

theorem sameRecords_of_holds (hissuers : ∀ i : String, i ∈ b.issuers ↔ i ∈ a.issuers)
    (h : ∀ f, b.Holds f ↔ a.Holds f) : a.SameRecords b where
  issuers := hissuers
  receipts := Std.ExtTreeMap.ext_getElem? fun id => Option.ext fun c => h (.receipt id c)
  novations := Std.ExtTreeMap.ext_getElem? fun id => Option.ext fun n => h (.novation id n)
  deposits := Std.ExtTreeMap.ext_getElem? fun key => Option.ext fun d => h (.deposit key d)
  backed := Std.ExtTreeMap.ext_getElem? fun id => Option.ext fun s => h (.backed id s)
  consumptions := Std.ExtTreeMap.ext_getElem? fun id => Option.ext fun c => h (.consumption id c)
  settlements := Std.ExtTreeMap.ext_getElem? fun _ => Option.ext fun _ =>
    ⟨settlement_of_holds h, settlement_of_holds fun f => (h f).symm⟩

/-- The logs of accounts that remember the same differ in dates and order alone. -/
theorem events_perm_of_holds (ha : a.Coherent) (hb : b.Coherent)
    (h : ∀ f, b.Holds f ↔ a.Holds f) :
    (b.peerCreditEvents.map PeerCreditEvent.undated).Perm
      (a.peerCreditEvents.map PeerCreditEvent.undated) := by
  have hnodup : ∀ c : CreditAccount, c.Coherent →
      (c.peerCreditEvents.map PeerCreditEvent.undated).Nodup := by
    intro c hc
    apply List.Nodup.of_map PeerCreditEvent.record
    simpa [Function.comp_def] using hc.log.distinct
  rw [List.perm_ext_iff_of_nodup (hnodup b hb) (hnodup a ha)]
  intro e
  simpa [Holds] using h (.logged e)

/-- Two accounts that agree up to the offline part of peer credit and the dates of the log. -/
structure AgreeUpToOrder (a b : CreditAccount) : Prop where
  revision : b.revision = a.revision
  total : b.totalPeerCreditSat = a.totalPeerCreditSat
  records : a.SameRecords b
  ledgers : a.issuers.Each fun i s => ∃ t, b.issuers[i]? = some t ∧ SameBalances s t
  events : (b.peerCreditEvents.map PeerCreditEvent.undated).Perm
    (a.peerCreditEvents.map PeerCreditEvent.undated)

/-- Order independence: two orders of the same calls, in both of which every call is a first
application, lead to accounts that agree up to order. -/
theorem order_independent (ha : a.Reachable) (hperm : ops.Perm ops')
    (h : FirstApplications a ops) (h' : FirstApplications a ops') :
    (a.after ops).AgreeUpToOrder (a.after ops') := by
  have hc := (ha.after ops).coherent
  have hc' := (ha.after ops').coherent
  have hissuers : ∀ i : String, i ∈ (a.after ops').issuers ↔ i ∈ (a.after ops).issuers := fun i =>
    ((a.after_grows ops').issuers i).trans ((a.after_grows ops).issuers i).symm
  have hholds : ∀ f, (a.after ops').Holds f ↔ (a.after ops).Holds f := by
    intro f
    simp only [h.holds_iff, h'.holds_iff, hperm.mem_iff]
  have hrecords := sameRecords_of_holds hissuers hholds
  refine ⟨hrecords.revision hc hc', hrecords.total hc hc', hrecords, ?_,
    events_perm_of_holds hc hc' hholds⟩
  intro i s hs
  obtain ⟨t, ht⟩ := BTreeMap.mem_iff_exists.mp
    ((hissuers i).mpr (BTreeMap.mem_of_getElem? hs))
  exact ⟨t, ht, hrecords.sameBalances hc hc' hs ht⟩

theorem order_independent_sample :
    (sampleAccount.after
      [.recordBackingDeposit ⟨"d2", "beta", 30, .closedLoopDeposit⟩ "beta",
        .applyReceipt (sampleReceipt "r2" 25 .peerCredit) "alpha" .offlineDeferred 15]).AgreeUpToOrder
    (sampleAccount.after
      [.applyReceipt (sampleReceipt "r2" 25 .peerCredit) "alpha" .offlineDeferred 15,
        .recordBackingDeposit ⟨"d2", "beta", 30, .closedLoopDeposit⟩ "beta"]) :=
  order_independent (.new sampleAccount_new) (.swap _ _ [])
    ⟨firstApplication_of_changed (by decide +kernel),
      firstApplication_of_changed (by decide +kernel), trivial⟩
    ⟨firstApplication_of_changed (by decide +kernel),
      firstApplication_of_changed (by decide +kernel), trivial⟩

end CreditAccount
end CashuService
