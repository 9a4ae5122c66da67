import CashuService.Base.SplitBalance
import CashuService.Credit.Runs
set_option autoImplicit false

namespace CashuService

/-! The offline counter of a peer ledger. A debit does not say whether it pays back online or
offline credit; the counter is what can still be offline in the worst case. -/

inductive PeerCreditCall where
  | credit (amount : UInt64) (offline : Bool)
  | debit (amount : UInt64)
  deriving DecidableEq, Repr

namespace PeerCreditCall

def run : PeerCreditCall → EStateM CreditError PeerCreditLedger Unit
  | credit amount offline => PeerCreditLedger.credit amount offline
  | debit amount => PeerCreditLedger.debit amount

def posting : PeerCreditCall → Posting Nat
  | credit amount offline => .add amount.toNat offline
  | debit amount => .take amount.toNat

end PeerCreditCall

/-- One way of splitting every debit between the online and the offline credit that is still
outstanding, with what it leaves of each. -/
def Attribution (calls : List PeerCreditCall) (online offline : Nat) : Prop :=
  StepRun Split.Books ⟨0, 0⟩ (calls.map PeerCreditCall.posting) ⟨online, offline⟩

def PeerCreditLedger.clamped (l : PeerCreditLedger) : Clamped Nat :=
  ⟨l.outstandingSat.toNat, l.offlineOutstandingSat.toNat⟩

namespace PeerCreditLedger

variable {l l' : PeerCreditLedger} {amount : UInt64}

theorem Credited.books {offline : Bool} (h : l.Credited amount offline l') :
    l.clamped.Books (.add amount.toNat offline) l'.clamped := by
  obtain ⟨houtstanding, hoffline⟩ := h
  cases offline with
  | false =>
    have hl : l'.clamped = ⟨l.clamped.total + amount.toNat, l.clamped.bound⟩ :=
      Clamped.ext houtstanding hoffline
    exact hl ▸ .plain
  | true =>
    have hl : l'.clamped = ⟨l.clamped.total + amount.toNat, l.clamped.bound + amount.toNat⟩ :=
      Clamped.ext houtstanding hoffline
    exact hl ▸ .marked

theorem Debited.books (h : l.Debited amount l') :
    l.clamped.Books (.take amount.toNat) l'.clamped := by
  obtain ⟨houtstanding, hoffline⟩ := h
  have hl : l'.clamped = ⟨l'.clamped.total, min l.clamped.bound l'.clamped.total⟩ :=
    Clamped.ext rfl hoffline
  exact hl ▸ .take houtstanding

end PeerCreditLedger

def Movement.peerCall : Movement → Option PeerCreditCall
  | credit amount offline => some (.credit amount offline)
  | debit amount => some (.debit amount)
  | _ => none

namespace PeerCreditCall

open PeerCreditLedger

theorem run_books (call : PeerCreditCall) (l : PeerCreditLedger) :
    Ends call.run l (fun _ _ => True) fun _ l' => l.clamped.Books call.posting l'.clamped := by
  cases call with
  | credit amount offline =>
    exact (credit_ends l amount offline).imp (fun _ _ _ => trivial) fun _ _ h => h.books
  | debit amount =>
    exact (debit_ends l amount).imp (fun _ _ _ => trivial) fun _ _ h => h.books

theorem forM_books (calls : List PeerCreditCall) (l : PeerCreditLedger) :
    Ends (forM calls run) l (fun _ _ => True) fun _ l' =>
      StepRun Clamped.Books l.clamped (calls.map posting) l'.clamped := by
  induction calls generalizing l with
  | nil => exact .pure .nil
  | cons call calls ih =>
    rw [List.forM_cons]
    exact (call.run_books l).seq fun _ l' h =>
      (ih l').imp (fun _ _ _ => trivial) fun _ _ htail => .cons h htail

/-- Whatever the debits are charged to, at most the counter is left of the offline credit, and
some way of charging them leaves that much. -/
theorem counter_isGreatest {calls : List PeerCreditCall} {l : PeerCreditLedger}
    (h : forM calls run .zero = .ok () l) :
    IsGreatest {offline | ∃ online, Attribution calls online offline}
      l.offlineOutstandingSat.toNat :=
  Clamped.bound_isGreatest ((forM_books calls .zero).of_ok h)

theorem run_of_moves {ls : List Movement} {l l' : PeerCreditLedger}
    (h : StepRun PeerMoves l ls l') :
    forM (ls.filterMap Movement.peerCall) run l = .ok () l' := by
  induction h with
  | nil => rfl
  | cons taken _ ih =>
    cases taken with
    | credit step =>
      have hrun := onClone_eq_ok.mp (onClone_credit_eq_ok.mpr step)
      simpa [Movement.peerCall, run, bind, EStateM.bind, hrun] using ih
    | debit step =>
      have hrun := onClone_eq_ok.mp (onClone_debit_eq_ok.mpr step)
      simpa [Movement.peerCall, run, bind, EStateM.bind, hrun] using ih

end PeerCreditCall

def Operation.peerCalls (i : String) : Operation → List PeerCreditCall
  | .applyReceipt c _ mode _ =>
    if c.valueClass = .peerCredit ∧ c.issuer = i then
      [.credit c.amountSat (mode = .offlineDeferred)]
    else []
  | .novatePeerCredit n _ _ =>
    (if n.fromIssuer = i then [.debit n.amountSat] else []) ++
      if n.toIssuer = i then [.credit n.amountSat false] else []
  | .settlePeerCreditWithBacking b _ _ => if b.fromIssuer = i then [.debit b.amountSat] else []
  | _ => []

namespace CreditAccount

/-- What an event of the log did to the peer ledger of an issuer. -/
def eventCalls (a : CreditAccount) (i : String) : PeerCreditEvent → List PeerCreditCall
  | .receipt _ receiptId mode =>
    match a.appliedReceipts[receiptId]? with
    | none => []
    | some r => if r.issuer = i then [.credit r.amountSat (mode = .offlineDeferred)] else []
  | .novation _ novationId =>
    match a.novations[novationId]? with
    | none => []
    | some n =>
      (if n.fromIssuer = i then [.debit n.amountSat] else []) ++
        if n.toIssuer = i then [.credit n.amountSat false] else []
  | .backedSettlement _ settlementId =>
    match a.backedSettlements[settlementId]? with
    | none => []
    | some b => if b.fromIssuer = i then [.debit b.amountSat] else []

def peerHistory (a : CreditAccount) (i : String) : List PeerCreditCall :=
  a.peerCreditEvents.flatMap (a.eventCalls i)

variable {a a' : CreditAccount} {i : String} {events : List PeerCreditEvent}
  {ledgers : BTreeMap String PeerCreditLedger}

theorem Explains.eventCalls_eq {e : PeerCreditEvent} {entries : List (String × Movement)}
    (h : Explains a e entries) (i : String) :
    a.eventCalls i e = (KeyedRun.labelsAt i entries).filterMap Movement.peerCall := by
  cases h with
  | @receipt _ id mode r stored peer =>
    by_cases hi : r.issuer = i <;>
      simp [eventCalls, stored, Movement.peerCall, hi]
  | @novation _ id n stored =>
    by_cases hfrom : n.fromIssuer = i <;> by_cases hto : n.toIssuer = i <;>
      simp [eventCalls, stored, Movement.peerCall, hfrom, hto]
  | @backedSettlement _ id b stored =>
    by_cases hi : b.fromIssuer = i <;>
      simp [eventCalls, stored, Movement.peerCall, hi]

theorem Log.forM_run (h : Log a events ledgers) {l : PeerCreditLedger}
    (hl : ledgers[i]? = some l) :
    forM (events.flatMap (a.eventCalls i)) PeerCreditCall.run .zero = .ok () l := by
  induction h generalizing l with
  | nil =>
    simp only [Std.ExtTreeMap.getElem?_map, Option.map_eq_some_iff] at hl
    obtain ⟨s, hs, rfl⟩ := hl
    rfl
  | @snoc events event entries ledgers ledgers' prior positive later fresh explained entered ih =>
    obtain ⟨before, hbefore⟩ := BTreeMap.mem_iff_exists.mp
      ((entered.mem_iff i).mp (BTreeMap.mem_of_getElem? hl))
    obtain ⟨after, hafter, hrun⟩ := entered.component hbefore
    rw [hl, Option.some.injEq] at hafter
    subst hafter
    have hnew := PeerCreditCall.run_of_moves hrun
    rw [← explained.eventCalls_eq] at hnew
    rw [List.flatMap_append, List.flatMap_singleton, List.forM_append]
    simp only [bind, EStateM.bind, ih hbefore, hnew]

theorem Coherent.eventCalls_kept (hc : a.Coherent) (hg : a.Grows a') (i : String) :
    a.peerCreditEvents.flatMap (a'.eventCalls i) = a.peerHistory i := by
  apply List.flatMap_congr
  intro e he
  obtain ⟨_, entries, h⟩ := hc.log.event e he
  rw [(h.grows hg).eventCalls_eq, h.eventCalls_eq]

theorem peerHistory_of_applied {op : Operation} {r : Response} (hc : a.Coherent)
    (h : Applied a op r a') (i : String) :
    a'.peerHistory i = a.peerHistory i ++ op.peerCalls i := by
  rw [← hc.eventCalls_kept h.grows i]
  cases h with
  | @receipt c auth mode now revision =>
    by_cases hclass : c.valueClass = .peerCredit
    · simp [peerHistory, receiptEvents, eventCalls, Operation.peerCalls, hclass]
    · simp [peerHistory, receiptEvents, Operation.peerCalls, hclass]
  | novation => simp [peerHistory, eventCalls, Operation.peerCalls]
  | backed => simp [peerHistory, eventCalls, Operation.peerCalls]
  | deposit | consumption | authorization | completion | cancellation =>
    exact (List.append_nil _).symm

theorem peerHistory_new {policy : AccountPolicy} (h : new policy = .ok a) (i : String) :
    a.peerHistory i = [] := by
  simp only [new, Except.bind_eq_ok, Except.pure_eq_ok] at h
  obtain ⟨_, _, _, _, _, _, rfl⟩ := h
  rfl

/-- The offline counter is the worst case over all ways of splitting the debits. So the offline
cap bounds what is left of the offline credit of an issuer, however its debits are split. -/
theorem offline_worst_case :
    (∀ (calls : List PeerCreditCall) (l : PeerCreditLedger),
      forM calls PeerCreditCall.run .zero = .ok () l →
        IsGreatest {offline | ∃ online, Attribution calls online offline}
          l.offlineOutstandingSat.toNat) ∧
    (∀ (policy : AccountPolicy) (a : CreditAccount), new policy = .ok a →
      ∀ i, a.peerHistory i = []) ∧
    ∀ a : CreditAccount, a.Reachable → a.issuers.Each fun i s =>
      forM (a.peerHistory i) PeerCreditCall.run .zero = .ok () s.peerCredit ∧
      (∀ online offline, Attribution (a.peerHistory i) online offline →
        offline ≤ s.policy.maxOfflinePeerCreditSat.toNat) ∧
      ∀ op : Operation, op.exec a = a ∨
        (op.exec a).peerHistory i = a.peerHistory i ++ op.peerCalls i := by
  refine ⟨fun calls l h => PeerCreditCall.counter_isGreatest h,
    fun policy a h => peerHistory_new h, ?_⟩
  intro a ha i s hs
  have hc := ha.coherent
  have hledger : (a.issuers.map fun _ s => s.peerCredit)[i]? = some s.peerCredit := by simp [hs]
  have hrun : forM (a.peerHistory i) PeerCreditCall.run .zero = .ok () s.peerCredit :=
    hc.log.forM_run hledger
  refine ⟨hrun, ?_, ?_⟩
  · intro online offline hsplit
    have hgreatest := PeerCreditCall.counter_isGreatest hrun
    exact (hgreatest.2 ⟨online, hsplit⟩).trans (hc.sound i s hs).offlineCap
  · intro op
    rcases op.exec_cases a with hsame | ⟨r, _, happlied⟩
    · exact .inl hsame
    · exact .inr (peerHistory_of_applied hc happlied i)

theorem offline_worst_case_sample :
    IsGreatest {offline | ∃ online,
      Attribution [.credit 20 true, .credit 10 false, .debit 15, .credit 5 false] online offline}
        15 ∧
    ∀ online offline,
      Attribution ((sampleAccount.after sampleOperations).peerHistory "alpha") online offline →
        offline ≤ 50 := by
  have hs : (sampleAccount.after sampleOperations).issuers["alpha"]? =
      some ⟨samplePolicy "alpha", ⟨10, 10⟩, ⟨0, 0, 0, 0⟩, ⟨60, 20, 17, 12, 11⟩⟩ := by
    decide +kernel
  exact ⟨offline_worst_case.1 _ ⟨20, 15⟩ rfl,
    (offline_worst_case.2.2 _ sampleAccount_reachable "alpha" _ hs).2.1⟩

end CreditAccount
end CashuService
