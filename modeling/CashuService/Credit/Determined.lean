import CashuService.Credit.Runs
set_option autoImplicit false

namespace CashuService
namespace CreditAccount

structure SameRecords (a b : CreditAccount) : Prop where
  issuers : ∀ i : String, i ∈ b.issuers ↔ i ∈ a.issuers
  receipts : b.appliedReceipts = a.appliedReceipts
  novations : b.novations = a.novations
  deposits : b.backingDeposits = a.backingDeposits
  backed : b.backedSettlements = a.backedSettlements
  consumptions : b.closedLoopConsumptions = a.closedLoopConsumptions
  settlements : b.settlements = a.settlements

structure SameBalances (s t : IssuerState) : Prop where
  outstanding : t.peerCredit.outstandingSat = s.peerCredit.outstandingSat
  closedLoop : t.closedLoop = s.closedLoop
  withdrawable : t.withdrawable = s.withdrawable

variable {a b : CreditAccount} {i : String} {s t : IssuerState}

theorem SameRecords.credits (h : a.SameRecords b) (i : String) (k : Balance) :
    k.credits b i = k.credits a i := by
  cases k <;> simp only [Balance.credits, receiptsOf, novatedTo, backedBy, depositsOf, consumedAt,
    heldFor, spentBy, h.receipts, h.novations, h.deposits, h.backed, h.consumptions, h.settlements]

theorem SameRecords.debits (h : a.SameRecords b) (i : String) (k : Balance) :
    k.debits b i = k.debits a i := by
  cases k <;> simp only [Balance.debits, novatedFrom, settledFrom, h.novations, h.backed]

theorem SameRecords.operationCount (h : a.SameRecords b) : b.operationCount = a.operationCount := by
  simp only [CreditAccount.operationCount, h.receipts, h.novations, h.deposits, h.backed,
    h.consumptions, h.settlements]

section

variable (ha : a.Coherent) (hb : b.Coherent) (h : a.SameRecords b)

include ha hb h

theorem SameRecords.balance (hs : a.issuers[i]? = some s) (ht : b.issuers[i]? = some t)
    (k : Balance) : k.of t = k.of s := by
  have hold := ha.reconciled i s hs k
  have hnew := hb.reconciled i t ht k
  rw [h.credits, h.debits] at hnew
  omega

theorem SameRecords.sameBalances (hs : a.issuers[i]? = some s) (ht : b.issuers[i]? = some t) :
    SameBalances s t := by
  have hbalance := h.balance ha hb hs ht
  have hsound := ha.sound i s hs
  have hsound' := hb.sound i t ht
  have hclosed := hsound.closedLoopConserved
  have hclosed' := hsound'.closedLoopConserved
  have hreserve := hsound.withdrawableConserved
  have hreserve' := hsound'.withdrawableConserved
  have houtstanding := hbalance .outstanding
  have hdeposited := hbalance .closedDeposited
  have hallocated := hbalance .closedAllocated
  have hconsumed := hbalance .closedConsumed
  have hfunded := hbalance .reserveDeposited
  have howed := hbalance .reserveAllocated
  have hpending := hbalance .pending
  have hsettled := hbalance .settled
  obtain ⟨policy, ⟨outstanding, offline⟩, ⟨deposited, backing, claimable, consumed⟩,
    ⟨funded, available, redeemable, pending, settled⟩⟩ := s
  obtain ⟨policy', ⟨outstanding', offline'⟩, ⟨deposited', backing', claimable', consumed'⟩,
    ⟨funded', available', redeemable', pending', settled'⟩⟩ := t
  simp only [Balance.of] at *
  constructor
  · exact UInt64.toNat_inj.mp houtstanding
  · simp only [ClosedLoopLedger.mk.injEq, ← UInt64.toNat_inj]
    omega
  · simp only [WithdrawableReserveLedger.mk.injEq, ← UInt64.toNat_inj]
    omega

theorem SameRecords.revision : b.revision = a.revision := by
  rw [← UInt64.toNat_inj, ha.revision, hb.revision, h.operationCount]

theorem SameRecords.total : b.totalPeerCreditSat = a.totalPeerCreditSat := by
  have hsame : (b.issuers.map fun _ s => Balance.outstanding.of s) =
      a.issuers.map fun _ s => Balance.outstanding.of s := by
    apply Std.ExtTreeMap.ext_getElem?
    intro i
    have hi := h.issuers i
    simp only [BTreeMap.mem_iff_exists] at hi
    rw [Std.ExtTreeMap.getElem?_map, Std.ExtTreeMap.getElem?_map]
    cases hs : a.issuers[i]? with
    | none => cases ht : b.issuers[i]? <;> simp_all
    | some s =>
      obtain ⟨t, ht⟩ := hi.mpr ⟨s, hs⟩
      rw [ht, Option.map_some, Option.map_some, h.balance ha hb hs ht]
  have hsum : ∀ c : CreditAccount, BTreeMap.sumOf (Balance.of .outstanding) c.issuers =
      BTreeMap.sumOf id (c.issuers.map fun _ s => Balance.outstanding.of s) := fun c =>
    (BTreeMap.sumOf_map c.issuers (fun _ s => Balance.outstanding.of s) id
      (Balance.of .outstanding) fun _ _ => rfl).symm
  rw [← UInt64.toNat_inj, ha.total, hb.total, hsum, hsum, hsame]

end

theorem SameRecords.log (h : a.SameRecords b) {events : List PeerCreditEvent}
    {ledgers : BTreeMap String PeerCreditLedger} (hlog : Log a events ledgers) :
    Log b events ledgers := by
  induction hlog with
  | nil =>
    rw [← zero_ledgers_eq PeerCreditLedger.zero h.issuers]
    exact .nil
  | snoc prior positive later fresh explained entered ih =>
    refine .snoc ih positive later fresh ?_ entered
    cases explained with
    | receipt stored peer => exact .receipt (h.receipts ▸ stored) peer
    | novation stored => exact .novation (h.novations ▸ stored)
    | backedSettlement stored => exact .backedSettlement (h.backed ▸ stored)

/-- With the same log the peer ledgers agree as well, the offline part included. -/
theorem SameRecords.peerCredit (ha : a.Coherent) (hb : b.Coherent) (h : a.SameRecords b)
    (hevents : b.peerCreditEvents = a.peerCreditEvents) (hs : a.issuers[i]? = some s)
    (ht : b.issuers[i]? = some t) : t.peerCredit = s.peerCredit := by
  have hold := h.log ha.log
  have hnew := hb.log
  rw [hevents] at hnew
  have hsame := congrArg (·[i]?) (hnew.functional hold)
  simpa [hs, ht] using hsame

end CreditAccount

namespace CreditAccountSnapshotV1

open CreditAccount

/-- Two snapshots with the same issuers and the same history. -/
structure SameHistory (s t : CreditAccountSnapshotV1) : Prop where
  issuers : ∀ i : String, i ∈ t.issuers ↔ i ∈ s.issuers
  receipts : t.appliedReceipts = s.appliedReceipts
  events : t.peerCreditEvents = s.peerCreditEvents
  novations : t.novations = s.novations
  deposits : t.backingDeposits = s.backingDeposits
  backed : t.backedSettlements = s.backedSettlements
  consumptions : t.closedLoopConsumptions = s.closedLoopConsumptions
  settlements : t.settlements = s.settlements

/-- Two snapshots that agree in every number that is derived from the history. -/
structure SameNumbers (s t : CreditAccountSnapshotV1) : Prop where
  revision : t.revision = s.revision
  total : t.totalPeerCreditSat = s.totalPeerCreditSat
  ledgers : s.issuers.Each fun i x => ∃ y, t.issuers[i]? = some y ∧
    y.peerCredit = x.peerCredit ∧ y.closedLoop = x.closedLoop ∧ y.withdrawable = x.withdrawable

variable {s t : CreditAccountSnapshotV1}

theorem SameHistory.sameRecords (h : s.SameHistory t) :
    (ofSnapshot s).SameRecords (ofSnapshot t) where
  issuers i := by simpa [ofSnapshot] using h.issuers i
  receipts := h.receipts
  novations := h.novations
  deposits := by simp only [ofSnapshot, h.deposits]
  backed := h.backed
  consumptions := h.consumptions
  settlements := by simp only [ofSnapshot, h.settlements]

structure SameTerms (s t : CreditAccountSnapshotV1) : Prop where
  counterparty : t.counterparty = s.counterparty
  maxTotal : t.maxTotalPeerCreditSat = s.maxTotalPeerCreditSat
  policies : s.issuers.Each fun i x => ∃ y, t.issuers[i]? = some y ∧ y.policy = x.policy

theorem sameNumbers_of_history (hs : s.validate = .ok ()) (ht : t.validate = .ok ())
    (h : s.SameHistory t) : s.SameNumbers t := by
  have ha := (fromSnapshot_coherent (fromSnapshot_eq_ok.mpr ⟨hs, rfl⟩)).1
  have hb := (fromSnapshot_coherent (fromSnapshot_eq_ok.mpr ⟨ht, rfl⟩)).1
  have hrecords := h.sameRecords
  refine ⟨hrecords.revision ha hb, hrecords.total ha hb, ?_⟩
  intro i x hx
  obtain ⟨y, hy⟩ := BTreeMap.mem_iff_exists.mp
    ((h.issuers i).mpr (BTreeMap.mem_of_getElem? hx))
  have hx' : (ofSnapshot s).issuers[i]? = some (.ofSnapshot x) := by simp [ofSnapshot, hx]
  have hy' : (ofSnapshot t).issuers[i]? = some (.ofSnapshot y) := by simp [ofSnapshot, hy]
  have hsame := hrecords.sameBalances ha hb hx' hy'
  have hpeer := hrecords.peerCredit ha hb h.events hx' hy'
  have hclosed := hsame.closedLoop
  have hreserve := hsame.withdrawable
  simp only [IssuerState.ofSnapshot, PeerCreditLedger.mk.injEq, ClosedLoopLedger.mk.injEq,
    WithdrawableReserveLedger.mk.injEq] at hpeer hclosed hreserve
  obtain ⟨policy, ⟨_, _⟩, ⟨_, _, _, _⟩, ⟨_, _, _, _, _⟩⟩ := x
  obtain ⟨policy', ⟨_, _⟩, ⟨_, _, _, _⟩, ⟨_, _, _, _, _⟩⟩ := y
  exact ⟨_, hy, by simp_all⟩

theorem version_of_validate (h : s.validate = .ok ()) : s.version = snapshotVersion :=
  congrArg CreditAccountSnapshotV1.version (snapshot_ofSnapshot h).symm

theorem eq_of_sameNumbers (hs : s.validate = .ok ()) (ht : t.validate = .ok ())
    (h : s.SameHistory t) (hterms : s.SameTerms t) (hnumbers : s.SameNumbers t) : t = s := by
  have hissuers : t.issuers = s.issuers := by
    apply Std.ExtTreeMap.ext_getElem?
    intro i
    have hi := h.issuers i
    simp only [BTreeMap.mem_iff_exists] at hi
    cases hx : s.issuers[i]? with
    | none => cases hy : t.issuers[i]? <;> simp_all
    | some x =>
      obtain ⟨y, hy, hpeer, hclosed, hreserve⟩ := hnumbers.ledgers i x hx
      obtain ⟨z, hz, hpolicy⟩ := hterms.policies i x hx
      rw [hy, Option.some.injEq] at hz
      subst hz
      cases x
      cases y
      simp_all
  have hversion := (version_of_validate ht).trans (version_of_validate hs).symm
  obtain ⟨_, hreceipts, hevents, hnovations, hdeposits, hbacked, hconsumptions, hsettlements⟩ := h
  obtain ⟨hrevision, htotal, _⟩ := hnumbers
  obtain ⟨hcounterparty, hmax, _⟩ := hterms
  cases s
  cases t
  simp_all

/-- The balances of an accepted snapshot are determined by its history. So no edit of balances,
totals or revision alone turns one accepted snapshot into another. -/
theorem history_determines_numbers (hs : s.validate = .ok ()) (ht : t.validate = .ok ())
    (h : s.SameHistory t) : s.SameNumbers t ∧ (s.SameTerms t → t = s) := by
  have hnumbers := sameNumbers_of_history hs ht h
  exact ⟨hnumbers, fun hterms => eq_of_sameNumbers hs ht h hterms hnumbers⟩

theorem sameHistory_cap (s : CreditAccountSnapshotV1) (cap : UInt64) :
    s.SameHistory { s with maxTotalPeerCreditSat := cap } :=
  ⟨fun _ => .rfl, rfl, rfl, rfl, rfl, rfl, rfl, rfl⟩

theorem sampleSnapshot_valid :
    (sampleAccount.after sampleOperations).snapshot.validate = .ok () := by decide +kernel

theorem history_determines_numbers_sample :
    (sampleAccount.after sampleOperations).snapshot.SameNumbers
      { (sampleAccount.after sampleOperations).snapshot with maxTotalPeerCreditSat := 200 } := by
  have hvalid : CreditAccountSnapshotV1.validate
      { (sampleAccount.after sampleOperations).snapshot with maxTotalPeerCreditSat := 200 } =
        .ok () := by decide +kernel
  exact (history_determines_numbers sampleSnapshot_valid hvalid (sameHistory_cap _ 200)).1

/-- Every record of a snapshot under the key the account keeps it under. -/
structure KeepsEveryRecord (s : CreditAccountSnapshotV1) (a : CreditAccount) : Prop where
  issuers : ∀ i : String, a.issuers[i]? = s.issuers[i]?.map .ofSnapshot
  receipts : a.appliedReceipts = s.appliedReceipts
  events : a.peerCreditEvents = s.peerCreditEvents
  novations : a.novations = s.novations
  deposits : a.backingDeposits.toList = s.backingDeposits.map fun d => ((d.issuer, d.depositId), d)
  backed : a.backedSettlements = s.backedSettlements
  consumptions : a.closedLoopConsumptions = s.closedLoopConsumptions
  settlements : ∀ id : String, a.settlements[id]? = s.settlements[id]?.map .ofSnapshot

/-- Restoring is exact on every accepted snapshot. -/
theorem restoring_exact {a : CreditAccount} (h : fromSnapshot s = .ok a) :
    a.snapshot = s ∧ fromSnapshot a.snapshot = .ok a ∧ s.KeepsEveryRecord a := by
  have hsnapshot := (fromSnapshot_coherent h).2.2
  obtain ⟨hvalid, rfl⟩ := fromSnapshot_eq_ok.mp h
  refine ⟨hsnapshot, by rwa [hsnapshot], ?_⟩
  exact ⟨fun i => by simp [ofSnapshot], rfl, rfl, rfl, toList_ofSnapshot hvalid, rfl, rfl,
    fun id => by simp [ofSnapshot]⟩

theorem restoring_exact_sample :
    (ofSnapshot (sampleAccount.after sampleOperations).snapshot).snapshot =
      (sampleAccount.after sampleOperations).snapshot :=
  (restoring_exact (fromSnapshot_eq_ok.mpr ⟨sampleSnapshot_valid, rfl⟩)).1

end CreditAccountSnapshotV1
end CashuService
