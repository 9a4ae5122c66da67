import CashuService.Credit.Restore
set_option autoImplicit false

namespace CashuService
namespace CreditAccount

/-- The accounts a caller can hold: constructed, or restored from an accepted snapshot, and then
called in any way. -/
inductive Reachable : CreditAccount → Prop where
  | new {policy : AccountPolicy} {a : CreditAccount} (h : new policy = .ok a) : Reachable a
  | restored {s : CreditAccountSnapshotV1} {a : CreditAccount} (h : fromSnapshot s = .ok a) :
      Reachable a
  | exec {a : CreditAccount} (h : Reachable a) (op : Operation) : Reachable (op.exec a)

variable {a : CreditAccount}

theorem Reachable.coherent (h : a.Reachable) : a.Coherent := by
  induction h with
  | new h => exact new_coherent h
  | restored h => exact (fromSnapshot_coherent h).1
  | exec _ op ih => exact ih.exec op

theorem Reachable.after (h : a.Reachable) (ops : List Operation) : (a.after ops).Reachable := by
  induction ops generalizing a with
  | nil => exact h
  | cons op ops ih => exact ih (h.exec op)

/-- The ledgers of an issuer are the sums over the records that concern it. -/
structure DoubleEntry (a : CreditAccount) (i : String) (s : IssuerState) : Prop where
  outstanding : s.peerCredit.outstandingSat.toNat + a.novatedFrom i + a.settledFrom i =
    a.receiptsOf i .peerCredit + a.novatedTo i
  closedDeposited : s.closedLoop.totalDepositedSat.toNat = a.depositsOf i .closedLoopDeposit
  closedConsumed : s.closedLoop.consumedSat.toNat = a.consumedAt i
  closedAllocated : s.closedLoop.claimableSat.toNat + s.closedLoop.consumedSat.toNat =
    a.receiptsOf i .closedLoopDeposit + a.backedBy i .closedLoopDeposit
  closedConserved : s.closedLoop.availableBackingSat.toNat + s.closedLoop.claimableSat.toNat +
    s.closedLoop.consumedSat.toNat = s.closedLoop.totalDepositedSat.toNat
  reserveDeposited : s.withdrawable.totalDepositedSat.toNat =
    a.depositsOf i .reserveBackedWithdrawable
  pending : s.withdrawable.pendingExternalSat.toNat = a.heldFor i
  settled : s.withdrawable.settledExternalSat.toNat = a.spentBy i
  reserveAllocated : s.withdrawable.redeemableSat.toNat +
    s.withdrawable.pendingExternalSat.toNat + s.withdrawable.settledExternalSat.toNat =
      a.receiptsOf i .reserveBackedWithdrawable + a.backedBy i .reserveBackedWithdrawable
  reserveConserved : s.withdrawable.availableSat.toNat + s.withdrawable.redeemableSat.toNat +
    s.withdrawable.pendingExternalSat.toNat + s.withdrawable.settledExternalSat.toNat =
      s.withdrawable.totalDepositedSat.toNat

theorem Coherent.doubleEntry (hc : a.Coherent) {i : String} {s : IssuerState}
    (hs : a.issuers[i]? = some s) : a.DoubleEntry i s := by
  have hrec := hc.reconciled i s hs
  have hsound := hc.sound i s hs
  have houtstanding := hrec .outstanding
  simp only [Balance.of, Balance.debits, Balance.credits] at houtstanding
  exact ⟨by omega, hrec .closedDeposited, hrec .closedConsumed, hrec .closedAllocated,
    hsound.closedLoopConserved, hrec .reserveDeposited, hrec .pending, hrec .settled,
    hrec .reserveAllocated, hsound.withdrawableConserved⟩

end CreditAccount

def samplePolicy (issuer : String) : IssuerPolicy := ⟨issuer, 100, 50, 100, 100, none⟩

def sampleAccount : CreditAccount where
  revision := 0
  counterparty := "peer"
  maxTotalPeerCreditSat := 150
  totalPeerCreditSat := 0
  issuers := ((∅ : BTreeMap String IssuerState).insert "alpha" (.new (samplePolicy "alpha"))).insert
    "beta" (.new (samplePolicy "beta"))
  appliedReceipts := ∅
  peerCreditEvents := []
  novations := ∅
  backingDeposits := ∅
  backedSettlements := ∅
  closedLoopConsumptions := ∅
  settlements := ∅

def sampleReceipt (id : String) (amountSat : UInt64) (valueClass : ValueClass) :
    ServiceReceiptClaim :=
  ⟨id, "alpha", "peer", "routing", "exit", 1, amountSat, valueClass, 10, 20⟩

def sampleRequest (id : String) : ExternalSettlementRequest :=
  ⟨id, "alpha", "peer", "lnbc", 10, 2, 20⟩

def sampleOperations : List Operation :=
  [.recordBackingDeposit ⟨"d1", "alpha", 60, .reserveBackedWithdrawable⟩ "alpha",
    .recordBackingDeposit ⟨"d2", "beta", 30, .closedLoopDeposit⟩ "beta",
    .applyReceipt (sampleReceipt "r1" 40 .reserveBackedWithdrawable) "alpha" .online 15,
    .applyReceipt (sampleReceipt "r2" 25 .peerCredit) "alpha" .offlineDeferred 15,
    .novatePeerCredit ⟨"n1", "peer", "alpha", "beta", 10, 20⟩ "beta" 15,
    .settlePeerCreditWithBacking ⟨"b1", "peer", "alpha", "beta", 5, .closedLoopDeposit, 20⟩
      "beta" 15,
    .consumeClosedLoop ⟨"c1", "beta", "peer", "exit", 3⟩ "peer",
    .authorizeExternalSettlement (sampleRequest "s1") "peer" 15,
    .authorizeExternalSettlement (sampleRequest "s2") "peer" 15,
    .completeExternalSettlement "s1" 1]

theorem sampleAccount_new :
    CreditAccount.new ⟨"peer", 150, [samplePolicy "alpha", samplePolicy "beta"]⟩ =
      .ok sampleAccount := rfl

theorem sampleAccount_reachable : (sampleAccount.after sampleOperations).Reachable :=
  (CreditAccount.Reachable.new sampleAccount_new).after sampleOperations

example : (sampleAccount.after sampleOperations).revision = 10 := by decide +kernel

namespace CreditAccount

variable {a : CreditAccount}

/-- Double-entry reconciliation: after any run every ledger equals the sums over the retained
records, in the naturals. -/
theorem ledgers_reconcile (h : a.Reachable) {i : String} {s : IssuerState}
    (hs : a.issuers[i]? = some s) : a.DoubleEntry i s :=
  h.coherent.doubleEntry hs

theorem ledgers_reconcile_sample :
    (sampleAccount.after sampleOperations).DoubleEntry "alpha"
      ⟨samplePolicy "alpha", ⟨10, 10⟩, ⟨0, 0, 0, 0⟩, ⟨60, 20, 17, 12, 11⟩⟩ :=
  ledgers_reconcile sampleAccount_reachable (by decide +kernel)

structure Bounded (s : IssuerState) : Prop where
  offline : s.peerCredit.offlineOutstandingSat.toNat ≤ s.peerCredit.outstandingSat.toNat
  peer : s.peerCredit.outstandingSat.toNat ≤ s.policy.maxPeerCreditSat.toNat
  offlinePeer : s.peerCredit.offlineOutstandingSat.toNat ≤
    s.policy.maxOfflinePeerCreditSat.toNat
  closedLoop : s.closedLoop.claimableSat.toNat ≤ s.policy.maxClosedLoopSat.toNat
  withdrawable : s.withdrawable.redeemableSat.toNat + s.withdrawable.pendingExternalSat.toNat ≤
    s.policy.maxWithdrawableSat.toNat

/-- Exactly `amount` of peer credit moves from issuer `i` to another issuer `j`, and no other
ledger and no other issuer is touched. -/
structure MovesPeerCredit (a : CreditAccount) (i j : String) (amount : Nat)
    (a' : CreditAccount) : Prop where
  distinct : i ≠ j
  source : ∃ s l, a.issuers[i]? = some s ∧ a'.issuers[i]? = some { s with peerCredit := l } ∧
    l.outstandingSat.toNat + amount = s.peerCredit.outstandingSat.toNat
  target : ∃ s l, a.issuers[j]? = some s ∧ a'.issuers[j]? = some { s with peerCredit := l } ∧
    l.outstandingSat.toNat = s.peerCredit.outstandingSat.toNat + amount
  others : ∀ k : String, k ≠ i → k ≠ j → a'.issuers[k]? = a.issuers[k]?

theorem movesPeerCredit_of_posted {i j : String} {amount : UInt64} {a' : CreditAccount}
    (hne : i ≠ j)
    (h : Posted a.issuers [(i, .debit amount), (j, .credit amount false)] a'.issuers) :
    a.MovesPeerCredit i j amount.toNat a' := by
  cases h with
  | @cons _ _ _ _ _ s s' hs hdebit tail =>
    generalize hm : a'.issuers = m' at tail
    cases tail with
    | @cons _ _ _ _ _ t t' ht hcredit rest =>
      cases rest
      rw [BTreeMap.getElem?_modify_ne _ _ hne] at ht
      cases hdebit with
      | @debit _ l hdebit =>
        cases hcredit with
        | @credit _ _ r hcredit =>
          refine ⟨hne, ⟨s, l, hs, ?_, hdebit.outstanding⟩, ⟨t, r, ht, ?_, hcredit.outstanding⟩, ?_⟩
          · rw [hm, BTreeMap.getElem?_modify_ne _ _ hne.symm, BTreeMap.getElem?_modify_self, hs]
            rfl
          · rw [hm, BTreeMap.getElem?_modify_self, BTreeMap.getElem?_modify_ne _ _ hne, ht]
            rfl
          · intro k hi hj
            rw [hm, BTreeMap.getElem?_modify_ne _ _ hj.symm,
              BTreeMap.getElem?_modify_ne _ _ hi.symm]

/-- A successful novation either repeats one that is recorded already and changes nothing, or
moves its amount between two distinct issuers; the aggregate stays the same. -/
theorem novation_moves {n : CreditNovation} {auth : String} {now : UInt64} {a' : CreditAccount}
    (h : novatePeerCredit n auth now a = .ok () a') :
    a'.totalPeerCreditSat = a.totalPeerCreditSat ∧
      (a' = a ∧ a.novations[n.novationId]? = some n ∨
        a.MovesPeerCredit n.fromIssuer n.toIssuer n.amountSat.toNat a') := by
  rcases (novatePeerCredit_ends a n auth now).of_ok h with ⟨rfl, hreplayed⟩ | happlied
  · cases hreplayed with
    | novation identity stored => exact ⟨rfl, .inl ⟨rfl, stored⟩⟩
  · cases happlied with
    | novation fresh valid next posted =>
      exact ⟨rfl, .inr (movesPeerCredit_of_posted (validateNovation_kept valid).distinct posted)⟩

/-- Exposure is bounded after any run, and a novation only moves it. -/
theorem exposure_bounded (h : a.Reachable) :
    (a.issuers.Each fun _ s => Bounded s) ∧
      a.totalPeerCreditSat.toNat =
        BTreeMap.sumOf (fun s => s.peerCredit.outstandingSat.toNat) a.issuers ∧
      a.totalPeerCreditSat.toNat ≤ a.maxTotalPeerCreditSat.toNat ∧
      ∀ n auth now a', novatePeerCredit n auth now a = .ok () a' →
        a'.totalPeerCreditSat = a.totalPeerCreditSat ∧
          (a' = a ∧ a.novations[n.novationId]? = some n ∨
            a.MovesPeerCredit n.fromIssuer n.toIssuer n.amountSat.toNat a') := by
  have hc := h.coherent
  refine ⟨?_, hc.total, hc.totalCap, fun _ _ _ _ => novation_moves⟩
  intro i s hs
  have hsound := hc.sound i s hs
  exact ⟨hsound.offline, hsound.peerCap, hsound.offlineCap, hsound.closedLoopCap,
    hsound.withdrawableCap⟩

theorem exposure_bounded_sample :
    (sampleAccount.after sampleOperations).totalPeerCreditSat.toNat ≤
      (sampleAccount.after sampleOperations).maxTotalPeerCreditSat.toNat :=
  (exposure_bounded sampleAccount_reachable).2.2.1

end CreditAccount
end CashuService
