import CashuService.Store.Sessions
set_option autoImplicit false

namespace CashuService

/-! Whether an account survives a restart: it does exactly as long as no issuer's cumulative
peer credit, which the live account never adds up, leaves the range of a `u64`. -/

open CreditAccount

variable {policy : AccountPolicy} {a₀ : CreditAccount} {serde : SerdeJson} {t : CreditTables}

theorem load_after_run (hs : serde.Faithful) {call : StoreCall}
    {answers : List (Option SqliteError)} {c : Connection SqliteError CreditTables}
    (h : call.run serde ⟨t, answers⟩ = .ok () c) :
    CreditAccountStore.load serde call.accountId ⟨c.tables, []⟩ =
      match fromSnapshot call.account.snapshot with
      | .ok a => .ok (some a) ⟨c.tables, []⟩
      | .error e => .error (.snapshot (.credit e)) ⟨c.tables, []⟩ := by
  have hstores := (CreditTables.run_ends _ _ call answers).of_ok h
  obtain ⟨text, htext, hsnapshots⟩ := hstores.row
  have hload := CreditAccountStore.load_stored hstores.named
    (by rw [hsnapshots, BTreeMap.getElem?_insert_self]) (hs _ _ htext)
  cases hv : fromSnapshot call.account.snapshot <;> rw [hload, hv]

/-- A live account is restored from its snapshot, and given back by the store that accepted it,
exactly when its cumulative peer credit fits. -/
theorem restored_iff_creditsFit (h : CreditAccount.new policy = .ok a₀) (ops : List Operation) :
    (fromSnapshot (a₀.after ops).snapshot = .ok (a₀.after ops) ↔ (a₀.after ops).CreditsFit) ∧
    ∀ (serde : SerdeJson) (call : StoreCall) t answers c, serde.Faithful →
      call.account = a₀.after ops → call.run serde ⟨t, answers⟩ = .ok () c →
        (CreditAccountStore.load serde call.accountId ⟨c.tables, []⟩ =
          .ok (some (a₀.after ops)) ⟨c.tables, []⟩ ↔ (a₀.after ops).CreditsFit) := by
  have hiff := (((Reachable.new h).after ops).coherent).fromSnapshot_snapshot_iff
  refine ⟨hiff, ?_⟩
  intro serde call t answers c hs haccount hrun
  rw [load_after_run hs hrun, haccount, ← hiff]
  cases fromSnapshot (a₀.after ops).snapshot <;> simp

def creditedOperations : List Operation :=
  [.applyReceipt (sampleReceipt "r1" 25 .peerCredit) "alpha" .offlineDeferred 15,
    .novatePeerCredit ⟨"n1", "peer", "alpha", "beta", 10, 20⟩ "beta" 15,
    .novatePeerCredit ⟨"n2", "peer", "beta", "alpha", 5, 20⟩ "alpha" 15]

def creditedJson : String :=
  "\x7b\"version\":1,\"revision\":3,\"counterparty\":\"peer\",\"max_total_peer_credit_sat\":150," ++
    "\"total_peer_credit_sat\":25,\"issuers\":\x7b" ++
    "\"alpha\":\x7b\"policy\":\x7b\"issuer\":\"alpha\",\"max_peer_credit_sat\":100," ++
    "\"max_offline_peer_credit_sat\":50,\"max_closed_loop_sat\":100," ++
    "\"max_withdrawable_sat\":100\x7d,\"peer_credit\":\x7b\"outstanding_sat\":20," ++
    "\"offline_outstanding_sat\":15\x7d,\"closed_loop\":\x7b\"total_deposited_sat\":0," ++
    "\"available_backing_sat\":0,\"claimable_sat\":0,\"consumed_sat\":0\x7d," ++
    "\"withdrawable\":\x7b\"total_deposited_sat\":0,\"available_sat\":0," ++
    "\"redeemable_sat\":0,\"pending_external_sat\":0,\"settled_external_sat\":0\x7d\x7d," ++
    "\"beta\":\x7b\"policy\":\x7b\"issuer\":\"beta\",\"max_peer_credit_sat\":100," ++
    "\"max_offline_peer_credit_sat\":50,\"max_closed_loop_sat\":100," ++
    "\"max_withdrawable_sat\":100\x7d,\"peer_credit\":\x7b\"outstanding_sat\":5," ++
    "\"offline_outstanding_sat\":0\x7d,\"closed_loop\":\x7b\"total_deposited_sat\":0," ++
    "\"available_backing_sat\":0,\"claimable_sat\":0,\"consumed_sat\":0\x7d," ++
    "\"withdrawable\":\x7b\"total_deposited_sat\":0,\"available_sat\":0," ++
    "\"redeemable_sat\":0,\"pending_external_sat\":0,\"settled_external_sat\":0\x7d\x7d\x7d," ++
    "\"applied_receipts\":\x7b\"r1\":\x7b\"receipt_id\":\"r1\",\"issuer\":\"alpha\"," ++
    "\"counterparty\":\"peer\",\"service\":\"routing\",\"resource\":\"exit\"," ++
    "\"useful_service_units\":1,\"amount_sat\":25,\"value_class\":\"peer_credit\"," ++
    "\"issued_at_unix\":10,\"expires_at_unix\":20\x7d\x7d,\"peer_credit_events\":[" ++
    "\x7b\"type\":\"receipt\",\"revision\":1,\"receipt_id\":\"r1\"," ++
    "\"mode\":\"offline_deferred\"\x7d," ++
    "\x7b\"type\":\"novation\",\"revision\":2,\"novation_id\":\"n1\"\x7d," ++
    "\x7b\"type\":\"novation\",\"revision\":3,\"novation_id\":\"n2\"\x7d],\"novations\":\x7b" ++
    "\"n1\":\x7b\"novation_id\":\"n1\",\"counterparty\":\"peer\",\"from_issuer\":\"alpha\"," ++
    "\"to_issuer\":\"beta\",\"amount_sat\":10,\"expires_at_unix\":20\x7d," ++
    "\"n2\":\x7b\"novation_id\":\"n2\",\"counterparty\":\"peer\",\"from_issuer\":\"beta\"," ++
    "\"to_issuer\":\"alpha\",\"amount_sat\":5,\"expires_at_unix\":20\x7d\x7d," ++
    "\"backing_deposits\":[],\"backed_settlements\":\x7b\x7d," ++
    "\"closed_loop_consumptions\":\x7b\x7d,\"settlements\":\x7b\x7d\x7d"

def creditedSerde : SerdeJson :=
  .ofTable [((sampleAccount.after creditedOperations).snapshot, creditedJson)]

theorem restored_iff_creditsFit_sample :
    (sampleAccount.after creditedOperations).CreditsFit ∧
      ∃ c, (StoreCall.create "peer-account" (sampleAccount.after creditedOperations)).run
          creditedSerde ⟨.empty, []⟩ = .ok () c ∧
        CreditAccountStore.load creditedSerde "peer-account" ⟨c.tables, []⟩ =
          .ok (some (sampleAccount.after creditedOperations)) ⟨c.tables, []⟩ := by
  obtain ⟨hsnapshot, hstore⟩ := restored_iff_creditsFit sampleAccount_new creditedOperations
  have hserde : creditedSerde.Faithful := SerdeJson.ofTable_faithful (by decide +kernel)
  have hfit := hsnapshot.mp (by decide +kernel)
  have hcreated : EStateM.run' ((StoreCall.create "peer-account" (sampleAccount.after
      creditedOperations)).run creditedSerde) ⟨.empty, []⟩ = some () := by decide +kernel
  obtain ⟨c, hrun⟩ := eq_ok_of_run' hcreated
  exact ⟨hfit, c, hrun, (hstore creditedSerde _ _ _ c hserde rfl hrun).mpr hfit⟩

def u64Max : UInt64 := 0xFFFFFFFFFFFFFFFF

def cycleIssuer (issuer : String) : IssuerPolicy := ⟨issuer, u64Max, u64Max, u64Max, u64Max, none⟩

def cycleAccount : CreditAccount where
  revision := 0
  counterparty := "me"
  maxTotalPeerCreditSat := u64Max
  totalPeerCreditSat := 0
  issuers := ((∅ : BTreeMap String IssuerState).insert "A" (.new (cycleIssuer "A"))).insert "B"
    (.new (cycleIssuer "B"))
  appliedReceipts := ∅
  peerCreditEvents := []
  novations := ∅
  backingDeposits := ∅
  backedSettlements := ∅
  closedLoopConsumptions := ∅
  settlements := ∅

theorem cycleAccount_new :
    CreditAccount.new ⟨"me", u64Max, [cycleIssuer "A", cycleIssuer "B"]⟩ = .ok cycleAccount := rfl

def cycleAmount : UInt64 := 0x8000000000000000

/-- One unit of credit goes round between two issuers, and is counted at each arrival. -/
def cycleOperations : List Operation :=
  [.applyReceipt ⟨"r", "A", "me", "s", "x", 1, cycleAmount, .peerCredit, 0, 10⟩ "A" .online 1,
    .novatePeerCredit ⟨"n1", "me", "A", "B", cycleAmount, 10⟩ "B" 1,
    .novatePeerCredit ⟨"n2", "me", "B", "A", cycleAmount, 10⟩ "A" 1]

theorem cycle_not_restored :
    ¬∀ policy a₀, CreditAccount.new policy = .ok a₀ → ∀ ops,
      fromSnapshot (a₀.after ops).snapshot = .ok (a₀.after ops) := by
  intro h
  have hrestored := h _ _ cycleAccount_new cycleOperations
  have hrefused : fromSnapshot (cycleAccount.after cycleOperations).snapshot =
      .error (.invalidSnapshot "novation credit total") := by decide +kernel
  exact absurd (hrestored.symm.trans hrefused) (by simp)

end CashuService
