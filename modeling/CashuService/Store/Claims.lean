import CashuService.Store.CreditStore
set_option autoImplicit false

namespace CashuService

/-- A call of a writing method of `CreditAccountStore`, by any client. -/
inductive StoreCall where
  | create (accountId : String) (account : CreditAccount)
  | save (accountId : String) (expectedRevision : UInt64) (account : CreditAccount)

namespace StoreCall

def accountId : StoreCall → String
  | create accountId _ | save accountId _ _ => accountId

def account : StoreCall → CreditAccount
  | create _ account | save _ _ account => account

def run (serde : SerdeJson) : StoreCall → StoreM Unit
  | create accountId account => CreditAccountStore.create serde accountId account
  | save accountId expectedRevision account =>
    CreditAccountStore.save serde accountId expectedRevision account

end StoreCall

namespace CreditTables

variable (serde : SerdeJson)

def exec (self : CreditTables) (call : StoreCall) (answers : List (Option SqliteError)) :
    CreditTables :=
  match call.run serde ⟨self, answers⟩ with
  | .ok _ c => c.tables
  | .error _ c => c.tables

/-- The tables after a sequence of calls. Transactions are serialised, so the calls of any
number of clients come one after the other. -/
def after (self : CreditTables) (calls : List (StoreCall × List (Option SqliteError))) :
    CreditTables :=
  calls.foldl (fun t call => t.exec serde call.1 call.2) self

/-- Every deposit of every stored snapshot is claimed for the account it is stored under. -/
def Claimed (t : CreditTables) : Prop :=
  ∀ id row, t.snapshots[id]? = some row → ∃ s, serde.fromStr row.snapshotJson = .ok s ∧
    ∀ d ∈ s.backingDeposits, t.claims[(d.issuer, d.depositId)]? = some id

variable {serde} {t t' : CreditTables} {call : StoreCall} {answers : List (Option SqliteError)}

theorem run_ends (serde : SerdeJson) (t : CreditTables) (call : StoreCall)
    (answers : List (Option SqliteError)) :
    Ends (call.run serde) ⟨t, answers⟩ (fun _ c => c.tables = t) fun _ c =>
      t.Stores serde call.accountId call.account c.tables := by
  cases call with
  | create id account => exact CreditAccountStore.create_ends.imp (fun _ _ h => h) fun _ _ h => h.2
  | save id expectedRevision account =>
    exact CreditAccountStore.save_ends.imp (fun _ _ h => h) fun _ _ h => h.2.2

theorem exec_cases (serde : SerdeJson) (t : CreditTables) (call : StoreCall)
    (answers : List (Option SqliteError)) :
    t.exec serde call answers = t ∨
      t.Stores serde call.accountId call.account (t.exec serde call answers) := by
  have h := run_ends serde t call answers
  unfold exec
  cases hr : call.run serde ⟨t, answers⟩ with
  | error e c => exact .inl (h.of_error hr)
  | ok r c => exact .inr (h.of_ok hr)

theorem exec_extends (call : StoreCall) (answers : List (Option SqliteError)) :
    (t.exec serde call answers).claims.Extends t.claims := by
  rcases exec_cases serde t call answers with h | h
  · rw [h]
    exact .refl _
  · exact h.kept

theorem Stores.claimed (hs : serde.Faithful) {id : String} {account : CreditAccount}
    (h : t.Stores serde id account t') (hc : t.Claimed serde) : t'.Claimed serde := by
  obtain ⟨text, htext, hsnapshots⟩ := h.row
  intro id' row hrow
  rw [hsnapshots] at hrow
  by_cases hid : id = id'
  · subst hid
    rw [BTreeMap.getElem?_insert_self, Option.some.injEq] at hrow
    subst hrow
    exact ⟨account.snapshot, hs _ _ htext, h.bound⟩
  · rw [BTreeMap.getElem?_insert_ne _ _ hid] at hrow
    obtain ⟨s, hparsed, hclaims⟩ := hc id' row hrow
    exact ⟨s, hparsed, fun d hd => h.kept _ _ (hclaims d hd)⟩

theorem exec_claimed (hs : serde.Faithful) (hc : t.Claimed serde) :
    (t.exec serde call answers).Claimed serde := by
  rcases exec_cases serde t call answers with h | h
  · rwa [h]
  · exact h.claimed hs hc

variable {calls : List (StoreCall × List (Option SqliteError))}

theorem after_claimed (hs : serde.Faithful) (hc : t.Claimed serde) :
    (t.after serde calls).Claimed serde := by
  induction calls generalizing t with
  | nil => exact hc
  | cons call calls ih => exact ih (exec_claimed hs hc)

theorem after_extends : (t.after serde calls).claims.Extends t.claims := by
  induction calls generalizing t with
  | nil => exact .refl _
  | cons call calls ih => exact (exec_extends call.1 call.2).trans ih

theorem empty_claimed : CreditTables.empty.Claimed serde := by
  intro id row h
  simp [CreditTables.empty] at h

/-- One backing operation, one account: whatever the clients store and in whatever order, every
stored deposit is claimed for its account, so no two accounts hold the same one. A claim never
changes hands, and a failed call changes nothing. -/
theorem deposits_claimed_once (hs : serde.Faithful)
    (calls : List (StoreCall × List (Option SqliteError))) :
    (empty.after serde calls).Claimed serde ∧
    (∀ (id id' : String) (row row' : SnapshotRow) (s s' : CreditAccountSnapshotV1),
      (empty.after serde calls).snapshots[id]? = some row →
      (empty.after serde calls).snapshots[id']? = some row' →
      serde.fromStr row.snapshotJson = .ok s → serde.fromStr row'.snapshotJson = .ok s' →
      ∀ d ∈ s.backingDeposits, ∀ d' ∈ s'.backingDeposits, d.issuer = d'.issuer →
        d.depositId = d'.depositId → id = id') ∧
    (∀ (later : List (StoreCall × List (Option SqliteError))) (k : String × String)
      (owner : String), (empty.after serde calls).claims[k]? = some owner →
      ((empty.after serde calls).after serde later).claims[k]? = some owner) ∧
    ∀ (call : StoreCall) answers e c,
      call.run serde ⟨empty.after serde calls, answers⟩ = .error e c →
        c.tables = empty.after serde calls := by
  have hc : (empty.after serde calls).Claimed serde := after_claimed hs empty_claimed
  refine ⟨hc, ?_, fun _ k owner h => after_extends k owner h,
    fun call answers e c h => (run_ends serde _ call answers).of_error h⟩
  intro id id' row row' s s' hrow hrow' hparsed hparsed' d hd d' hd' hissuer hdeposit
  obtain ⟨z, hz, hclaims⟩ := hc id row hrow
  obtain ⟨z', hz', hclaims'⟩ := hc id' row' hrow'
  rw [hparsed, Except.ok.injEq] at hz
  rw [hparsed', Except.ok.injEq] at hz'
  subst hz hz'
  have howner := hclaims d hd
  rw [hissuer, hdeposit, hclaims' d' hd', Option.some.injEq] at howner
  exact howner.symm

end CreditTables

def SerdeJson.ofTable (table : List (CreditAccountSnapshotV1 × String)) : SerdeJson where
  toString s := okOr ((table.find? fun e => e.1 = s).map (·.2)) ⟨"unknown snapshot"⟩
  fromStr text := okOr ((table.find? fun e => e.2 = text).map (·.1)) ⟨"unknown text"⟩

theorem SerdeJson.ofTable_faithful {table : List (CreditAccountSnapshotV1 × String)}
    (h : ∀ e ∈ table, table.find? (fun e' => e'.2 = e.2) = some e) :
    (SerdeJson.ofTable table).Faithful := by
  intro s text hs
  obtain ⟨e, he, rfl⟩ := Option.map_eq_some_iff.mp (okOr_eq_ok.mp hs)
  have hkey := List.find?_some he
  simp only [decide_eq_true_eq] at hkey
  simp only [ofTable, h e (List.mem_of_find?_eq_some he), Option.map_some, hkey]
  rfl

def sampleLedger : CreditAccount where
  revision := 0
  counterparty := "bob"
  maxTotalPeerCreditSat := 100
  totalPeerCreditSat := 0
  issuers := (∅ : BTreeMap String IssuerState).insert "alice"
    (.new ⟨"alice", 100, 10, 100, 100, none⟩)
  appliedReceipts := ∅
  peerCreditEvents := []
  novations := ∅
  backingDeposits := ∅
  backedSettlements := ∅
  closedLoopConsumptions := ∅
  settlements := ∅

def sampleDeposit : Operation :=
  .recordBackingDeposit ⟨"shared-proof", "alice", 25, .reserveBackedWithdrawable⟩ "alice"

def sampleJson : String :=
  "\x7b\"version\":1,\"revision\":0,\"counterparty\":\"bob\",\"max_total_peer_credit_sat\":100," ++
    "\"total_peer_credit_sat\":0,\"issuers\":\x7b\"alice\":\x7b\"policy\":\x7b\"issuer\":\"alice\"," ++
    "\"max_peer_credit_sat\":100,\"max_offline_peer_credit_sat\":10,\"max_closed_loop_sat\":100," ++
    "\"max_withdrawable_sat\":100\x7d,\"peer_credit\":\x7b\"outstanding_sat\":0,\"offline_outstanding_sat\":0\x7d," ++
    "\"closed_loop\":\x7b\"total_deposited_sat\":0,\"available_backing_sat\":0,\"claimable_sat\":0," ++
    "\"consumed_sat\":0\x7d,\"withdrawable\":\x7b\"total_deposited_sat\":0,\"available_sat\":0," ++
    "\"redeemable_sat\":0,\"pending_external_sat\":0,\"settled_external_sat\":0\x7d\x7d\x7d," ++
    "\"applied_receipts\":\x7b\x7d,\"peer_credit_events\":[],\"novations\":\x7b\x7d,\"backing_deposits\":[]," ++
    "\"backed_settlements\":\x7b\x7d,\"closed_loop_consumptions\":\x7b\x7d,\"settlements\":\x7b\x7d\x7d"

def sampleDepositJson : String :=
  "\x7b\"version\":1,\"revision\":1,\"counterparty\":\"bob\",\"max_total_peer_credit_sat\":100," ++
    "\"total_peer_credit_sat\":0,\"issuers\":\x7b\"alice\":\x7b\"policy\":\x7b\"issuer\":\"alice\"," ++
    "\"max_peer_credit_sat\":100,\"max_offline_peer_credit_sat\":10,\"max_closed_loop_sat\":100," ++
    "\"max_withdrawable_sat\":100\x7d,\"peer_credit\":\x7b\"outstanding_sat\":0,\"offline_outstanding_sat\":0\x7d," ++
    "\"closed_loop\":\x7b\"total_deposited_sat\":0,\"available_backing_sat\":0,\"claimable_sat\":0," ++
    "\"consumed_sat\":0\x7d,\"withdrawable\":\x7b\"total_deposited_sat\":25,\"available_sat\":25," ++
    "\"redeemable_sat\":0,\"pending_external_sat\":0,\"settled_external_sat\":0\x7d\x7d\x7d," ++
    "\"applied_receipts\":\x7b\x7d,\"peer_credit_events\":[],\"novations\":\x7b\x7d,\"backing_deposits\":[\x7b\"deposit_id\":\"shared-proof\"," ++
    "\"issuer\":\"alice\",\"amount_sat\":25,\"value_class\":\"reserve_backed_withdrawable\"\x7d]," ++
    "\"backed_settlements\":\x7b\x7d,\"closed_loop_consumptions\":\x7b\x7d,\"settlements\":\x7b\x7d\x7d"

def sampleSerde : SerdeJson := .ofTable [(sampleLedger.snapshot, sampleJson),
  ((sampleLedger.after [sampleDeposit]).snapshot, sampleDepositJson)]

theorem sampleSerde_faithful : sampleSerde.Faithful :=
  SerdeJson.ofTable_faithful (by decide +kernel)

namespace CreditTables

/-- Two accounts claim the same proof, and the engine refuses a commit before that. -/
def sampleCalls : List (StoreCall × List (Option SqliteError)) :=
  [(.create "bob-account" (sampleLedger.after [sampleDeposit]),
      [none, none, none, some (.other "disk full")]),
    (.create "bob-account" sampleLedger, []),
    (.save "bob-account" 0 (sampleLedger.after [sampleDeposit]), []),
    (.create "carol-account" (sampleLedger.after [sampleDeposit]), [])]

theorem deposits_claimed_once_sample :
    (empty.after sampleSerde sampleCalls).claims.toList =
      [(("alice", "shared-proof"), "bob-account")] ∧
    (empty.after sampleSerde sampleCalls).snapshots["carol-account"]? = none ∧
    (empty.after sampleSerde sampleCalls).Claimed sampleSerde :=
  ⟨by decide +kernel, by decide +kernel,
    (deposits_claimed_once sampleSerde_faithful sampleCalls).1⟩

end CreditTables
end CashuService
