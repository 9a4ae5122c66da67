import CashuService.Base.Transaction
import CashuService.Credit.Snapshot
set_option autoImplicit false

namespace CashuService

inductive SqliteError where
  | queryReturnedNoRows
  | other (message : String)
  deriving DecidableEq, Repr

inductive CreditStoreError where
  | invalidAccountId
  | alreadyExists
  | notFound
  | nonMonotonicRevision (expectedRevision snapshotRevision : UInt64)
  | casConflict (expectedRevision actualRevision : UInt64)
  | corruptStoredRevision
  | snapshotRevisionMismatch (storedRevision snapshotRevision : UInt64)
  | backingClaimConflict (issuer depositId claimedAccountId : String)
  | database (error : SqliteError)
  | snapshot (error : SnapshotError)
  | credit (error : CreditError)
  deriving DecidableEq, Repr

structure SnapshotRow where
  revision : List UInt8
  snapshotJson : String
  deriving DecidableEq, Repr

/-- The tables `credit_account_snapshots` and `credit_account_backing_claims`. -/
structure CreditTables where
  snapshots : BTreeMap String SnapshotRow
  claims : BTreeMap (String × String) String
  deriving DecidableEq

def CreditTables.empty : CreditTables := ⟨∅, ∅⟩

abbrev StoreM := EStateM CreditStoreError (Connection SqliteError CreditTables)

namespace CreditTables

/-- `INSERT OR IGNORE INTO credit_account_snapshots`, with the number of inserted rows. -/
def insertSnapshot (accountId : String) (row : SnapshotRow) (self : CreditTables) :
    Nat × CreditTables :=
  match self.snapshots[accountId]? with
  | some _ => (0, self)
  | none => (1, { self with snapshots := self.snapshots.insert accountId row })

/-- `UPDATE credit_account_snapshots … WHERE account_id = … AND revision = …`, with the number
of updated rows. -/
def updateSnapshot (accountId : String) (expected : List UInt8) (row : SnapshotRow)
    (self : CreditTables) : Nat × CreditTables :=
  match self.snapshots[accountId]? with
  | some stored =>
    if stored.revision = expected then
      (1, { self with snapshots := self.snapshots.insert accountId row })
    else (0, self)
  | none => (0, self)

def insertClaim (issuer depositId accountId : String) (self : CreditTables) :
    Nat × CreditTables :=
  match self.claims[(issuer, depositId)]? with
  | some _ => (0, self)
  | none => (1, { self with claims := self.claims.insert (issuer, depositId) accountId })

end CreditTables

namespace CreditAccountStore

def execute {α : Type} (f : CreditTables → α × CreditTables) : StoreM α :=
  statement .database fun t => .ok (f t)

/-- `query_row(..)`, for a query with at most one row. -/
def queryRow {α : Type} (f : CreditTables → Option α) : StoreM α :=
  statement .database fun t => okOr ((f t).map fun a => (a, t)) (.database .queryReturnedNoRows)

/-- `query_row(..).optional()`. -/
def queryOptional {α : Type} (f : CreditTables → Option α) : StoreM (Option α) :=
  statement .database fun t => .ok (f t, t)

def validateAccountId (accountId : String) : Except CreditStoreError Unit :=
  rejectIf (isBlank accountId) .invalidAccountId

def decodeRevision (encoded : List UInt8) : Except CreditStoreError UInt64 :=
  okOr (UInt64.ofBeBytes encoded) .corruptStoredRevision

def loadRevision (accountId : String) : StoreM (Option UInt64) := do
  match ← queryOptional fun t => t.snapshots[accountId]?.map (·.revision) with
  | some revision => return some (← attempt (decodeRevision revision))
  | none => return none

/-- One round of the loop of `bind_backing_deposits`. -/
def bindBackingDeposit (accountId : String) (deposit : BackingDeposit) : StoreM Unit := do
  let inserted ← execute (CreditTables.insertClaim deposit.issuer deposit.depositId accountId)
  if inserted = 1 then return ()
  else
    let claimedAccountId ← queryRow fun t => t.claims[(deposit.issuer, deposit.depositId)]?
    if claimedAccountId ≠ accountId then
      throw (.backingClaimConflict deposit.issuer deposit.depositId claimedAccountId)
    else return ()

def bindBackingDeposits (accountId : String) : List BackingDeposit → StoreM Unit
  | [] => return ()
  | deposit :: deposits => do
    bindBackingDeposit accountId deposit
    bindBackingDeposits accountId deposits

variable (serde : SerdeJson)

def create (accountId : String) (account : CreditAccount) : StoreM Unit := do
  attempt (validateAccountId accountId)
  let snapshot := account.snapshot
  let encoded ← attempt ((snapshot.encodeJson serde).mapError .snapshot)
  let revision := snapshot.revision.toBeBytes
  immediate .database do
    let inserted ← execute (CreditTables.insertSnapshot accountId ⟨revision, encoded⟩)
    if inserted = 0 then throw .alreadyExists
    else bindBackingDeposits accountId (account.backingDeposits.toList.map (·.2))

def load (accountId : String) : StoreM (Option CreditAccount) := do
  attempt (validateAccountId accountId)
  match ← queryOptional fun t => t.snapshots[accountId]? with
  | none => return none
  | some row =>
    let storedRevision ← attempt (decodeRevision row.revision)
    let snapshot ← attempt
      ((CreditAccountSnapshotV1.decodeJson serde row.snapshotJson).mapError .snapshot)
    if snapshot.revision ≠ storedRevision then
      throw (.snapshotRevisionMismatch storedRevision snapshot.revision)
    else
      return some (← attempt ((CreditAccount.fromSnapshot snapshot).mapError .credit))

def save (accountId : String) (expectedRevision : UInt64) (account : CreditAccount) :
    StoreM Unit := do
  attempt (validateAccountId accountId)
  attempt (rejectIf (account.revision ≤ expectedRevision)
    (.nonMonotonicRevision expectedRevision account.revision))
  let snapshot := account.snapshot
  let encoded ← attempt ((snapshot.encodeJson serde).mapError .snapshot)
  let expected := expectedRevision.toBeBytes
  let next := snapshot.revision.toBeBytes
  immediate .database do
    let updated ← execute (CreditTables.updateSnapshot accountId expected ⟨next, encoded⟩)
    if updated = 0 then
      match ← loadRevision accountId with
      | some actualRevision => throw (.casConflict expectedRevision actualRevision)
      | none => throw .notFound
    else bindBackingDeposits accountId (account.backingDeposits.toList.map (·.2))

end CreditAccountStore

structure CreditTables.Binds (t : CreditTables) (accountId : String)
    (deposits : List BackingDeposit) (t' : CreditTables) : Prop where
  snapshots : t'.snapshots = t.snapshots
  kept : t'.claims.Extends t.claims
  bound : ∀ d ∈ deposits, t'.claims[(d.issuer, d.depositId)]? = some accountId

/-- The account is written under its id and its deposits are claimed for it. -/
structure CreditTables.Stores (serde : SerdeJson) (t : CreditTables) (accountId : String)
    (account : CreditAccount) (t' : CreditTables) : Prop where
  named : isBlank accountId = false
  row : ∃ text, serde.toString account.snapshot = .ok text ∧
    t'.snapshots = t.snapshots.insert accountId ⟨account.revision.toBeBytes, text⟩
  kept : t'.claims.Extends t.claims
  bound : ∀ d ∈ account.backingDeposits.toList.map (·.2),
    t'.claims[(d.issuer, d.depositId)]? = some accountId

namespace CreditAccountStore

variable {c : Connection SqliteError CreditTables} {t : CreditTables} {accountId : String}

theorem execute_ends {α : Type} {f : CreditTables → α × CreditTables} :
    Ends (execute f) c (fun _ c' => c'.tables = c.tables)
      fun a c' => (a, c'.tables) = f c.tables := by
  refine statement_ends.imp (fun _ _ h => h) fun a c' h => ?_
  exact (Except.ok.inj h).symm

theorem queryRow_ends {α : Type} {f : CreditTables → Option α} :
    Ends (queryRow f) c (fun _ c' => c'.tables = c.tables) fun a c' =>
      c'.tables = c.tables ∧ f c.tables = some a := by
  refine statement_ends.imp (fun _ _ h => h) fun a c' h => ?_
  obtain ⟨b, hb, heq⟩ := Option.map_eq_some_iff.mp (okOr_eq_ok.mp h)
  obtain ⟨rfl, htables⟩ := Prod.mk.inj heq
  exact ⟨htables.symm, hb⟩

theorem queryOptional_ends {α : Type} {f : CreditTables → Option α} :
    Ends (queryOptional f) c (fun _ c' => c'.tables = c.tables) fun a c' =>
      c'.tables = c.tables ∧ f c.tables = a := by
  refine statement_ends.imp (fun _ _ h => h) fun a c' h => ?_
  obtain ⟨hresult, htables⟩ := Prod.mk.inj (Except.ok.inj h)
  exact ⟨htables.symm, hresult⟩

theorem insertClaim_one {issuer depositId : String} {t' : CreditTables}
    (h : (1, t') = t.insertClaim issuer depositId accountId) :
    t'.snapshots = t.snapshots ∧ t'.claims.Extends t.claims ∧
      t'.claims[(issuer, depositId)]? = some accountId := by
  unfold CreditTables.insertClaim at h
  cases hk : t.claims[(issuer, depositId)]? with
  | some owner => simp [hk] at h
  | none =>
    simp only [hk, Prod.mk.injEq, true_and] at h
    subst h
    exact ⟨rfl, BTreeMap.Extends.insert _ hk, BTreeMap.getElem?_insert_self _ _ _⟩

theorem insertClaim_ne_one {issuer depositId : String} {n : Nat} {t' : CreditTables}
    (h : (n, t') = t.insertClaim issuer depositId accountId) (hn : n ≠ 1) : t' = t := by
  unfold CreditTables.insertClaim at h
  split at h <;> simp_all

theorem bindBackingDeposit_ends {d : BackingDeposit} :
    Ends (bindBackingDeposit accountId d) c (fun _ _ => True) fun _ c' =>
      c.tables.Binds accountId [d] c'.tables := by
  refine (execute_ends.imp (fun _ _ _ => trivial) fun _ _ h => h).seq fun n c' hinsert => ?_
  refine .ite (fun hn => ?_) fun hn => ?_
  · subst hn
    obtain ⟨hsnapshots, hkept, hbound⟩ := insertClaim_one hinsert
    exact .pure ⟨hsnapshots, hkept, by simpa using hbound⟩
  · have hsame := insertClaim_ne_one hinsert hn
    refine (queryRow_ends.imp (fun _ _ _ => trivial) fun _ _ h => h).seq fun owner c'' h => ?_
    obtain ⟨htables, hclaimed⟩ := h
    refine .ite (fun _ => .throw trivial) fun howner => .pure ?_
    obtain rfl := not_not.mp howner
    rw [htables, hsame]
    rw [hsame] at hclaimed
    exact ⟨rfl, .refl _, by simpa using hclaimed⟩

theorem bindBackingDeposits_ends {deposits : List BackingDeposit} :
    Ends (bindBackingDeposits accountId deposits) c (fun _ _ => True) fun _ c' =>
      c.tables.Binds accountId deposits c'.tables := by
  induction deposits generalizing c with
  | nil => exact .pure ⟨rfl, .refl _, by simp⟩
  | cons d deposits ih =>
    refine bindBackingDeposit_ends.seq fun _ c' hfirst => ?_
    refine ih.imp (fun _ _ _ => trivial) fun _ c'' hrest => ?_
    refine ⟨hrest.snapshots.trans hfirst.snapshots, hfirst.kept.trans hrest.kept, ?_⟩
    intro e he
    rcases List.mem_cons.mp he with rfl | he
    · exact hrest.kept _ _ (hfirst.bound e (by simp))
    · exact hrest.bound e he

theorem loadRevision_ends :
    Ends (loadRevision accountId) c (fun _ _ => True) fun _ _ => True := by
  refine (queryOptional_ends.imp (fun _ _ _ => trivial) fun _ _ h => h).seq fun r c' _ => ?_
  cases r with
  | none => exact .pure trivial
  | some revision => exact .attempt_bind (fun _ _ => trivial) fun _ _ => .pure trivial

section

variable {serde : SerdeJson} {account : CreditAccount}

theorem encodeJson_eq_ok {s : CreditAccountSnapshotV1} {text : String} :
    (s.encodeJson serde).mapError CreditStoreError.snapshot = .ok text ↔
      serde.toString s = .ok text := by
  simp only [CreditAccountSnapshotV1.encodeJson, Except.mapError_eq_ok]

theorem insertSnapshot_eq {row : SnapshotRow} {n : Nat} {t' : CreditTables}
    (h : (n, t') = t.insertSnapshot accountId row) (hn : n ≠ 0) :
    t.snapshots[accountId]? = none ∧
      t' = { t with snapshots := t.snapshots.insert accountId row } := by
  unfold CreditTables.insertSnapshot at h
  split at h <;> simp_all

theorem updateSnapshot_eq {expected : List UInt8} {row : SnapshotRow} {n : Nat}
    {t' : CreditTables} (h : (n, t') = t.updateSnapshot accountId expected row) (hn : n ≠ 0) :
    (∃ stored, t.snapshots[accountId]? = some stored ∧ stored.revision = expected) ∧
      t' = { t with snapshots := t.snapshots.insert accountId row } := by
  unfold CreditTables.updateSnapshot at h
  split at h
  · split at h <;> simp_all
  · simp_all

theorem bind_stores {text : String} {t' : CreditTables}
    (hid : validateAccountId accountId = .ok ())
    (htext : serde.toString account.snapshot = .ok text)
    (ht : c.tables = { t' with
      snapshots := t'.snapshots.insert accountId ⟨account.revision.toBeBytes, text⟩ }) :
    Ends (bindBackingDeposits accountId (account.backingDeposits.toList.map (·.2))) c
      (fun _ _ => True) fun _ c' => t'.Stores serde accountId account c'.tables := by
  refine bindBackingDeposits_ends.imp (fun _ _ _ => trivial) fun _ c' h => ?_
  rw [ht] at h
  exact ⟨Bool.eq_false_iff.mpr (rejectIf_eq_ok.mp hid), ⟨text, htext, h.snapshots⟩, h.kept,
    h.bound⟩

theorem create_ends :
    Ends (create serde accountId account) c (fun _ c' => c'.tables = c.tables) fun _ c' =>
      c.tables.snapshots[accountId]? = none ∧
        c.tables.Stores serde accountId account c'.tables := by
  refine .attempt_bind (fun _ _ => rfl) fun _ hid => .attempt_bind (fun _ _ => rfl) ?_
  intro text htext
  rw [encodeJson_eq_ok] at htext
  refine immediate_ends (fun _ t' => c.tables.snapshots[accountId]? = none ∧
    c.tables.Stores serde accountId account t') fun c₁ h₁ => ?_
  refine (execute_ends.imp (fun _ _ _ => trivial) fun _ _ h => h).seq fun n c₂ hinsert => ?_
  refine .ite (fun _ => .throw trivial) fun hn => ?_
  obtain ⟨hfree, htables⟩ := insertSnapshot_eq hinsert hn
  rw [h₁] at hfree htables
  exact (bind_stores hid htext htables).imp (fun _ _ _ => trivial) fun _ _ h => ⟨hfree, h⟩

/-- `save` fails without effect, or replaces a row of the expected revision by a later one. -/
theorem save_ends {expectedRevision : UInt64} :
    Ends (save serde accountId expectedRevision account) c (fun _ c' => c'.tables = c.tables)
      fun _ c' => expectedRevision < account.revision ∧
        (∃ row, c.tables.snapshots[accountId]? = some row ∧
          row.revision = expectedRevision.toBeBytes) ∧
        c.tables.Stores serde accountId account c'.tables := by
  refine .attempt_bind (fun _ _ => rfl) fun _ hid => .attempt_bind (fun _ _ => rfl) ?_
  intro _ hlater
  have hrevision := UInt64.not_le.mp (rejectIf_eq_ok.mp hlater)
  refine .attempt_bind (fun _ _ => rfl) fun text htext => ?_
  rw [encodeJson_eq_ok] at htext
  refine immediate_ends (fun _ t' => expectedRevision < account.revision ∧
    (∃ row, c.tables.snapshots[accountId]? = some row ∧
      row.revision = expectedRevision.toBeBytes) ∧
    c.tables.Stores serde accountId account t') fun c₁ h₁ => ?_
  refine (execute_ends.imp (fun _ _ _ => trivial) fun _ _ h => h).seq fun n c₂ hupdate => ?_
  refine .ite (fun _ => ?_) fun hn => ?_
  · refine loadRevision_ends.seq fun r c₃ _ => ?_
    cases r <;> exact .throw trivial
  · obtain ⟨hstored, htables⟩ := updateSnapshot_eq hupdate hn
    rw [h₁] at hstored htables
    exact (bind_stores hid htext htables).imp (fun _ _ _ => trivial)
      fun _ _ h => ⟨hrevision, hstored, h⟩

/-- `load` leaves the tables alone, and what it returns is restored from the row. -/
theorem load_ends :
    Ends (load serde accountId) c (fun _ c' => c'.tables = c.tables) fun r c' =>
      c'.tables = c.tables ∧ ∀ a, r = some a → ∃ row s, c.tables.snapshots[accountId]? = some row ∧
        UInt64.ofBeBytes row.revision = some s.revision ∧
        serde.fromStr row.snapshotJson = .ok s ∧ CreditAccount.fromSnapshot s = .ok a := by
  refine .attempt_bind (fun _ _ => rfl) fun _ _ => queryOptional_ends.seq fun r c' h => ?_
  obtain ⟨htables, hrow⟩ := h
  cases r with
  | none => exact .pure ⟨htables, fun _ h => by cases h⟩
  | some row =>
    refine .attempt_bind (fun _ _ => htables) fun revision hrevision => .attempt_bind
      (fun _ _ => htables) fun s hs => .ite (fun _ => .throw htables) fun hsame => .attempt_bind
        (fun _ _ => htables) fun a ha => .pure ⟨htables, fun b hb => ?_⟩
    obtain rfl := Option.some.inj hb
    simp only [CreditAccountSnapshotV1.decodeJson, Except.mapError_eq_ok, Except.bind_eq_ok,
      Except.pure_eq_ok] at hs
    obtain ⟨_, hparsed, _, _, rfl⟩ := hs
    have hstored := okOr_eq_ok.mp hrevision
    rw [← not_not.mp hsame] at hstored
    exact ⟨row, _, hrow, hstored, hparsed, Except.mapError_eq_ok.mp ha⟩

theorem load_stored {text : String} (hid : isBlank accountId = false)
    (hrow : t.snapshots[accountId]? = some ⟨account.revision.toBeBytes, text⟩)
    (htext : serde.fromStr text = .ok account.snapshot) :
    load serde accountId ⟨t, []⟩ =
      match CreditAccount.fromSnapshot account.snapshot with
      | .ok a => .ok (some a) ⟨t, []⟩
      | .error e => .error (.snapshot (.credit e)) ⟨t, []⟩ := by
  have hdecode : decodeRevision account.revision.toBeBytes = .ok account.snapshot.revision :=
    okOr_eq_ok.mpr (UInt64.ofBeBytes_toBeBytes _)
  cases hv : account.snapshot.validate <;>
    simp [load, validateAccountId, rejectIf, hid, attempt, bind, EStateM.bind, queryOptional,
      statement, proceed, get, getThe, MonadStateOf.get, EStateM.get, modify, modifyGet,
      MonadStateOf.modifyGet, EStateM.modifyGet, hrow, hdecode, pure, EStateM.pure,
      CreditAccountSnapshotV1.decodeJson, htext, Except.mapError, Except.bind, hv, Except.pure,
      CreditAccount.fromSnapshot]

end
end CreditAccountStore
end CashuService
