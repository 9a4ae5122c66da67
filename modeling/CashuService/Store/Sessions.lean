import CashuService.Credit.Idempotence
import CashuService.Store.Claims
set_option autoImplicit false

namespace CashuService

/-- What a client holds between `load` and `save`: the account as it was loaded, and the copy it
works on. -/
structure Session where
  accountId : String
  loaded : CreditAccount
  copy : CreditAccount

/-- One step of one of the clients, with the engine's answers. A client can only create accounts
it can hold. -/
inductive ClientStep where
  | create (accountId : String) (account : { a : CreditAccount // a.Reachable })
      (answers : List (Option SqliteError))
  | load (client : Nat) (accountId : String) (answers : List (Option SqliteError))
  | operate (client : Nat) (op : Operation)
  | save (client : Nat) (answers : List (Option SqliteError))

/-- The tables and the sessions of the clients. The history lists what was stored under each id,
latest first; no step reads it. -/
structure StoreWorld where
  tables : CreditTables
  sessions : Nat → Option Session
  history : String → List CreditAccount

namespace StoreWorld

def start : StoreWorld := ⟨.empty, fun _ => none, fun _ => []⟩

def record (self : StoreWorld) (tables : CreditTables) (accountId : String)
    (account : CreditAccount) : StoreWorld :=
  { self with
    tables
    history := Function.update self.history accountId (account :: self.history accountId) }

def withSession (self : StoreWorld) (client : Nat) (session : Session) : StoreWorld :=
  { self with sessions := Function.update self.sessions client (some session) }

@[simp] theorem record_tables (w : StoreWorld) (t : CreditTables) (id : String)
    (a : CreditAccount) : (w.record t id a).tables = t := rfl

@[simp] theorem record_history_self (w : StoreWorld) (t : CreditTables) (id : String)
    (a : CreditAccount) : (w.record t id a).history id = a :: w.history id :=
  Function.update_self _ _ _

theorem record_history_ne (w : StoreWorld) (t : CreditTables) {id i : String}
    (a : CreditAccount) (h : i ≠ id) : (w.record t id a).history i = w.history i :=
  Function.update_of_ne h _ _

def wrote (self : StoreWorld) (accountId : String) (account : CreditAccount) :
    EStateM.Result CreditStoreError (Connection SqliteError CreditTables) Unit → StoreWorld
  | .ok _ c => self.record c.tables accountId account
  | .error _ c => { self with tables := c.tables }

variable (serde : SerdeJson)

def step (self : StoreWorld) : ClientStep → StoreWorld
  | .create accountId account answers => self.wrote accountId account
      (CreditAccountStore.create serde accountId account ⟨self.tables, answers⟩)
  | .load client accountId answers =>
    match CreditAccountStore.load serde accountId ⟨self.tables, answers⟩ with
    | .ok (some a) c => { self with tables := c.tables }.withSession client ⟨accountId, a, a⟩
    | .ok none c | .error _ c => { self with tables := c.tables }
  | .operate client op =>
    match self.sessions client with
    | some s => self.withSession client { s with copy := op.exec s.copy }
    | none => self
  | .save client answers =>
    match self.sessions client with
    | some s => self.wrote s.accountId s.copy (CreditAccountStore.save serde s.accountId
        s.loaded.revision s.copy ⟨self.tables, answers⟩)
    | none => self

/-- The steps of all clients, in the order in which they happen. -/
def run (self : StoreWorld) (steps : List ClientStep) : StoreWorld :=
  steps.foldl (step serde) self

end StoreWorld

/-- The row of an id holds an account. -/
def CreditTables.Holds (serde : SerdeJson) (t : CreditTables) (accountId : String)
    (a : CreditAccount) : Prop :=
  ∃ text, t.snapshots[accountId]? = some ⟨a.revision.toBeBytes, text⟩ ∧
    serde.toString a.snapshot = .ok text

structure CreditAccount.Succeeds (b a : CreditAccount) : Prop where
  revision : a.revision < b.revision
  operations : ∃ ops, b = a.after ops

namespace StoreWorld

open CreditAccount

/-- What holds between any two steps. -/
structure Consistent (serde : SerdeJson) (w : StoreWorld) : Prop where
  rows : ∀ id, w.tables.snapshots[id]? = none ∧ w.history id = [] ∨
    ∃ a older, w.history id = a :: older ∧ w.tables.Holds serde id a
  reachable : ∀ id, ∀ a ∈ w.history id, a.Reachable
  ordered : ∀ id, (w.history id).Pairwise CreditAccount.Succeeds
  sessions : ∀ client s, w.sessions client = some s →
    s.loaded ∈ w.history s.accountId ∧ ∃ ops, s.copy = s.loaded.after ops

theorem start_consistent (serde : SerdeJson) : start.Consistent serde where
  rows id := .inl ⟨by simp [start, CreditTables.empty], rfl⟩
  reachable id a h := by simp [start] at h
  ordered id := .nil
  sessions client s h := by simp [start] at h

end StoreWorld

namespace CreditAccount

variable {a b c : CreditAccount}

theorem Succeeds.trans (h : c.Succeeds b) (h' : b.Succeeds a) : c.Succeeds a := by
  obtain ⟨ops, rfl⟩ := h'.operations
  obtain ⟨ops', rfl⟩ := h.operations
  exact ⟨UInt64.lt_trans h'.revision h.revision, ops ++ ops', (after_append _ _ _).symm⟩

theorem Succeeds.stored (h : b.Succeeds a) {k : IdempotencyKey} {x : Submission}
    (hx : a.stored k = some x) : b.stored k = some x := by
  obtain ⟨ops, rfl⟩ := h.operations
  exact (a.after_grows ops).stored hx

theorem eq_of_revision {history : List CreditAccount} (h : history.Pairwise Succeeds)
    (ha : a ∈ history) (hb : b ∈ history) (hrevision : a.revision = b.revision) : a = b := by
  induction h with
  | nil => simp at ha
  | cons hfirst _ ih =>
    rcases List.mem_cons.mp ha with rfl | hold <;> rcases List.mem_cons.mp hb with rfl | hold'
    · rfl
    · exact absurd (hrevision ▸ (hfirst b hold').revision) (UInt64.lt_irrefl _)
    · exact absurd (hrevision ▸ (hfirst a hold).revision) (UInt64.lt_irrefl _)
    · exact ih hold hold'

end CreditAccount

namespace StoreWorld

open CreditAccountStore

variable {serde : SerdeJson} {w : StoreWorld} {id : String} {a : CreditAccount}

theorem load_held (hs : serde.Faithful) (ha : a.Reachable) (hheld : w.tables.Holds serde id a)
    {answers : List (Option SqliteError)} {b : CreditAccount}
    {c : Connection SqliteError CreditTables}
    (h : load serde id ⟨w.tables, answers⟩ = .ok (some b) c) : b = a := by
  obtain ⟨text, hrow, htext⟩ := hheld
  obtain ⟨_, hloaded⟩ := load_ends.of_ok h
  obtain ⟨row, s, hrow', _, hparsed, hrestored⟩ := hloaded b rfl
  rw [hrow, Option.some.injEq] at hrow'
  subst hrow'
  rw [hs _ _ htext, Except.ok.injEq] at hparsed
  subst hparsed
  have hkeyed := ha.coherent.deposits.imp fun _ _ hk => hk.keyed
  rw [← (CreditAccount.fromSnapshot_eq_ok.mp hrestored).2, CreditAccount.ofSnapshot_snapshot hkeyed]

theorem Consistent.record (hw : w.Consistent serde) {t : CreditTables}
    (hstores : w.tables.Stores serde id a t) (ha : a.Reachable)
    (hlater : ∀ b ∈ w.history id, a.Succeeds b) : (w.record t id a).Consistent serde := by
  obtain ⟨text, htext, hsnapshots⟩ := hstores.row
  constructor
  case rows =>
    intro i
    by_cases hi : i = id
    · subst hi
      refine .inr ⟨a, w.history i, record_history_self _ _ _ _, text, ?_, htext⟩
      rw [record_tables, hsnapshots, BTreeMap.getElem?_insert_self]
    · have hrow : t.snapshots[i]? = w.tables.snapshots[i]? := by
        rw [hsnapshots, BTreeMap.getElem?_insert_ne _ _ (Ne.symm hi)]
      simp only [CreditTables.Holds, record_tables, hrow, record_history_ne _ _ _ hi]
      exact hw.rows i
  case reachable =>
    intro i b hb
    by_cases hi : i = id
    · subst hi
      rw [record_history_self] at hb
      rcases List.mem_cons.mp hb with rfl | hb
      · exact ha
      · exact hw.reachable i b hb
    · rw [record_history_ne _ _ _ hi] at hb
      exact hw.reachable i b hb
  case ordered =>
    intro i
    by_cases hi : i = id
    · subst hi
      rw [record_history_self]
      exact .cons hlater (hw.ordered i)
    · rw [record_history_ne _ _ _ hi]
      exact hw.ordered i
  case sessions =>
    intro client s hsession
    obtain ⟨hloaded, hcopy⟩ := hw.sessions client s hsession
    refine ⟨?_, hcopy⟩
    by_cases hi : s.accountId = id
    · rw [hi] at hloaded ⊢
      rw [record_history_self]
      exact List.mem_cons_of_mem _ hloaded
    · rwa [record_history_ne _ _ _ hi]

theorem Consistent.withSession (hw : w.Consistent serde) {client : Nat} {s : Session}
    (hloaded : s.loaded ∈ w.history s.accountId) (hcopy : ∃ ops, s.copy = s.loaded.after ops) :
    (w.withSession client s).Consistent serde := by
  refine ⟨hw.rows, hw.reachable, hw.ordered, ?_⟩
  intro i s' hs'
  by_cases hi : i = client
  · subst hi
    have hsame : s = s' := by simpa [StoreWorld.withSession] using hs'
    subst hsame
    exact ⟨hloaded, hcopy⟩
  · have hold : w.sessions i = some s' := by
      simpa [StoreWorld.withSession, Function.update_of_ne hi] using hs'
    exact hw.sessions i s' hold

theorem Consistent.unchanged (hw : w.Consistent serde) {t : CreditTables} (ht : t = w.tables) :
    ({ w with tables := t } : StoreWorld).Consistent serde := by
  subst ht
  exact hw

/-- What a session may rely on when it saves: the row still holds the very account it loaded. -/
structure Saves (serde : SerdeJson) (w : StoreWorld) (s : Session) (t : CreditTables) : Prop where
  before : w.tables.Holds serde s.accountId s.loaded
  latest : ∃ older, w.history s.accountId = s.loaded :: older
  after : t.Holds serde s.accountId s.copy
  succeeds : s.copy.Succeeds s.loaded

theorem Consistent.saves (hw : w.Consistent serde) {client : Nat} {s : Session}
    {answers : List (Option SqliteError)} {c : Connection SqliteError CreditTables}
    (hsession : w.sessions client = some s)
    (h : save serde s.accountId s.loaded.revision s.copy ⟨w.tables, answers⟩ = .ok () c) :
    w.Saves serde s c.tables ∧ w.tables.Stores serde s.accountId s.copy c.tables := by
  obtain ⟨hlater, ⟨row, hrow, hrevision⟩, hstores⟩ := save_ends.of_ok h
  obtain ⟨hloaded, hcopy⟩ := hw.sessions client s hsession
  rcases hw.rows s.accountId with ⟨hnone, _⟩ | ⟨b, older, hhistory, hheld⟩
  · rw [hnone] at hrow
    cases hrow
  · obtain ⟨text, hrow', htext⟩ := hheld
    rw [hrow, Option.some.injEq] at hrow'
    subst hrow'
    have hb : b ∈ w.history s.accountId := hhistory ▸ List.mem_cons_self
    have hsame := CreditAccount.eq_of_revision (hw.ordered s.accountId) hb hloaded
      (UInt64.toBeBytes_inj.mp hrevision)
    subst hsame
    obtain ⟨text', htext', hsnapshots⟩ := hstores.row
    have hafter : c.tables.Holds serde s.accountId s.copy :=
      ⟨text', by rw [hsnapshots, BTreeMap.getElem?_insert_self], htext'⟩
    exact ⟨⟨⟨text, hrow, htext⟩, ⟨older, hhistory⟩, hafter, hlater, hcopy⟩, hstores⟩

theorem Consistent.step (hs : serde.Faithful) (hw : w.Consistent serde) (step : ClientStep) :
    (w.step serde step).Consistent serde := by
  cases step with
  | create accountId account answers =>
    simp only [StoreWorld.step]
    cases hr : create serde accountId account.1 ⟨w.tables, answers⟩ with
    | error e c => exact hw.unchanged (create_ends.of_error hr)
    | ok u c =>
      obtain ⟨hfree, hstores⟩ := create_ends.of_ok hr
      refine hw.record hstores account.2 fun b hb => ?_
      rcases hw.rows accountId with ⟨_, hempty⟩ | ⟨_, _, _, text, hrow, _⟩
      · simp [hempty] at hb
      · rw [hfree] at hrow
        cases hrow
  | load client accountId answers =>
    simp only [StoreWorld.step]
    cases hr : load serde accountId ⟨w.tables, answers⟩ with
    | error e c => exact hw.unchanged (load_ends.of_error hr)
    | ok r c =>
      obtain ⟨htables, hloaded⟩ := load_ends.of_ok hr
      cases r with
      | none => exact hw.unchanged htables
      | some a =>
        refine (hw.unchanged htables).withSession ?_ ⟨[], rfl⟩
        obtain ⟨row, _, hrow, _⟩ := hloaded a rfl
        rcases hw.rows accountId with ⟨hnone, _⟩ | ⟨b, older, hhistory, hheld⟩
        · rw [hnone] at hrow
          cases hrow
        · have hb : b ∈ w.history accountId := hhistory ▸ List.mem_cons_self
          rw [load_held hs (hw.reachable _ _ hb) hheld hr]
          exact hb
  | operate client op =>
    simp only [StoreWorld.step]
    cases hsession : w.sessions client with
    | none => exact hw
    | some s =>
      obtain ⟨hloaded, ops, hcopy⟩ := hw.sessions client s hsession
      refine hw.withSession hloaded ⟨ops ++ [op], ?_⟩
      rw [CreditAccount.after_append, ← hcopy]
      rfl
  | save client answers =>
    simp only [StoreWorld.step]
    cases hsession : w.sessions client with
    | none => exact hw
    | some s =>
      simp only
      cases hr : save serde s.accountId s.loaded.revision s.copy ⟨w.tables, answers⟩ with
      | error e c => exact hw.unchanged (save_ends.of_error hr)
      | ok u c =>
        obtain ⟨hsaves, hstores⟩ := hw.saves hsession hr
        obtain ⟨older, hhistory⟩ := hsaves.latest
        have hmem : s.loaded ∈ w.history s.accountId := hhistory ▸ List.mem_cons_self
        have hreachable : s.copy.Reachable := by
          obtain ⟨ops, hops⟩ := hsaves.succeeds.operations
          rw [hops]
          exact (hw.reachable _ _ hmem).after ops
        refine hw.record hstores hreachable fun b hb => ?_
        have hordered := hw.ordered s.accountId
        rw [hhistory] at hb hordered
        rcases List.mem_cons.mp hb with rfl | hb
        · exact hsaves.succeeds
        · exact hsaves.succeeds.trans ((List.pairwise_cons.mp hordered).1 b hb)

theorem Consistent.run (hs : serde.Faithful) (hw : w.Consistent serde)
    (steps : List ClientStep) : (w.run serde steps).Consistent serde := by
  induction steps generalizing w with
  | nil => exact hw
  | cons step steps ih => exact ih (hw.step hs step)

/-- No lost update. However the steps of the clients interleave, a save succeeds only while the
row still holds the account its client loaded, it leaves a later account made from that one, and
no record of a stored account is missing from an account stored after it. -/
theorem no_lost_update (hs : serde.Faithful) (steps : List ClientStep) :
    (∀ client s answers c, (start.run serde steps).sessions client = some s →
      save serde s.accountId s.loaded.revision s.copy ⟨(start.run serde steps).tables, answers⟩ =
          .ok () c →
        (start.run serde steps).Saves serde s c.tables) ∧
    (∀ id a older, (start.run serde steps).history id = a :: older →
      (start.run serde steps).tables.Holds serde id a) ∧
    ∀ id, ((start.run serde steps).history id).Pairwise fun later earlier =>
      later.Succeeds earlier ∧
        ∀ k x, earlier.stored k = some x → later.stored k = some x := by
  have hw := (start_consistent serde).run hs steps
  refine ⟨fun client s answers c hsession h => (hw.saves hsession h).1, ?_, fun id => ?_⟩
  · intro id a older hhistory
    rcases hw.rows id with ⟨_, hempty⟩ | ⟨b, _, hlatest, hheld⟩
    · rw [hempty] at hhistory
      cases hhistory
    · rw [hlatest] at hhistory
      cases hhistory
      exact hheld
  · exact (hw.ordered id).imp fun h => ⟨h, fun _ _ hx => h.stored hx⟩

theorem sampleLedger_new : CreditAccount.new ⟨"bob", 100, [⟨"alice", 100, 10, 100, 100, none⟩]⟩ =
    .ok sampleLedger := rfl

/-- Two clients load the same account, and the second save comes too late. -/
def sampleSteps : List ClientStep :=
  [.create "bob-account" ⟨sampleLedger, .new sampleLedger_new⟩ [],
    .load 1 "bob-account" [], .load 2 "bob-account" [],
    .operate 1 sampleDeposit, .operate 2 sampleDeposit, .save 1 [], .save 2 []]

theorem no_lost_update_sample :
    (start.run sampleSerde sampleSteps).history "bob-account" =
      [sampleLedger.after [sampleDeposit], sampleLedger] ∧
    (start.run sampleSerde sampleSteps).tables.Holds sampleSerde "bob-account"
      (sampleLedger.after [sampleDeposit]) := by
  have hhistory : (start.run sampleSerde sampleSteps).history "bob-account" =
      [sampleLedger.after [sampleDeposit], sampleLedger] := by decide +kernel
  exact ⟨hhistory, (no_lost_update sampleSerde_faithful sampleSteps).2.1 _ _ _ hhistory⟩

end StoreWorld
end CashuService
