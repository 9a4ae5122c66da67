import CashuService.Base.BTreeMap
import CashuService.Base.Cdk
import CashuService.Base.Newest
import CashuService.Base.Serde
import CashuService.Base.Transaction
set_option autoImplicit false

namespace CashuService

/-! `wallet.rs`: the activity of a wallet, a list of at most 200 entries under one key of the
wallet's database. As in the payment messages, a JSON value stands for its text. -/

inductive CashuWalletActivityKind where
  | topUp | lightningPayment | tokenSend | tokenReceive | channelCollect
  deriving DecidableEq, Repr

inductive CashuWalletActivityStatus where
  | pending | complete | reclaimed | expired
  deriving DecidableEq, Repr

structure CashuWalletActivityEntry where
  id : String
  kind : CashuWalletActivityKind
  status : CashuWalletActivityStatus
  mintUrl : String
  unit : String
  amountSat : UInt64
  feeSat : Option UInt64
  createdAtUnix : UInt64
  expiresAtUnix : Option UInt64
  quoteId : Option String
  operationId : Option String
  paymentRequest : Option String
  token : Option String
  deriving DecidableEq, Repr

def kMaxWalletActivityEntries : Nat := 200

namespace CashuWalletActivityKind

def toJson : CashuWalletActivityKind → Json
  | .topUp => .string "top_up"
  | .lightningPayment => .string "lightning_payment"
  | .tokenSend => .string "token_send"
  | .tokenReceive => .string "token_receive"
  | .channelCollect => .string "channel_collect"

def fromJson (json : Json) : Except DecodeError CashuWalletActivityKind := do
  match ← json.asString with
  | "top_up" => return .topUp
  | "lightning_payment" => return .lightningPayment
  | "token_send" => return .tokenSend
  | "token_receive" => return .tokenReceive
  | "channel_collect" => return .channelCollect
  | other => throw (.unknownVariant other)

@[simp] theorem fromJson_toJson (self : CashuWalletActivityKind) :
    fromJson self.toJson = .ok self := by
  cases self <;> rfl

end CashuWalletActivityKind

namespace CashuWalletActivityStatus

def toJson : CashuWalletActivityStatus → Json
  | .pending => .string "pending"
  | .complete => .string "complete"
  | .reclaimed => .string "reclaimed"
  | .expired => .string "expired"

def fromJson (json : Json) : Except DecodeError CashuWalletActivityStatus := do
  match ← json.asString with
  | "pending" => return .pending
  | "complete" => return .complete
  | "reclaimed" => return .reclaimed
  | "expired" => return .expired
  | other => throw (.unknownVariant other)

@[simp] theorem fromJson_toJson (self : CashuWalletActivityStatus) :
    fromJson self.toJson = .ok self := by
  cases self <;> rfl

end CashuWalletActivityStatus

namespace CashuWalletActivityEntry

def toJson (self : CashuWalletActivityEntry) : Json := .object
  (("id", .string self.id) ::
   ("kind", self.kind.toJson) ::
   ("status", self.status.toJson) ::
   ("mint_url", .string self.mintUrl) ::
   ("unit", .string self.unit) ::
   ("amount_sat", .ofU64 self.amountSat) ::
   skipNone "fee_sat" (self.feeSat.map .ofU64)
   (("created_at_unix", .ofU64 self.createdAtUnix) ::
   skipNone "expires_at_unix" (self.expiresAtUnix.map .ofU64)
   (skipNone "quote_id" (self.quoteId.map .string)
   (skipNone "operation_id" (self.operationId.map .string)
   (skipNone "payment_request" (self.paymentRequest.map .string)
   (skipNone "token" (self.token.map .string) []))))))

def fromJson (json : Json) : Except DecodeError CashuWalletActivityEntry := do
  let fields ← json.asObject
  return {
    id := ← required Json.asString fields "id"
    kind := ← required CashuWalletActivityKind.fromJson fields "kind"
    status := ← required CashuWalletActivityStatus.fromJson fields "status"
    mintUrl := ← required Json.asString fields "mint_url"
    unit := ← required Json.asString fields "unit"
    amountSat := ← required Json.asU64 fields "amount_sat"
    feeSat := ← optionalAs Json.asU64 fields "fee_sat"
    createdAtUnix := ← required Json.asU64 fields "created_at_unix"
    expiresAtUnix := ← optionalAs Json.asU64 fields "expires_at_unix"
    quoteId := ← optionalAs Json.asString fields "quote_id"
    operationId := ← optionalAs Json.asString fields "operation_id"
    paymentRequest := ← optionalAs Json.asString fields "payment_request"
    token := ← optionalAs Json.asString fields "token" }

theorem fromJson_toJson (self : CashuWalletActivityEntry) : fromJson self.toJson = .ok self := by
  have hnumber : ∀ n, Json.asU64 (Json.ofU64 n) = .ok n := fun _ => rfl
  have hstring : ∀ s, Json.asString (Json.string s) = .ok s := fun _ => rfl
  have hnumberNull : ∀ n, (Json.ofU64 n).isNull = false := fun _ => rfl
  have hstringNull : ∀ s, (Json.string s).isNull = false := fun _ => rfl
  simp [fromJson, toJson, Json.asObject, pure, Except.pure, Except.ok_bind,
    optionalAs_skipNone_self hnumber hnumberNull, optionalAs_skipNone_self hstring hstringNull,
    -Except.bind_eq_ok]

def order (left right : CashuWalletActivityEntry) : Ordering :=
  (compare right.createdAtUnix left.createdAtUnix).then (compare right.id left.id)

def key (self : CashuWalletActivityEntry) : ℕ ×ₗ String :=
  toLex (self.createdAtUnix.toNat, self.id)

theorem order_eq_gt {left right : CashuWalletActivityEntry} :
    left.order right = .gt ↔ left.key < right.key := by
  rw [order, Ordering.then_eq_gt, UInt64.compare_eq_toNat_compare_toNat, compare_gt_iff_gt,
    compare_eq_iff_eq, compare_gt_iff_gt, key, key, Prod.Lex.toLex_lt_toLex, eq_comm]

theorem key_nodup {entries : List CashuWalletActivityEntry} (h : (entries.map (·.id)).Nodup) :
    (entries.map key).Nodup := by
  have hid : (entries.map key).map (fun k => (ofLex k).2) = entries.map (·.id) := by
    rw [List.map_map]
    rfl
  exact (hid ▸ h).of_map _

end CashuWalletActivityEntry

def entriesToJson (entries : List CashuWalletActivityEntry) : Json :=
  .array (entries.map CashuWalletActivityEntry.toJson)

def entriesFromJson (json : Json) : Except DecodeError (List CashuWalletActivityEntry) := do
  (← json.asArray).mapM CashuWalletActivityEntry.fromJson

theorem entriesFromJson_toJson (entries : List CashuWalletActivityEntry) :
    entriesFromJson (entriesToJson entries) = .ok entries := by
  simp only [entriesFromJson, entriesToJson, Json.asArray, Except.ok_bind, List.mapM_map]
  have h := mapM_eq_ok_map fun (e : CashuWalletActivityEntry) (_ : e ∈ entries) =>
    e.fromJson_toJson
  rw [List.map_id'] at h
  exact h

def sortWalletActivityEntries (entries : List CashuWalletActivityEntry) :
    List CashuWalletActivityEntry :=
  let entries := entries.mergeSort fun left right => left.order right != .gt
  if kMaxWalletActivityEntries < entries.length then entries.take kMaxWalletActivityEntries
  else entries

theorem sortWalletActivityEntries_eq_newest (entries : List CashuWalletActivityEntry) :
    sortWalletActivityEntries entries =
      newest CashuWalletActivityEntry.key kMaxWalletActivityEntries entries := by
  have hclosure : (fun left right : CashuWalletActivityEntry => left.order right != .gt) =
      fun left right => decide (Descends CashuWalletActivityEntry.key left right) := by
    funext left right
    rw [Bool.eq_iff_iff, bne_iff_ne, ne_eq, CashuWalletActivityEntry.order_eq_gt, not_lt,
      decide_eq_true_iff]
    rfl
  simp only [sortWalletActivityEntries, hclosure, newest, newestFirst]
  split
  · rfl
  · rename_i h
    rw [List.take_of_length_le (Nat.le_of_not_lt h)]

structure WalletDatabase where
  activity : Option Json
  proofs : BTreeMap String ProofInfo
  keyed : BTreeMap.Each proofs fun y info => info.y = y

inductive WalletCause where
  | database (message : String)
  | json (error : DecodeError)
  | other (message : String)
  deriving DecidableEq, Repr

/-- An `anyhow::Error`: its contexts from the outermost one on, and its cause. -/
structure WalletError where
  contexts : List String
  cause : WalletCause
  deriving DecidableEq, Repr

def WalletError.context (text : String) (self : WalletError) : WalletError :=
  { self with contexts := text :: self.contexts }

abbrev WalletM := EStateM WalletError (Connection String WalletDatabase)

/-- A statement with the context of its error. -/
def walletQuery {α : Type} (text : String) (f : WalletDatabase → α × WalletDatabase) : WalletM α :=
  statement (fun message => ⟨[text], .database message⟩) fun database => .ok (f database)

def kvRead : WalletM (Option Json) :=
  walletQuery "Failed to read Cashu wallet activity" fun database => (database.activity, database)

def kvWrite (value : Json) : WalletM Unit :=
  walletQuery "Failed to write Cashu wallet activity" fun database =>
    ((), { database with activity := some value })

/-- What is stored, as a list. An absent or empty value is an empty list. -/
def WalletDatabase.storedEntries (self : WalletDatabase) :
    Except DecodeError (List CashuWalletActivityEntry) :=
  match self.activity with
  | some value => entriesFromJson value
  | none => .ok []

def parseStored (stored : Option Json) : Except WalletError (List CashuWalletActivityEntry) :=
  match stored with
  | some value => (entriesFromJson value).mapError fun e =>
      ⟨["Failed to parse Cashu wallet activity"], .json e⟩
  | none => .ok []

def loadWalletActivityEntriesFromStore : WalletM (List CashuWalletActivityEntry) := do
  let stored ← kvRead
  let entries ← attempt (parseStored stored)
  return sortWalletActivityEntries entries

/-- The list that is left to the caller is the one that was saved. -/
def saveWalletActivityEntriesToStore (entries : List CashuWalletActivityEntry) :
    WalletM (List CashuWalletActivityEntry) := do
  let entries := sortWalletActivityEntries entries
  kvWrite (entriesToJson entries)
  return entries

def appendWalletActivityEntry (entry : CashuWalletActivityEntry) : WalletM Unit := do
  let entries ← loadWalletActivityEntriesFromStore
  let _ ← saveWalletActivityEntriesToStore (entries ++ [entry])

variable {α : Type} {c : Connection String WalletDatabase}
  {entries : List CashuWalletActivityEntry}

theorem walletQuery_answers {text : String} {f : WalletDatabase → α × WalletDatabase} :
    Ends (walletQuery text f) c (fun _ c' => c.Refuses 0 ∧ c'.tables = c.tables)
      fun a c' => ¬c.Refuses 0 ∧ (a, c'.tables) = f c.tables ∧ c'.answers = c.answers.tail := by
  refine statement_answers.imp (fun _ c' h => ?_) fun a c' h => ?_
  · obtain ⟨hrefused | ⟨e, he⟩, hsame⟩ := h
    · exact ⟨hrefused, hsame⟩
    · contradiction
  · obtain ⟨hanswered, hresult, hanswers⟩ := h
    exact ⟨hanswered, (Except.ok.inj hresult).symm, hanswers⟩

theorem walletQuery_ends {text : String} {f : WalletDatabase → α × WalletDatabase} :
    Ends (walletQuery text f) c (fun _ c' => c'.tables = c.tables)
      fun a c' => (a, c'.tables) = f c.tables :=
  walletQuery_answers.imp (fun _ _ h => h.2) fun _ _ h => h.2.1

theorem walletQuery_unrefused {text : String} {f : WalletDatabase → α × WalletDatabase}
    {database : WalletDatabase} :
    Ends (walletQuery text f) ⟨database, []⟩ (fun _ _ => False)
      fun a c' => a = (f database).1 ∧ c' = ⟨(f database).2, []⟩ :=
  .of_eq_ok rfl ⟨rfl, rfl⟩

theorem parseStored_eq_ok {database : WalletDatabase} :
    parseStored database.activity = .ok entries ↔ database.storedEntries = .ok entries := by
  unfold parseStored WalletDatabase.storedEntries
  cases database.activity with
  | none => simp
  | some value => exact Except.mapError_eq_ok

def Readable (c : Connection String WalletDatabase) : Prop :=
  ¬c.Refuses 0 ∧ ∃ stored, c.tables.storedEntries = .ok stored

theorem load_answers :
    Ends loadWalletActivityEntriesFromStore c (fun _ c' => ¬Readable c ∧ c'.tables = c.tables)
      fun entries c' => ¬c.Refuses 0 ∧ c'.tables = c.tables ∧ c'.answers = c.answers.tail ∧
        ∃ stored, c.tables.storedEntries = .ok stored ∧
          entries = sortWalletActivityEntries stored := by
  refine .seq (walletQuery_answers.imp (fun _ _ h => ?_) fun _ _ h => h) fun stored c' hread => ?_
  · exact ⟨fun hreadable => hreadable.1 h.1, h.2⟩
  obtain ⟨hanswered, hresult, hanswers⟩ := hread
  have hstored : stored = c.tables.activity := congrArg Prod.fst hresult
  have hsame : c'.tables = c.tables := congrArg Prod.snd hresult
  refine .attempt_bind (fun e hparse => ⟨?_, hsame⟩) fun entries hparse => ?_
  · rintro ⟨-, entries, hentries⟩
    rw [hstored, parseStored_eq_ok.mpr hentries] at hparse
    contradiction
  · rw [hstored, parseStored_eq_ok] at hparse
    exact .pure ⟨hanswered, hsame, hanswers, entries, hparse, rfl⟩

theorem load_ends :
    Ends loadWalletActivityEntriesFromStore c (fun _ c' => c'.tables = c.tables)
      fun entries c' => c'.tables = c.tables ∧
        ∃ stored, c.tables.storedEntries = .ok stored ∧
          entries = sortWalletActivityEntries stored :=
  load_answers.imp (fun _ _ h => h.2) fun _ _ h => ⟨h.2.1, h.2.2.2⟩

theorem save_answers :
    Ends (saveWalletActivityEntriesToStore entries) c
      (fun _ c' => c.Refuses 0 ∧ c'.tables = c.tables)
      fun saved c' => ¬c.Refuses 0 ∧ saved = sortWalletActivityEntries entries ∧
        c'.tables = { c.tables with activity := some (entriesToJson saved) } := by
  refine .seq walletQuery_answers fun _ c' hwrite => ?_
  exact .pure ⟨hwrite.1, rfl, congrArg Prod.snd hwrite.2.1⟩

theorem save_ends :
    Ends (saveWalletActivityEntriesToStore entries) c (fun _ c' => c'.tables = c.tables)
      fun saved c' => saved = sortWalletActivityEntries entries ∧
        c'.tables = { c.tables with activity := some (entriesToJson saved) } :=
  save_answers.imp (fun _ _ h => h.2) fun _ _ h => h.2

def Appendable (c : Connection String WalletDatabase) : Prop := Readable c ∧ ¬c.Refuses 1

theorem append_answers (entry : CashuWalletActivityEntry) :
    Ends (appendWalletActivityEntry entry) c (fun _ c' => ¬Appendable c ∧ c'.tables = c.tables)
      fun _ c' => Appendable c ∧ ∃ stored, c.tables.storedEntries = .ok stored ∧
        c'.tables = { c.tables with activity := some (entriesToJson
          (sortWalletActivityEntries (sortWalletActivityEntries stored ++ [entry]))) } := by
  refine .seq (load_answers.imp (fun _ _ h => ⟨fun happend => h.1 happend.1, h.2⟩) fun _ _ h => h)
    fun entries c' hload => ?_
  obtain ⟨hread, hsame, hanswers, stored, hstored, rfl⟩ := hload
  have hrefuses := refuses_of_tail hanswers 0
  refine .seq (save_answers.imp (fun _ _ h => ?_) fun _ _ h => h) fun _ c'' hsave => ?_
  · exact ⟨fun happend => happend.2 (hrefuses.mp h.1), h.2.trans hsame⟩
  obtain ⟨hwritten, rfl, htables⟩ := hsave
  rw [hsame] at htables
  have happend : Appendable c :=
    ⟨⟨hread, stored, hstored⟩, fun hrefused => hwritten (hrefuses.mpr hrefused)⟩
  exact .pure ⟨happend, stored, hstored, htables⟩

theorem append_ends (entry : CashuWalletActivityEntry) :
    Ends (appendWalletActivityEntry entry) c (fun _ c' => c'.tables = c.tables)
      fun _ c' => ∃ stored, c.tables.storedEntries = .ok stored ∧
        c'.tables = { c.tables with activity := some (entriesToJson
          (sortWalletActivityEntries (sortWalletActivityEntries stored ++ [entry]))) } :=
  (append_answers entry).imp (fun _ _ h => h.2) fun _ _ h => h.2

variable {database : WalletDatabase} {stored : List CashuWalletActivityEntry}

theorem load_unrefused (h : database.storedEntries = .ok stored) :
    Ends loadWalletActivityEntriesFromStore ⟨database, []⟩ (fun _ _ => False)
      fun entries c' => entries = sortWalletActivityEntries stored ∧ c' = ⟨database, []⟩ := by
  refine .seq walletQuery_unrefused fun _ _ hread => ?_
  obtain ⟨rfl, rfl⟩ := hread
  have hparse : parseStored database.activity = .ok stored := parseStored_eq_ok.mpr h
  exact .attempt_ok_bind hparse (.pure ⟨rfl, rfl⟩)

theorem save_unrefused :
    Ends (saveWalletActivityEntriesToStore entries) ⟨database, []⟩ (fun _ _ => False)
      fun saved c' => saved = sortWalletActivityEntries entries ∧
        c' = ⟨{ database with activity := some (entriesToJson saved) }, []⟩ := by
  refine .seq walletQuery_unrefused fun _ _ hwrite => ?_
  obtain ⟨-, rfl⟩ := hwrite
  exact .pure ⟨rfl, rfl⟩

theorem append_unrefused (h : database.storedEntries = .ok stored)
    (entry : CashuWalletActivityEntry) :
    Ends (appendWalletActivityEntry entry) ⟨database, []⟩ (fun _ _ => False)
      fun _ c' => c' = ⟨{ database with
        activity := some (entriesToJson
          (sortWalletActivityEntries (sortWalletActivityEntries stored ++ [entry]))) }, []⟩ := by
  refine .seq (load_unrefused h) fun _ _ hload => ?_
  obtain ⟨rfl, rfl⟩ := hload
  refine .seq save_unrefused fun _ _ hsave => ?_
  obtain ⟨rfl, rfl⟩ := hsave
  exact .pure rfl

def appendAll (entries : List CashuWalletActivityEntry) (c : Connection String WalletDatabase) :
    List CashuWalletActivityEntry × Connection String WalletDatabase :=
  match entries with
  | [] => ([], c)
  | entry :: entries =>
    match appendWalletActivityEntry entry c with
    | .ok _ c' => (entry :: (appendAll entries c').1, (appendAll entries c').2)
    | .error _ c' => appendAll entries c'

theorem appendAll_sublist (entries : List CashuWalletActivityEntry)
    (c : Connection String WalletDatabase) : (appendAll entries c).1.Sublist entries := by
  induction entries generalizing c with
  | nil => exact List.Sublist.slnil
  | cons entry entries ih =>
    unfold appendAll
    cases appendWalletActivityEntry entry c with
    | ok _ c' => exact (ih c').cons_cons entry
    | error _ c' => exact (ih c').cons entry

/-- The list holds the newest of a history. -/
def HoldsNewest (database : WalletDatabase) (history : List CashuWalletActivityEntry) : Prop :=
  database.storedEntries =
    .ok (newest CashuWalletActivityEntry.key kMaxWalletActivityEntries history)

theorem HoldsNewest.append {history : List CashuWalletActivityEntry}
    {entry : CashuWalletActivityEntry} (h : HoldsNewest c.tables history)
    (hids : ((history ++ [entry]).map (·.id)).Nodup) :
    Ends (appendWalletActivityEntry entry) c (fun _ c' => c'.tables = c.tables)
      fun _ c' => HoldsNewest c'.tables (history ++ [entry]) := by
  refine (append_ends entry).imp (fun _ _ h => h) fun _ c' happend => ?_
  obtain ⟨stored, hstored, htables⟩ := happend
  rw [h, Except.ok.injEq] at hstored
  rw [← hstored, sortWalletActivityEntries_eq_newest, sortWalletActivityEntries_eq_newest,
    newest_newest, newest_concat (CashuWalletActivityEntry.key_nodup hids)] at htables
  rw [HoldsNewest, htables]
  exact entriesFromJson_toJson _

theorem HoldsNewest.appendAll {history : List CashuWalletActivityEntry}
    (h : HoldsNewest c.tables history)
    (hids : ((history ++ entries).map (·.id)).Nodup) :
    HoldsNewest (appendAll entries c).2.tables (history ++ (appendAll entries c).1) := by
  induction entries generalizing c history with
  | nil => simpa [CashuService.appendAll] using h
  | cons entry entries ih =>
    have hsplit : history ++ entry :: entries = (history ++ [entry]) ++ entries := by simp
    rw [hsplit] at hids
    have hnow : ((history ++ [entry]).map (·.id)).Nodup :=
      hids.sublist ((List.sublist_append_left _ _).map _)
    have hlater : ((history ++ entries).map (·.id)).Nodup :=
      hids.sublist (((List.sublist_append_left history [entry]).append_right entries).map _)
    have hstep := h.append hnow
    unfold CashuService.appendAll
    cases happend : appendWalletActivityEntry entry c with
    | ok _ c' =>
      have hrest := ih (hstep.of_ok happend) hids
      rwa [List.append_assoc] at hrest
    | error _ c' =>
      have hsame := hstep.of_error happend
      exact ih (hsame ▸ h) hlater

theorem appendAll_eq_self (h : database.storedEntries = .ok stored)
    (entries : List CashuWalletActivityEntry) : (appendAll entries ⟨database, []⟩).1 = entries := by
  induction entries generalizing database stored with
  | nil => rfl
  | cons entry entries ih =>
    obtain ⟨_, c', happend, rfl⟩ := (append_unrefused h entry).exists_ok
    unfold appendAll
    rw [happend]
    have hstored := entriesFromJson_toJson
      (sortWalletActivityEntries (sortWalletActivityEntries stored ++ [entry]))
    exact congrArg (entry :: ·) (ih hstored)

/-- Whatever order entries arrive in, the list holds the 200 newest of them. -/
theorem appendAll_keeps_newest (entries : List CashuWalletActivityEntry)
    (hids : (entries.map (·.id)).Nodup) (c : Connection String WalletDatabase)
    (hempty : c.tables.activity = none) :
    ∃ stored, (appendAll entries c).2.tables.storedEntries = .ok stored ∧
      Greatest CashuWalletActivityEntry.key 200 (appendAll entries c).1 stored ∧
      (∀ answers loaded c', loadWalletActivityEntriesFromStore
        ⟨(appendAll entries c).2.tables, answers⟩ = .ok loaded c' → loaded = stored) ∧
      (c.answers = [] → (appendAll entries c).1 = entries) ∧
      ∀ entries' c', (entries'.map (·.id)).Nodup → c'.tables.activity = none →
        (appendAll entries' c').1.Perm (appendAll entries c).1 →
        (appendAll entries' c').2.tables.storedEntries = .ok stored := by
  have hholds : ∀ entries c, (entries.map (·.id)).Nodup → c.tables.activity = none →
      HoldsNewest (appendAll entries c).2.tables (appendAll entries c).1 := by
    intro entries c hids hempty
    have hnone : HoldsNewest c.tables [] := by
      simp [HoldsNewest, WalletDatabase.storedEntries, hempty, newest, newestFirst]
    have hall := hnone.appendAll (by simpa using hids)
    simpa using hall
  have hkeys : ((appendAll entries c).1.map CashuWalletActivityEntry.key).Nodup :=
    CashuWalletActivityEntry.key_nodup
      (hids.sublist ((appendAll_sublist entries c).map _))
  refine ⟨_, hholds entries c hids hempty, newest_greatest hkeys, ?_, ?_, ?_⟩
  · intro answers loaded c' hload
    obtain ⟨-, stored, hstored, rfl⟩ := load_ends.of_ok hload
    rw [hholds entries c hids hempty, Except.ok.injEq] at hstored
    rw [← hstored, sortWalletActivityEntries_eq_newest, newest_newest]
  · intro hanswers
    obtain ⟨database, answers⟩ := c
    subst hanswers
    have hstored : database.storedEntries = .ok [] := by
      simp [WalletDatabase.storedEntries, show database.activity = none from hempty]
    exact appendAll_eq_self hstored entries
  · intro entries' c' hids' hempty' hperm
    rw [hholds entries' c' hids' hempty', newest_perm _ hperm]
    exact (hperm.map _).nodup_iff.mpr hkeys

def WalletDatabase.fresh : WalletDatabase where
  activity := none
  proofs := ∅
  keyed := fun y info h => by simp at h

/-- An entry of the activity, of which only the id and the time matter to the order. -/
def sampleEntry (id : String) (createdAtUnix : UInt64) : CashuWalletActivityEntry :=
  ⟨id, .topUp, .pending, "https://mint.example", "sat", 5, none, createdAtUnix, none, none, none,
    none, none⟩

/-- One entry more than is kept, each older than the one before. -/
def sampleEntries : List CashuWalletActivityEntry :=
  (List.range 201).map fun i =>
    sampleEntry (String.ofList (List.replicate i 'a')) (.ofNat (300 - i))

theorem sampleEntries_nodup : (sampleEntries.map (·.id)).Nodup := by
  rw [sampleEntries, List.map_map]
  refine List.nodup_range.map fun i j h => ?_
  have hlength := congrArg List.length (String.ofList_injective h)
  rwa [List.length_replicate, List.length_replicate] at hlength

theorem appendAll_keeps_newest_sample :
    ∃ stored, (appendAll sampleEntries ⟨.fresh, []⟩).2.tables.storedEntries = .ok stored ∧
      Greatest CashuWalletActivityEntry.key 200 sampleEntries stored ∧ stored.length = 200 ∧
      (∀ answers loaded c', loadWalletActivityEntriesFromStore
        ⟨(appendAll sampleEntries ⟨.fresh, []⟩).2.tables, answers⟩ = .ok loaded c' →
          loaded = stored) ∧
      (appendAll sampleEntries.reverse ⟨.fresh, []⟩).2.tables.storedEntries = .ok stored := by
  have hreverse : (sampleEntries.reverse.map (·.id)).Nodup := by
    rw [List.map_reverse, List.nodup_reverse]
    exact sampleEntries_nodup
  obtain ⟨stored, hstored, hgreatest, hloaded, hall, horder⟩ :=
    appendAll_keeps_newest sampleEntries sampleEntries_nodup ⟨.fresh, []⟩ rfl
  obtain ⟨-, -, -, -, hallReverse, -⟩ :=
    appendAll_keeps_newest sampleEntries.reverse hreverse ⟨.fresh, []⟩ rfl
  rw [hall rfl] at hgreatest horder
  refine ⟨stored, hstored, hgreatest, ?_, hloaded, horder _ _ hreverse rfl ?_⟩
  · rw [hgreatest.length, sampleEntries, List.length_map, List.length_range]
    rfl
  · rw [hallReverse rfl]
    exact List.reverse_perm sampleEntries

end CashuService
