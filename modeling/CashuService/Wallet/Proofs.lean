import CashuService.Base.Rounding
import CashuService.Wallet.Activity
import CashuService.Wallet.CashuSettlement
set_option autoImplicit false

namespace CashuService

/-! `wallet.rs`: the import of proofs that a closed channel has left to the wallet. -/

structure CashuReceivedPayment where
  mintUrl : String
  unit : String
  amountSat : UInt64
  deriving DecidableEq, Repr

/-- What the code uses of other crates: `url`, `MintUrl::from_str`, `serde_json` at the type of a
list of proofs, the point of a proof, and the query for points of the wallet's database. -/
structure ProofCrates where
  url : UrlCrate
  mintUrlFromStr : String → Except Anyhow String
  parseProofs : String → Except Anyhow (List Proof)
  y : Proof → Except Anyhow String
  getProofsByYs : List String → BTreeMap String ProofInfo → Except String (List ProofInfo)

/-- The query finds the proofs of the points it is given. It may refuse to be given none. -/
structure ProofCrates.Faithful (crates : ProofCrates) : Prop where
  finds : ∀ (ys : List String) (stored : BTreeMap String ProofInfo), ys ≠ [] →
    ∃ infos, crates.getProofsByYs ys stored = .ok infos
  found : ∀ {ys : List String} {stored : BTreeMap String ProofInfo} {infos : List ProofInfo},
    crates.getProofsByYs ys stored = .ok infos →
    ∀ info, info ∈ infos ↔ ∃ y ∈ ys, stored[y]? = some info

/-- What one call finds: whether there is a wallet of the mint, what the recovery of sagas does to
the database, and the id and the time of a new activity. -/
structure ImportWorld where
  ensureSatWallet : Except WalletError Unit
  recovered : WalletDatabase → WalletDatabase
  recoveryError : Option WalletError
  activityId : String
  activityNowUnix : UInt64

/-- The error that `anyhow` has for a chain of messages. -/
def WalletError.ofChain (chain : Anyhow) : WalletError :=
  ⟨chain.dropLast, .other (chain.getLastD "")⟩

def recoverIncompleteSagas (world : ImportWorld) : WalletM Unit := do
  modify fun c => { c with tables := world.recovered c.tables }
  match world.recoveryError with
  | some e => throw (e.context "Failed to recover Cashu wallet state before importing proofs")
  | none => return ()

def ProofInfo.new (crates : ProofCrates) (mintUrl : String) (proof : Proof) :
    Except WalletError ProofInfo :=
  match crates.y proof with
  | .ok y => .ok { proof, y, mintUrl, state := .unspent, unit := .sat }
  | .error chain => .error ((WalletError.ofChain chain).context "Failed to prepare Cashu proof import")

def getProofsByYs (crates : ProofCrates) (ys : List String) : WalletM (List ProofInfo) :=
  statement (fun message => ⟨["Failed to check existing Cashu proofs"], .database message⟩)
    fun database =>
      match crates.getProofsByYs ys database.proofs with
      | .ok infos => .ok (infos, database)
      | .error message => .error ⟨["Failed to check existing Cashu proofs"], .database message⟩

def WalletDatabase.updateProofs (added : List ProofInfo) (self : WalletDatabase) :
    WalletDatabase where
  activity := self.activity
  proofs := BTreeMap.insertAll ProofInfo.y added self.proofs
  keyed := self.keyed.insertAll fun _ _ => rfl

def updateProofs (added : List ProofInfo) : WalletM Unit :=
  walletQuery "Failed to import Cashu proofs into wallet" fun database =>
    ((), database.updateProofs added)

def collectEntry (world : ImportWorld) (mintUrl : String) (amountSat : UInt64) :
    CashuWalletActivityEntry where
  id := world.activityId
  kind := .channelCollect
  status := .complete
  mintUrl := mintUrl
  unit := CurrencyUnit.sat.toString
  amountSat := amountSat
  feeSat := none
  createdAtUnix := world.activityNowUnix
  expiresAtUnix := none
  quoteId := none
  operationId := none
  paymentRequest := none
  token := none

def importNewProofs (world : ImportWorld) (mintUrl : String) (proofInfos : List ProofInfo)
    (importedAmountSat : UInt64) : WalletM Unit := do
  if proofInfos = [] then return ()
  else
    updateProofs proofInfos
    mapErr (·.context "Failed to record Cashu channel collection activity")
      (appendWalletActivityEntry (collectEntry world mintUrl importedAmountSat))

def importPaymentProofs (crates : ProofCrates) (world : ImportWorld)
    (mintUrl unit proofsJson : String) : WalletM CashuReceivedPayment := do
  let unit := trim unit
  attempt (rejectIf (unit ≠ CurrencyUnit.sat.toString)
    ⟨[], .other s!"Unsupported Cashu proof unit: {unit}"⟩)
  let normalizedMint ← attempt ((normalizeMintUrl crates.url mintUrl).mapError .ofChain)
  let mintUrl ← attempt ((withContext "Failed to parse normalized mint URL"
    (crates.mintUrlFromStr normalizedMint)).mapError .ofChain)
  let proofs ← attempt ((withContext "Failed to parse Cashu payment proofs"
    (crates.parseProofs proofsJson)).mapError .ofChain)
  attempt world.ensureSatWallet
  recoverIncompleteSagas world
  let proofInfos ← attempt (proofs.mapM (ProofInfo.new crates mintUrl))
  let existing ← getProofsByYs crates (proofInfos.map (·.y))
  let existingYs := existing.map (·.y)
  let proofInfos := proofInfos.filter fun proof => proof.y ∉ existingYs
  let importedAmountSat := proofInfos.foldl
    (fun sum proof => sum.saturatingAdd proof.proof.amount) 0
  importNewProofs world normalizedMint proofInfos importedAmountSat
  return {
    mintUrl := normalizedMint
    unit := CurrencyUnit.sat.toString
    amountSat := importedAmountSat }

def WalletDatabase.newProofs (self : WalletDatabase) (proofInfos : List ProofInfo) :
    List ProofInfo :=
  proofInfos.filter fun proof => proof.y ∉ self.proofs

def totalAmount (proofInfos : List ProofInfo) : Nat :=
  (proofInfos.map fun proof => proof.proof.amount.toNat).sum

/-- The total amount held in the store. -/
def WalletDatabase.held (self : WalletDatabase) : Nat :=
  BTreeMap.sumOf (fun info : ProofInfo => info.proof.amount.toNat) self.proofs

variable {crates : ProofCrates} {world : ImportWorld} {mintUrl unit proofsJson : String}
  {c c' : Connection String WalletDatabase} {proofInfos : List ProofInfo}

theorem foldl_saturatingAdd (sum : UInt64)
    (h : sum.toNat + totalAmount proofInfos < 2 ^ 64) :
    (proofInfos.foldl (fun sum proof => sum.saturatingAdd proof.proof.amount) sum).toNat =
      sum.toNat + totalAmount proofInfos := by
  induction proofInfos generalizing sum with
  | nil => rfl
  | cons proof proofInfos ih =>
    simp only [totalAmount, List.map_cons, List.sum_cons] at h ih ⊢
    have hsum := UInt64.toNat_saturatingAdd sum proof.proof.amount
    rw [List.foldl_cons, ih _ (by omega)]
    omega

theorem filter_existing (hcrates : crates.Faithful) {database : WalletDatabase}
    {existing : List ProofInfo}
    (h : crates.getProofsByYs (proofInfos.map (·.y)) database.proofs = .ok existing) :
    (proofInfos.filter fun proof => proof.y ∉ existing.map (·.y)) =
      database.newProofs proofInfos := by
  refine List.filter_congr fun proof hproof => ?_
  rw [decide_eq_decide, not_iff_not, List.mem_map]
  constructor
  · rintro ⟨info, hinfo, hy⟩
    obtain ⟨y, -, hstored⟩ := (hcrates.found h info).mp hinfo
    rw [← hy, database.keyed y info hstored]
    exact BTreeMap.mem_of_getElem? hstored
  · intro hmem
    obtain ⟨info, hstored⟩ := BTreeMap.mem_iff_exists.mp hmem
    refine ⟨info, (hcrates.found h info).mpr ⟨proof.y, ?_, hstored⟩, database.keyed _ _ hstored⟩
    exact List.mem_map_of_mem hproof

/-- What an import that returns has done to the database that the recovery left. -/
structure Imports (world : ImportWorld) (before after : WalletDatabase)
    (proofInfos : List ProofInfo) (payment : CashuReceivedPayment) : Prop where
  unit : payment.unit = CurrencyUnit.sat.toString
  amount : payment.amountSat =
    (before.newProofs proofInfos).foldl (fun sum proof => sum.saturatingAdd proof.proof.amount) 0
  proofs : after.proofs = BTreeMap.insertAll ProofInfo.y (before.newProofs proofInfos) before.proofs
  nothing : before.newProofs proofInfos = [] → after = before
  recorded : before.newProofs proofInfos ≠ [] → ∃ stored,
    before.storedEntries = .ok stored ∧ after.storedEntries = .ok (sortWalletActivityEntries
      (sortWalletActivityEntries stored ++
        [collectEntry world payment.mintUrl payment.amountSat]))

structure ImportAccepted (crates : ProofCrates) (mintUrl unit proofsJson normalizedMint : String)
    (proofInfos : List ProofInfo) : Prop where
  unit : trim unit = CurrencyUnit.sat.toString
  normalized : normalizeMintUrl crates.url mintUrl = .ok normalizedMint
  prepared : ∃ mint proofs, crates.mintUrlFromStr normalizedMint = .ok mint ∧
    crates.parseProofs proofsJson = .ok proofs ∧
    proofs.mapM (ProofInfo.new crates mint) = .ok proofInfos

theorem ImportAccepted.infos {normalizedMint mint : String} {proofs : List Proof}
    {other : String} (h : ImportAccepted crates mintUrl unit proofsJson other proofInfos)
    (hnormalized : normalizeMintUrl crates.url mintUrl = .ok normalizedMint)
    (hmint : crates.mintUrlFromStr normalizedMint = .ok mint)
    (hproofs : crates.parseProofs proofsJson = .ok proofs) :
    proofs.mapM (ProofInfo.new crates mint) = .ok proofInfos := by
  obtain ⟨mint', proofs', hmint', hproofs', hinfos⟩ := h.prepared
  obtain rfl := Except.ok.inj (hnormalized.symm.trans h.normalized)
  obtain rfl := Except.ok.inj (hmint'.symm.trans hmint)
  obtain rfl := Except.ok.inj (hproofs'.symm.trans hproofs)
  exact hinfos

theorem ImportAccepted.unique {first second : String} {other : List ProofInfo}
    (h : ImportAccepted crates mintUrl unit proofsJson first proofInfos)
    (h' : ImportAccepted crates mintUrl unit proofsJson second other) : other = proofInfos := by
  obtain ⟨mint, proofs, hmint, hproofs, hinfos⟩ := h.prepared
  exact Except.ok.inj ((h'.infos h.normalized hmint hproofs).symm.trans hinfos)

/-- What the surroundings answer in a call that returns: there is a wallet of the mint and its
recovery succeeds, the points can be looked up, and no statement is refused. -/
structure ImportAnswered (crates : ProofCrates) (world : ImportWorld)
    (c : Connection String WalletDatabase) (proofInfos : List ProofInfo) : Prop where
  wallet : world.ensureSatWallet = .ok ()
  recovery : world.recoveryError = none
  lookup : ∃ existing, crates.getProofsByYs (proofInfos.map (·.y))
    (world.recovered c.tables).proofs = .ok existing
  looked : ¬c.Refuses 0
  inserted : (world.recovered c.tables).newProofs proofInfos ≠ [] → ¬c.Refuses 1
  recorded : (world.recovered c.tables).newProofs proofInfos ≠ [] → ¬c.Refuses 2 ∧
    (∃ stored, (world.recovered c.tables).storedEntries = .ok stored) ∧ ¬c.Refuses 3

structure ImportInserts (world : ImportWorld) (c : Connection String WalletDatabase)
    (proofInfos : List ProofInfo) : Prop where
  wallet : world.ensureSatWallet = .ok ()
  recovery : world.recoveryError = none
  looked : ¬c.Refuses 0
  new : (world.recovered c.tables).newProofs proofInfos ≠ []
  inserted : ¬c.Refuses 1

/-- A call that fails. What it has inserted stays in the store, and is not recorded. -/
structure ImportFails (crates : ProofCrates) (world : ImportWorld)
    (c : Connection String WalletDatabase) (proofInfos : List ProofInfo)
    (c' : Connection String WalletDatabase) : Prop where
  unanswered : ¬ImportAnswered crates world c proofInfos
  inserted : ImportInserts world c proofInfos → c'.tables =
    (world.recovered c.tables).updateProofs ((world.recovered c.tables).newProofs proofInfos)
  untouched : ¬ImportInserts world c proofInfos →
    c'.tables = world.recovered c.tables ∨ c'.tables = c.tables

theorem ImportFails.of_not_inserts (hno : ¬ImportInserts world c proofInfos)
    (hunanswered : ¬ImportAnswered crates world c proofInfos)
    (hsame : c'.tables = world.recovered c.tables ∨ c'.tables = c.tables) :
    ImportFails crates world c proofInfos c' :=
  ⟨hunanswered, fun h => absurd h hno, fun _ => hsame⟩

theorem recoverIncompleteSagas_ends :
    Ends (recoverIncompleteSagas world) c
      (fun _ c' => world.recoveryError ≠ none ∧ c'.tables = world.recovered c.tables)
      fun _ c' => world.recoveryError = none ∧ c' = ⟨world.recovered c.tables, c.answers⟩ := by
  refine .modify_bind ?_
  cases world.recoveryError with
  | some e => exact .throw ⟨nofun, rfl⟩
  | none => exact .pure ⟨rfl, rfl⟩

theorem getProofsByYs_ends {ys : List String} :
    Ends (getProofsByYs crates ys) c
      (fun _ c' => (c.Refuses 0 ∨ ∀ infos, crates.getProofsByYs ys c.tables.proofs ≠ .ok infos) ∧
        c'.tables = c.tables)
      fun infos c' => ¬c.Refuses 0 ∧ crates.getProofsByYs ys c.tables.proofs = .ok infos ∧
        c' = ⟨c.tables, c.answers.tail⟩ := by
  refine statement_answers.imp (fun _ c' h => ?_) fun infos c' h => ?_
  · obtain ⟨hrefused | ⟨e, he⟩, hsame⟩ := h
    · exact ⟨.inl hrefused, hsame⟩
    · refine ⟨.inr fun infos hinfos => ?_, hsame⟩
      rw [hinfos] at he
      contradiction
  · obtain ⟨hlooked, hresult, hanswers⟩ := h
    cases hfound : crates.getProofsByYs ys c.tables.proofs with
    | ok existing =>
      simp only [hfound, Except.ok.injEq, Prod.mk.injEq] at hresult
      obtain ⟨rfl, htables⟩ := hresult
      exact ⟨hlooked, rfl, by rw [htables, ← hanswers]⟩
    | error message =>
      rw [hfound] at hresult
      contradiction

theorem importNewProofs_ends {amountSat : UInt64} :
    Ends (importNewProofs world mintUrl proofInfos amountSat) c
      (fun _ c' => proofInfos ≠ [] ∧ ((c.Refuses 0 ∧ c'.tables = c.tables) ∨
        ¬c.Refuses 0 ∧
          ¬(¬c.Refuses 1 ∧ (∃ stored, c.tables.storedEntries = .ok stored) ∧ ¬c.Refuses 2) ∧
          c'.tables = c.tables.updateProofs proofInfos))
      fun _ c' => (proofInfos = [] ∧ c'.tables = c.tables) ∨
        proofInfos ≠ [] ∧ ¬c.Refuses 0 ∧ ¬c.Refuses 1 ∧ ¬c.Refuses 2 ∧
          ∃ stored, c.tables.storedEntries = .ok stored ∧
            c'.tables.proofs = BTreeMap.insertAll ProofInfo.y proofInfos c.tables.proofs ∧
            c'.tables.storedEntries = .ok (sortWalletActivityEntries
              (sortWalletActivityEntries stored ++ [collectEntry world mintUrl amountSat])) := by
  unfold importNewProofs
  refine .ite (fun hnone => .pure (.inl ⟨hnone, rfl⟩)) fun hnew => ?_
  refine .seq (walletQuery_answers.imp (fun _ _ h => ⟨hnew, .inl h⟩) fun _ _ h => h)
    fun _ c₁ hupdate => ?_
  obtain ⟨hinserted, hresult, hanswers⟩ := hupdate
  have htables : c₁.tables = c.tables.updateProofs proofInfos := congrArg Prod.snd hresult
  have hentries : c₁.tables.storedEntries = c.tables.storedEntries := by
    rw [htables]
    rfl
  have happendable : Appendable c₁ ↔
      ¬c.Refuses 1 ∧ (∃ stored, c.tables.storedEntries = .ok stored) ∧ ¬c.Refuses 2 := by
    rw [Appendable, Readable, refuses_of_tail hanswers, refuses_of_tail hanswers, hentries,
      and_assoc]
  refine .mapErr ((append_answers _).imp (fun _ c₂ h => ?_) fun _ c₂ h => ?_)
  · exact ⟨hnew, .inr ⟨hinserted, happendable.not.mp h.1, h.2.trans htables⟩⟩
  · obtain ⟨happend, stored, hstored, hafter⟩ := h
    obtain ⟨hread, -, hwritten⟩ := happendable.mp happend
    refine .inr ⟨hnew, hinserted, hread, hwritten, stored, hentries ▸ hstored, ?_, ?_⟩
    · rw [hafter, htables]
      rfl
    · rw [hafter]
      exact entriesFromJson_toJson _

theorem ImportFails.of_lookup (hcrates : crates.Faithful)
    (h : c.Refuses 0 ∨ ∀ infos, crates.getProofsByYs (proofInfos.map (·.y))
      (world.recovered c.tables).proofs ≠ .ok infos)
    (hsame : c'.tables = world.recovered c.tables) :
    ImportFails crates world c proofInfos c' := by
  refine .of_not_inserts (fun hinserts => ?_) (fun hanswered => ?_) (.inl hsame)
  · have hne : proofInfos.map (·.y) ≠ [] := by
      intro hnil
      rw [List.map_eq_nil_iff] at hnil
      exact hinserts.new (by rw [hnil]; rfl)
    obtain ⟨existing, hexisting⟩ := hcrates.finds _ (world.recovered c.tables).proofs hne
    exact h.elim hinserts.looked fun hnot => hnot existing hexisting
  · obtain ⟨existing, hexisting⟩ := hanswered.lookup
    exact h.elim hanswered.looked fun hnot => hnot existing hexisting

/-- The last stage of a call that has looked up its points. -/
theorem importNewProofs_answers {normalizedMint : String} {existing : List ProofInfo}
    {amountSat : UInt64} (hwallet : world.ensureSatWallet = .ok ())
    (hrecovery : world.recoveryError = none) (hlooked : ¬c.Refuses 0)
    (hexisting : crates.getProofsByYs (proofInfos.map (·.y)) (world.recovered c.tables).proofs =
      .ok existing)
    (hamount : amountSat = ((world.recovered c.tables).newProofs proofInfos).foldl
      (fun sum proof => sum.saturatingAdd proof.proof.amount) 0) :
    Ends (importNewProofs world normalizedMint ((world.recovered c.tables).newProofs proofInfos)
        amountSat) ⟨world.recovered c.tables, c.answers.tail⟩
      (fun _ c' => ImportFails crates world c proofInfos c')
      fun _ c' => ImportAnswered crates world c proofInfos ∧
        Imports world (world.recovered c.tables) c'.tables proofInfos
          ⟨normalizedMint, CurrencyUnit.sat.toString, amountSat⟩ := by
  have hnext : ∀ n, Connection.Refuses
      ⟨world.recovered c.tables, c.answers.tail⟩ n ↔ c.Refuses (n + 1) :=
    fun n => refuses_of_tail rfl n
  refine importNewProofs_ends.imp (fun _ c' h => ?_) fun _ c' h => ?_
  · simp only [hnext] at h
    obtain ⟨hnew, ⟨hrefused, hsame⟩ | ⟨hinserted, hunrecorded, hupdated⟩⟩ := h
    · exact .of_not_inserts (fun hinserts => hinserts.inserted hrefused)
        (fun hanswered => hanswered.inserted hnew hrefused) (.inl hsame)
    · refine ⟨fun hanswered => hunrecorded (hanswered.recorded hnew), fun _ => hupdated, ?_⟩
      intro hno
      exact absurd ⟨hwallet, hrecovery, hlooked, hnew, hinserted⟩ hno
  · simp only [hnext] at h
    obtain ⟨hnone, hafter⟩ | ⟨hnew, hinserted, hread, hwritten, stored, hstored, hinsert, hlog⟩ := h
    · refine ⟨⟨hwallet, hrecovery, ⟨existing, hexisting⟩, hlooked, fun hnew => absurd hnone hnew,
        fun hnew => absurd hnone hnew⟩, ?_⟩
      exact
        { unit := rfl
          amount := hamount
          proofs := by rw [hnone, hafter]; rfl
          nothing := fun _ => hafter
          recorded := fun hnew => absurd hnone hnew }
    · refine ⟨⟨hwallet, hrecovery, ⟨existing, hexisting⟩, hlooked, fun _ => hinserted,
        fun _ => ⟨hread, ⟨stored, hstored⟩, hwritten⟩⟩, ?_⟩
      exact
        { unit := rfl
          amount := hamount
          proofs := hinsert
          nothing := fun hnone => absurd hnone hnew
          recorded := fun _ => ⟨stored, hstored, hlog⟩ }

theorem importPaymentProofs_answers (hcrates : crates.Faithful) :
    Ends (importPaymentProofs crates world mintUrl unit proofsJson) c
      (fun _ c' => ∀ normalizedMint proofInfos,
        ImportAccepted crates mintUrl unit proofsJson normalizedMint proofInfos →
          ImportFails crates world c proofInfos c')
      fun payment c' => ∃ proofInfos,
        ImportAccepted crates mintUrl unit proofsJson payment.mintUrl proofInfos ∧
        ImportAnswered crates world c proofInfos ∧
        Imports world (world.recovered c.tables) c'.tables proofInfos payment := by
  -- a call that fails before it has all of its proofs is given nothing that is accepted
  refine .attempt_bind (fun _ hunit _ _ haccepted => ?_) fun _ hunit => ?_
  · exact absurd haccepted.unit (rejectIf_eq_error.mp hunit).1
  refine .attempt_bind (fun e hnormalized _ _ haccepted => ?_) fun normalizedMint hnormalized => ?_
  · rw [haccepted.normalized] at hnormalized
    contradiction
  rw [Except.mapError_eq_ok] at hnormalized
  refine .attempt_bind (fun e hmint other _ haccepted => ?_) fun mint hmint => ?_
  · obtain rfl := Except.ok.inj (hnormalized.symm.trans haccepted.normalized)
    obtain ⟨mint, _, hparsed, -⟩ := haccepted.prepared
    rw [hparsed] at hmint
    contradiction
  rw [Except.mapError_eq_ok, withContext, Except.mapError_eq_ok] at hmint
  refine .attempt_bind (fun e hproofs _ _ haccepted => ?_) fun proofs hproofs => ?_
  · obtain ⟨_, proofs, -, hparsed, -⟩ := haccepted.prepared
    rw [hparsed] at hproofs
    contradiction
  rw [Except.mapError_eq_ok, withContext, Except.mapError_eq_ok] at hproofs
  refine .attempt_bind (fun e hwallet _ _ _ => ?_) fun _ hwallet => ?_
  · refine .of_not_inserts (fun h => ?_) (fun h => ?_) (.inr rfl)
    all_goals
      rw [h.wallet] at hwallet
      contradiction
  refine .seq (recoverIncompleteSagas_ends.imp (fun _ c₁ h _ _ _ => ?_) fun _ _ h => h)
    fun _ c₁ h₁ => ?_
  · exact .of_not_inserts (fun hinserts => h.1 hinserts.recovery)
      (fun hanswered => h.1 hanswered.recovery) (.inl h.2)
  obtain ⟨hrecovery, rfl⟩ := h₁
  refine .attempt_bind (fun e hinfos _ _ haccepted => ?_) fun proofInfos hinfos => ?_
  · rw [haccepted.infos hnormalized hmint hproofs] at hinfos
    contradiction
  have hsame : ∀ {other infos},
      ImportAccepted crates mintUrl unit proofsJson other infos → infos = proofInfos :=
    fun h => Except.ok.inj ((h.infos hnormalized hmint hproofs).symm.trans hinfos)
  have haccepted : ImportAccepted crates mintUrl unit proofsJson normalizedMint proofInfos :=
    { unit := by simpa using hunit
      normalized := hnormalized
      prepared := ⟨mint, proofs, hmint, hproofs, hinfos⟩ }
  refine .seq (getProofsByYs_ends.imp (fun _ c₂ h _ infos hinfos => ?_) fun _ _ h => h)
    fun existing c₂ h₂ => ?_
  · exact hsame hinfos ▸ .of_lookup hcrates h.1 h.2
  obtain ⟨hlooked, hexisting, rfl⟩ := h₂
  dsimp only
  rw [filter_existing hcrates hexisting]
  have himport := @importNewProofs_answers crates world c proofInfos normalizedMint existing _
    hwallet hrecovery hlooked hexisting rfl
  refine .seq (himport.imp (fun _ c₃ h _ infos hinfos => ?_) fun _ _ h => h) fun _ c₃ h => .pure ?_
  · exact hsame hinfos ▸ h
  · exact ⟨proofInfos, haccepted, h⟩

theorem importPaymentProofs_ends (hcrates : crates.Faithful) :
    Ends (importPaymentProofs crates world mintUrl unit proofsJson) c (fun _ _ => True)
      fun payment c' => ∃ proofInfos,
        ImportAccepted crates mintUrl unit proofsJson payment.mintUrl proofInfos ∧
        Imports world (world.recovered c.tables) c'.tables proofInfos payment := by
  refine (importPaymentProofs_answers hcrates).imp (fun _ _ _ => trivial) fun payment c' h => ?_
  obtain ⟨proofInfos, haccepted, -, himports⟩ := h
  exact ⟨proofInfos, haccepted, himports⟩

theorem ImportAnswered.returns {normalizedMint : String} (hcrates : crates.Faithful)
    (haccepted : ImportAccepted crates mintUrl unit proofsJson normalizedMint proofInfos)
    (h : ImportAnswered crates world c proofInfos) :
    ∃ payment c', importPaymentProofs crates world mintUrl unit proofsJson c = .ok payment c' ∧
      payment.mintUrl = normalizedMint ∧
      Imports world (world.recovered c.tables) c'.tables proofInfos payment := by
  have hends := @importPaymentProofs_answers crates world mintUrl unit proofsJson c hcrates
  cases hrun : importPaymentProofs crates world mintUrl unit proofsJson c with
  | ok payment c' =>
    obtain ⟨infos, haccepted', -, himports⟩ := hends.of_ok hrun
    obtain rfl := haccepted'.unique haccepted
    have hmint := Except.ok.inj (haccepted'.normalized.symm.trans haccepted.normalized)
    exact ⟨payment, c', rfl, hmint, himports⟩
  | error e c' => exact absurd h (hends.of_error hrun _ _ haccepted).unanswered

variable {before after : WalletDatabase} {payment : CashuReceivedPayment}

theorem newProofs_absent : ∀ proof ∈ before.newProofs proofInfos,
    before.proofs[proof.y]? = none := by
  intro proof hproof
  have hnew := (List.mem_filter.mp hproof).2
  simpa using hnew

theorem totalAmount_newProofs_le : totalAmount (before.newProofs proofInfos)
    ≤ totalAmount proofInfos :=
  (List.filter_sublist.map _).sum_le_sum fun _ _ => Nat.zero_le _

theorem Imports.amount_eq (h : Imports world before after proofInfos payment)
    (hfits : totalAmount proofInfos < 2 ^ 64) :
    payment.amountSat.toNat = totalAmount (before.newProofs proofInfos) := by
  have hzero : (0 : UInt64).toNat = 0 := rfl
  have hle := @totalAmount_newProofs_le proofInfos before
  rw [h.amount, foldl_saturatingAdd _ (by omega), hzero, Nat.zero_add]

theorem Imports.known (h : Imports world before after proofInfos payment) :
    after.newProofs proofInfos = [] := by
  rw [WalletDatabase.newProofs, List.filter_eq_nil_iff]
  intro proof hproof
  have hmem : proof.y ∈ after.proofs := by
    rw [h.proofs]
    apply BTreeMap.mem_insertAll
    by_cases hold : proof.y ∈ before.proofs
    · exact Or.inl hold
    · exact Or.inr ⟨proof, List.mem_filter.mpr ⟨hproof, by simpa using hold⟩, rfl⟩
  simpa using hmem

theorem Imports.unchanged (h : Imports world before after proofInfos payment)
    (hsame : after.proofs = before.proofs) : after = before := by
  apply h.nothing
  have hknown := h.known
  rwa [WalletDatabase.newProofs, hsame] at hknown

/-- A proof that is new to the store, and whose point comes again later in the list, is worth
nothing. -/
def RepeatsWorthless (before : WalletDatabase) (proofInfos : List ProofInfo) : Prop :=
  proofInfos.Pairwise fun first later =>
    first.y = later.y → first.y ∉ before.proofs → first.proof.amount = 0

theorem overwritten_newProofs :
    BTreeMap.overwritten ProofInfo.y (fun info => info.proof.amount.toNat)
      (before.newProofs proofInfos) before.proofs = 0 ↔ RepeatsWorthless before proofInfos := by
  have habsent : ∀ proof ∈ before.newProofs proofInfos, ∀ info : ProofInfo,
      before.proofs[proof.y]? = some info → info.proof.amount.toNat = 0 := by
    intro proof hproof info hinfo
    rw [newProofs_absent proof hproof] at hinfo
    contradiction
  rw [BTreeMap.overwritten_eq_zero, and_iff_right habsent, WalletDatabase.newProofs,
    List.pairwise_filter, RepeatsWorthless]
  refine iff_of_eq (congrArg (List.Pairwise · proofInfos) ?_)
  funext first later
  rw [← UInt64.toNat_inj, eq_iff_iff]
  simp only [decide_eq_true_iff]
  constructor
  · intro h hy hnew
    exact h hnew (hy ▸ hnew) hy
  · intro h hnew _ hy
    exact h hy hnew

/-- What is reported is what was added, it is recorded if and only if something was, nothing that
was there is touched, and the same call does nothing more. -/
structure ImportedExactly (crates : ProofCrates) (world : ImportWorld)
    (mintUrl unit proofsJson : String) (before after : WalletDatabase)
    (payment : CashuReceivedPayment) : Prop where
  amount : after.held = before.held + payment.amountSat.toNat
  recorded : after.proofs ≠ before.proofs → ∃ stored, before.storedEntries = .ok stored ∧
    after.storedEntries = .ok (sortWalletActivityEntries (sortWalletActivityEntries stored ++
      [collectEntry world payment.mintUrl payment.amountSat]))
  unrecorded : after.proofs = before.proofs → after.activity = before.activity
  untouched : BTreeMap.Extends after.proofs before.proofs
  again : ∀ (world' : ImportWorld) (answers : List (Option String)),
    world'.ensureSatWallet = .ok () → world'.recoveryError = none →
    world'.recovered after = after → ¬Connection.Refuses ⟨after, answers⟩ 0 →
    ∃ c', importPaymentProofs crates world' mintUrl unit proofsJson ⟨after, answers⟩ =
        .ok ⟨payment.mintUrl, CurrencyUnit.sat.toString, 0⟩ c' ∧ c'.tables = after

theorem Imports.again (hcrates : crates.Faithful) {answers : List (Option String)}
    (h : Imports world before after proofInfos payment)
    (haccepted : ImportAccepted crates mintUrl unit proofsJson payment.mintUrl proofInfos)
    (hlookup : ∃ existing, crates.getProofsByYs (proofInfos.map (·.y)) before.proofs =
      .ok existing)
    {world' : ImportWorld} (hwallet : world'.ensureSatWallet = .ok ())
    (hrecovery : world'.recoveryError = none) (hrecovered : world'.recovered after = after)
    (hlooked : ¬Connection.Refuses ⟨after, answers⟩ 0) :
    ∃ c', importPaymentProofs crates world' mintUrl unit proofsJson ⟨after, answers⟩ =
      .ok ⟨payment.mintUrl, CurrencyUnit.sat.toString, 0⟩ c' ∧ c'.tables = after := by
  have hlookup' : ∃ existing, crates.getProofsByYs (proofInfos.map (·.y))
      (world'.recovered after).proofs = .ok existing := by
    by_cases hnone : proofInfos.map (·.y) = []
    · have hsame : after = before := h.nothing (by
        rw [List.map_eq_nil_iff] at hnone
        rw [hnone]
        rfl)
      rwa [hrecovered, hsame]
    · exact hcrates.finds _ _ hnone
  have hknown : (world'.recovered after).newProofs proofInfos = [] := hrecovered.symm ▸ h.known
  have hanswered : ImportAnswered crates world' ⟨after, answers⟩ proofInfos :=
    ⟨hwallet, hrecovery, hlookup', hlooked, fun hnew => absurd hknown hnew,
      fun hnew => absurd hknown hnew⟩
  obtain ⟨again, c', hrun, hmint, himports⟩ := hanswered.returns hcrates haccepted
  have hzero : again.amountSat = 0 := by
    rw [himports.amount, hknown]
    rfl
  refine ⟨c', ?_, (himports.nothing hknown).trans hrecovered⟩
  rw [hrun, ← hmint, ← himports.unit, ← hzero]

theorem Imports.exact_iff (hcrates : crates.Faithful)
    (h : Imports world before after proofInfos payment)
    (haccepted : ImportAccepted crates mintUrl unit proofsJson payment.mintUrl proofInfos)
    (hlookup : ∃ existing, crates.getProofsByYs (proofInfos.map (·.y)) before.proofs =
      .ok existing)
    (hfits : totalAmount proofInfos < 2 ^ 64) :
    ImportedExactly crates world mintUrl unit proofsJson before after payment ↔
      RepeatsWorthless before proofInfos := by
  have hamount := h.amount_eq hfits
  have hsum := BTreeMap.sumOf_insertAll ProofInfo.y (fun info => info.proof.amount.toNat)
    (before.newProofs proofInfos) before.proofs
  rw [← h.proofs] at hsum
  rw [← overwritten_newProofs]
  constructor
  · intro hexact
    have hheld := hexact.amount
    simp only [WalletDatabase.held, totalAmount] at hheld hamount
    omega
  · intro hzero
    exact
      { amount := by
          simp only [WalletDatabase.held, totalAmount] at hamount ⊢
          omega
        recorded := fun hchanged => h.recorded fun hnone =>
          hchanged (congrArg WalletDatabase.proofs (h.nothing hnone))
        unrecorded := fun hsame => congrArg WalletDatabase.activity (h.unchanged hsame)
        untouched := h.proofs ▸ BTreeMap.Extends.insertAll newProofs_absent
        again := fun _ _ hwallet hrecovery hrecovered hlooked =>
          h.again hcrates haccepted hlookup hwallet hrecovery hrecovered hlooked }

theorem ProofInfo.new_proof {mint : String} {proof : Proof} {info : ProofInfo}
    (h : ProofInfo.new crates mint proof = .ok info) : info.proof = proof := by
  unfold ProofInfo.new at h
  cases hy : crates.y proof with
  | ok y =>
    rw [hy, Except.ok.injEq] at h
    rw [← h]
  | error chain =>
    rw [hy] at h
    contradiction

theorem ImportAccepted.totalAmount_eq {normalizedMint : String} {proofs : List Proof}
    (h : ImportAccepted crates mintUrl unit proofsJson normalizedMint proofInfos)
    (hproofs : crates.parseProofs proofsJson = .ok proofs) :
    totalAmount proofInfos = (proofs.map fun proof => proof.amount.toNat).sum := by
  obtain ⟨mint, parsed, -, hparsed, hinfos⟩ := h.prepared
  obtain rfl := Except.ok.inj (hparsed.symm.trans hproofs)
  have hprepared := mapM_eq_ok_forall₂ hinfos
  clear h hparsed hproofs hinfos
  induction hprepared with
  | nil => rfl
  | cons hinfo _ ih =>
    have hsame := ProofInfo.new_proof hinfo
    simp only [totalAmount, List.map_cons, List.sum_cons, hsame] at ih ⊢
    omega

/-- A call reports exactly what it adds if and only if it is answered and repeats no new proof of
value. A call that fails leaves something behind if and only if it has inserted it. -/
theorem importPaymentProofs_exact_iff (hcrates : crates.Faithful) {proofs : List Proof}
    {normalizedMint : String} (hproofs : crates.parseProofs proofsJson = .ok proofs)
    (hfits : (proofs.map fun proof => proof.amount.toNat).sum < 2 ^ 64)
    (haccepted : ImportAccepted crates mintUrl unit proofsJson normalizedMint proofInfos) :
    ((∃ payment c', importPaymentProofs crates world mintUrl unit proofsJson c = .ok payment c' ∧
        ImportedExactly crates world mintUrl unit proofsJson (world.recovered c.tables) c'.tables
          payment) ↔
      ImportAnswered crates world c proofInfos ∧
        RepeatsWorthless (world.recovered c.tables) proofInfos) ∧
    ∀ e c', importPaymentProofs crates world mintUrl unit proofsJson c = .error e c' →
      (ImportInserts world c proofInfos → c'.tables = (world.recovered c.tables).updateProofs
        ((world.recovered c.tables).newProofs proofInfos)) ∧
      (¬ImportInserts world c proofInfos →
        c'.tables = world.recovered c.tables ∨ c'.tables = c.tables) := by
  rw [← haccepted.totalAmount_eq hproofs] at hfits
  have hends := @importPaymentProofs_answers crates world mintUrl unit proofsJson c hcrates
  refine ⟨⟨?_, ?_⟩, fun e c' hrun => ?_⟩
  · rintro ⟨payment, c', hrun, hexact⟩
    obtain ⟨infos, haccepted', hanswered, himports⟩ := hends.of_ok hrun
    obtain rfl := haccepted'.unique haccepted
    exact ⟨hanswered,
      (himports.exact_iff hcrates haccepted' hanswered.lookup hfits).mp hexact⟩
  · rintro ⟨hanswered, hrepeats⟩
    obtain ⟨payment, c', hrun, hmint, himports⟩ := hanswered.returns hcrates haccepted
    subst hmint
    exact ⟨payment, c', hrun,
      (himports.exact_iff hcrates haccepted hanswered.lookup hfits).mpr hrepeats⟩
  · have hfails := hends.of_error hrun _ _ haccepted
    exact ⟨hfails.inserted, hfails.untouched⟩

def sampleProofOf (amount : UInt64) (secret : String) : Proof where
  amount := amount
  keysetId := "009a1f293253e41e"
  secret := secret
  c := "0279be667ef9dcbbac55a06295ce870b07029bfcdb2dce28d959f2815b16f81798"

def samplePoint (secret : String) : Except Anyhow String :=
  if secret = "secret" then
    .ok "025dccd27047d10d4900b8d2c4ea6795702c2d1fbe1d3fd0d1cd4b18776b12ddc0"
  else if secret = "second" then
    .ok "02194603ffa36356f4a56b7df9371fc3192472351453ec7398b8da8117e7c3e104"
  else if secret = "worthless" then
    .ok "03b0f3d6d450ad64bb3f8f2c0cbb3f4f5c1ddbd2fa0e2a5ac3d8e3c52f6a3a63d1"
  else .error ["No point found"]

def sampleProof : Proof := sampleProofOf 4 "secret"

/-- A stored proof, a worthless one twice and a new one, and the stored one again. -/
def sampleProofs : List Proof :=
  [sampleProof, sampleProofOf 0 "worthless", sampleProofOf 0 "worthless", sampleProofOf 8 "second",
    sampleProof]

def proofJson (proof : Proof) : String :=
  "\x7b\"amount\":" ++ toString proof.amount.toNat ++ ",\"id\":\"" ++ proof.keysetId ++
    "\",\"secret\":\"" ++ proof.secret ++ "\",\"C\":\"" ++ proof.c ++ "\"\x7d"

def proofsJsonOf (proofs : List Proof) : String :=
  "[" ++ ",".intercalate (proofs.map proofJson) ++ "]"

def onceJson : String := proofsJsonOf [sampleProof]

def twiceJson : String := proofsJsonOf [sampleProof, sampleProof]

def sampleProofCrates : ProofCrates where
  url := sampleUrlCrate
  mintUrlFromStr := .ok
  parseProofs json :=
    if json = onceJson then .ok [sampleProof]
    else if json = twiceJson then .ok [sampleProof, sampleProof]
    else if json = proofsJsonOf sampleProofs then .ok sampleProofs
    else .error ["expected value at line 1 column 1"]
  y proof := samplePoint proof.secret
  getProofsByYs ys stored :=
    if ys = [] then .error "Empty set of values" else .ok (ys.filterMap fun y => stored[y]?)

theorem sampleProofCrates_faithful : sampleProofCrates.Faithful where
  finds ys stored hys := ⟨ys.filterMap fun y => stored[y]?, if_neg hys⟩
  found := by
    intro ys stored infos h info
    by_cases hys : ys = []
    · simp [sampleProofCrates, hys] at h
    · simp only [sampleProofCrates, if_neg hys, Except.ok.injEq] at h
      rw [← h, List.mem_filterMap]

def sampleImportWorld : ImportWorld where
  ensureSatWallet := .ok ()
  recovered := id
  recoveryError := none
  activityId := "1700000000-0a0b0c0d"
  activityNowUnix := 1700000000

def sampleProofInfo (proof : Proof) : ProofInfo where
  proof := proof
  y := (samplePoint proof.secret).toOption.getD ""
  mintUrl := "https://source.example"
  state := .unspent
  unit := .sat

def sampleProofDatabase : WalletDatabase :=
  WalletDatabase.fresh.updateProofs [sampleProofInfo sampleProof]

theorem parse_once : sampleProofCrates.parseProofs onceJson = .ok [sampleProof] := by
  simp only [sampleProofCrates, if_true]

theorem parse_twice : sampleProofCrates.parseProofs twiceJson = .ok [sampleProof, sampleProof] := by
  have hne : twiceJson ≠ onceJson := by decide +kernel
  simp only [sampleProofCrates, if_neg hne, if_true]

theorem parse_sample : sampleProofCrates.parseProofs (proofsJsonOf sampleProofs) =
    .ok sampleProofs := by
  have hne : proofsJsonOf sampleProofs ≠ onceJson := by decide +kernel
  have hne' : proofsJsonOf sampleProofs ≠ twiceJson := by decide +kernel
  simp only [sampleProofCrates, if_neg hne, if_neg hne', if_true]

theorem accepted_sample {json : String} {proofs : List Proof}
    (hproofs : sampleProofCrates.parseProofs json = .ok proofs)
    (hinfos : proofs.mapM (ProofInfo.new sampleProofCrates "https://source.example") =
      .ok (proofs.map sampleProofInfo)) :
    ImportAccepted sampleProofCrates "https://source.example" "sat" json
      "https://source.example" (proofs.map sampleProofInfo) where
  unit := by decide
  normalized := by decide +kernel
  prepared := ⟨"https://source.example", proofs, rfl, hproofs, hinfos⟩

theorem answered_sample {database : WalletDatabase} (hempty : database.activity = none)
    (hne : proofInfos ≠ []) :
    ImportAnswered sampleProofCrates sampleImportWorld ⟨database, []⟩ proofInfos where
  wallet := rfl
  recovery := rfl
  lookup := sampleProofCrates_faithful.finds _ _ (by simpa using hne)
  looked := not_refuses_nil _ _
  inserted _ := not_refuses_nil _ _
  recorded _ := ⟨not_refuses_nil _ _, ⟨[], by
    simp [WalletDatabase.storedEntries, sampleImportWorld, hempty]⟩, not_refuses_nil _ _⟩

theorem importPaymentProofs_exact_sample :
    ∃ payment c', importPaymentProofs sampleProofCrates sampleImportWorld
        "https://source.example" "sat" (proofsJsonOf sampleProofs) ⟨sampleProofDatabase, []⟩ =
          .ok payment c' ∧
      ImportedExactly sampleProofCrates sampleImportWorld "https://source.example" "sat"
        (proofsJsonOf sampleProofs) sampleProofDatabase c'.tables payment := by
  have haccepted := accepted_sample parse_sample (by decide +kernel)
  have hiff := @importPaymentProofs_exact_iff sampleProofCrates sampleImportWorld
    "https://source.example" "sat" (proofsJsonOf sampleProofs) ⟨sampleProofDatabase, []⟩ _
    sampleProofCrates_faithful _ _ parse_sample (by decide +kernel) haccepted
  have hrepeats : RepeatsWorthless sampleProofDatabase (sampleProofs.map sampleProofInfo) := by
    unfold RepeatsWorthless
    decide +kernel
  exact hiff.1.mpr ⟨answered_sample rfl (by decide), hrepeats⟩

theorem repeated_proof_reported_twice :
    ∃ payment c', importPaymentProofs sampleProofCrates sampleImportWorld
        "https://source.example" "sat" twiceJson ⟨.fresh, []⟩ = .ok payment c' ∧
      payment.amountSat = 8 ∧ c'.tables.held = 4 ∧
      ¬ImportedExactly sampleProofCrates sampleImportWorld "https://source.example" "sat"
        twiceJson .fresh c'.tables payment := by
  have haccepted := accepted_sample parse_twice (by decide +kernel)
  have hanswered : ImportAnswered sampleProofCrates sampleImportWorld ⟨.fresh, []⟩
      ([sampleProof, sampleProof].map sampleProofInfo) := answered_sample rfl (by decide)
  obtain ⟨payment, c', hrun, -, himports⟩ :=
    hanswered.returns sampleProofCrates_faithful haccepted
  have hamount : payment.amountSat = 8 := by
    rw [himports.amount]
    decide +kernel
  have hheld : c'.tables.held = 4 := by
    rw [WalletDatabase.held, himports.proofs]
    decide +kernel
  refine ⟨payment, c', hrun, hamount, hheld, ?_⟩
  intro hexact
  have hsum := hexact.amount
  rw [hamount, hheld] at hsum
  exact absurd hsum (by decide +kernel)

end CashuService
