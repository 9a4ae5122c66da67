import CashuService.Client.SpilmanOpening
import CashuService.Client.SpilmanRefundRuns
import CashuService.Wallet.ServiceRuns
set_option autoImplicit false

namespace CashuService

section

variable {α F P : Type}

def StoreChange.Keeps (change : StoreChange F P) : Prop := ∀ channelId, change ≠ .delete channelId

def Bridge.Only (allowed : StoreChange F P → Prop) : Bridge F P α → Prop
  | .done _ => True
  | .change step next => allowed step ∧ ∀ storage, (next storage).Only allowed

/-- The file holds the funding of the channel. -/
def FundedOnDisk (codec : StoreFileCodec F P) (channelId : String) (file : Option String) : Prop :=
  ∃ storage, loadWithLock codec (.ok file) = .ok storage ∧ channelId ∈ storage.state.funding

/-- What the code relies on of `cdk_spilman`: an opening saves the funding of its channel, a payment
is the one that was asked for, and neither removes a channel. -/
structure ChannelCrates.Faithful (crates : ChannelCrates F P) (codec : StoreFileCodec F P) :
    Prop where
  opens : ∀ {secretHex token receiver sender keysetInfoJson : String} {expiryUnix max : UInt64}
    {swap : String → String → Except String String} {storage : FileSpilmanClientStorage F P}
    {file : Option String} {steps : List (StoreChange F P × WriteOutcome)}
    {opened : OpenChannelResult},
    (crates.openChannelFromToken secretHex token receiver sender expiryUnix keysetInfoJson max swap
      storage).Makes codec ⟨storage, file⟩ steps (.ok opened) →
    ∃ funding, .saveFunding opened.channelId funding ∈ steps.map Prod.fst
  opensOnly : ∀ (secretHex token receiver sender : String) (expiryUnix : UInt64)
    (keysetInfoJson : String) (max : UInt64) (swap : String → String → Except String String)
    (storage : FileSpilmanClientStorage F P),
    (crates.openChannelFromToken secretHex token receiver sender expiryUnix keysetInfoJson max swap
      storage).Only StoreChange.Keeps
  pays : ∀ {secretHex channelId : String} {balance : UInt64}
    {storage : FileSpilmanClientStorage F P} {file : Option String}
    {steps : List (StoreChange F P × WriteOutcome)} {payment : CashuSpilmanPayment},
    (crates.createPaymentWithFunding secretHex channelId balance storage).Makes codec
      ⟨storage, file⟩ steps (.ok payment) →
    payment.channelId = channelId ∧ payment.balance = balance ∧ payment.hasFunding = true
  paysOnly : ∀ (secretHex channelId : String) (balance : UInt64)
    (storage : FileSpilmanClientStorage F P),
    (crates.createPaymentWithFunding secretHex channelId balance storage).Only StoreChange.Keeps

/-- The keyset information of a request, or that of a first one with the least fee among the mint's
keysets that it can be. -/
def KeysetChosen (crates : ChannelCrates F P) (world : OpeningWorld)
    (request : StreamingRouteOpenCashuSpilmanChannelFromWalletRequest) (json : String) : Prop :=
  request.keysetInfoJson = some json ∨ request.keysetInfoJson = none ∧
    ∃ response keysets selected selectedId keys,
      world.http.get (trimEndMatches '/' request.mintUrl ++ "/v1/keysets") = .ok (.ok response) ∧
      (response.get? "keysets").bind Json.asArray? = some keysets ∧ selected ∈ keysets ∧
      isSelectable "sat" request.keysetId selected = true ∧
      (∀ other ∈ keysets, isSelectable "sat" request.keysetId other = true →
        inputFeePpk selected ≤ inputFeePpk other) ∧
      (selected.get? "id").bind Json.asStr? = some selectedId ∧
      json = crates.printJson (keysetInfo selectedId "sat" keys selected)

/-- The first payment of a channel is the least that covers what is asked for. -/
structure FirstPayment (openingPaidMsat : UInt64) (unit : StreamingRouteCashuUnit)
    (result : StreamingRouteOpenCashuSpilmanChannelResult) : Prop where
  channel : result.payment.channelId = result.channelId
  funding : result.payment.hasFunding = true
  named : result.unit = unit.asStr
  paid : result.openingPaidMsat = unit.balanceToMsat result.payment.balance
  covers : openingPaidMsat ≤ result.openingPaidMsat
  least : ∀ balance < result.payment.balance, unit.balanceToMsat balance < openingPaidMsat

/-- The file after some of the changes of a session that removes no channel. -/
def KeptFile (codec : StoreFileCodec F P) (file file' : Option String) : Prop :=
  ∃ steps : List (StoreChange F P × WriteOutcome), (∀ step ∈ steps, step.1.Keeps) ∧
    file' = afterSession codec steps file

def SenderOf (world : OpeningWorld) (senderSecretHex : Option String) (secretHex : String) : Prop :=
  senderSecretHex = some secretHex ∨
    senderSecretHex = none ∧ ∃ key, world.senderKey = .ok key ∧ key.secretHex = secretHex

structure TellsOf (opened : OpenChannelResult) (unit : StreamingRouteCashuUnit)
    (result : StreamingRouteOpenCashuSpilmanChannelResult) : Prop where
  channelId : result.channelId = opened.channelId
  mintUrl : result.mintUrl = opened.mintUrl
  sender : result.senderPubkeyHex = opened.senderPubkeyHex
  capacity : result.capacity = opened.capacity
  capacitySat : result.capacitySat = unit.capacityToSat opened.capacity
  fundingTokenAmount : result.fundingTokenAmount = opened.fundingTokenAmount

/-- A channel was opened on the storage in the file from the token of a request, for its receiver
and on its terms. Its funding is in the file, and its first payment is signed. -/
structure ChannelOpened (crates : ChannelCrates F P) (codec : StoreFileCodec F P)
    (request : StreamingRouteOpenCashuSpilmanChannelFromTokenRequest)
    (swap : String → String → Except String String) (world : OpeningWorld)
    (unit : StreamingRouteCashuUnit) (file : Option String)
    (result : StreamingRouteOpenCashuSpilmanChannelResult) (file' : Option String) : Prop where
  opened : ∃ secretHex sender storage steps opened,
    SenderOf world request.senderSecretHex secretHex ∧
    crates.addKeyFromHex secretHex = .ok sender ∧ loadWithLock codec (.ok file) = .ok storage ∧
    (crates.openChannelFromToken secretHex request.token
      (normalizeSpilmanReceiverPubkeyHex request.receiverPubkeyHex) sender request.expiryUnix
      request.keysetInfoJson request.maxAmountPerOutput swap storage).Makes codec ⟨storage, file⟩
        steps (.ok opened) ∧
    TellsOf opened unit result
  receiver : result.receiverPubkeyHex = normalizeSpilmanReceiverPubkeyHex request.receiverPubkeyHex
  expires : result.expiresUnix = request.expiryUnix
  kept : KeptFile codec file file'
  funded : FundedOnDisk codec result.channelId file'
  payment : FirstPayment request.openingPaidMsat unit result

/-- An opening from the wallet that succeeds: a token for the keyset was sent and recorded, and the
channel was opened from it. -/
structure OpeningDone (crates : ChannelCrates F P) (codec : StoreFileCodec F P)
    (request : StreamingRouteOpenCashuSpilmanChannelFromWalletRequest) (world : OpeningWorld)
    (s : OpeningState) (result : StreamingRouteOpenCashuSpilmanChannelFromWalletResult)
    (s' : OpeningState) : Prop where
  done : ∃ json keysetId prepared, KeysetChosen crates world request json ∧
    crates.computeFundingTokenAmount request.capacitySat json request.maxAmountPerOutput =
      .ok result.walletSend.amountSat ∧
    crates.parseKeysetInfoFromJson json = .ok keysetId ∧
    Moved world.cdk (.sent result.walletSend.mintUrl result.walletSend.amountSat (some keysetId)
      prepared result.walletSend.token) s.service s'.service ∧
    ChannelOpened crates codec {
      token := result.walletSend.token
      receiverPubkeyHex := request.receiverPubkeyHex
      senderSecretHex := none
      expiryUnix := request.expiryUnix
      keysetInfoJson := json
      maxAmountPerOutput := request.maxAmountPerOutput
      unit := "sat"
      openingPaidMsat := request.openingPaidMsat }
      (HttpSpilmanClientNetworking.callMintSwap world.http) world .sat s.file result.channel s'.file

/-- An opening from the wallet that fails: the file is as it was and the wallet's own error tells
what was done, or the token that was sent is recorded. -/
def OpeningFails (codec : StoreFileCodec F P) (world : OpeningWorld) (s : OpeningState)
    (e : WalletError) (s' : OpeningState) : Prop :=
  (s'.file = s.file ∧ FailedWith s.service e s'.service) ∨ KeptFile codec s.file s'.file ∧
    ∃ mintUrl amountSat keysetId prepared token, Moved world.cdk
      (.sent mintUrl amountSat (some keysetId) prepared token) s.service s'.service

variable {crates : ChannelCrates F P} {codec : StoreFileCodec F P} {world : OpeningWorld}
  {dataDir : Path} {channelId : String} {s s' : OpeningState} {file : Option String}
  {session : StoreSession F P} {storage : FileSpilmanClientStorage F P}
  {steps : List (StoreChange F P × WriteOutcome)}

/-- An opening with a token touches nothing but the file. -/
def TokenOpeningTells (crates : ChannelCrates F P) (codec : StoreFileCodec F P)
    (request : StreamingRouteOpenCashuSpilmanChannelFromTokenRequest)
    (swap : String → String → Except String String) (world : OpeningWorld) (s : OpeningState) :
    EStateM.Result WalletError OpeningState StreamingRouteOpenCashuSpilmanChannelResult → Prop
  | .ok result s' => s'.service = s.service ∧ ∃ unit,
      StreamingRouteCashuUnit.parse request.unit = .ok unit ∧
      ChannelOpened crates codec request swap world unit s.file result s'.file
  | .error _ s' => s'.service = s.service ∧ KeptFile codec s.file s'.file

theorem Bridge.alone_run (codec : StoreFileCodec F P) (bridge : Bridge F P α)
    (session : StoreSession F P) (writes : List WriteOutcome) :
    ∃ steps, (bridge.alone codec session writes).2.1 = session.run codec steps ∧
      (∀ a, (bridge.alone codec session writes).1 = .ok a →
        bridge.Makes codec session steps (.ok a)) ∧
      ∀ allowed, bridge.Only allowed → ∀ step ∈ steps, allowed step.1 := by
  induction bridge generalizing session writes with
  | done result => exact ⟨[], rfl, fun a h => by simpa [alone, Makes, eq_comm] using h, by simp⟩
  | change step next ih =>
    cases writes with
    | nil => exact ⟨[], rfl, nofun, by simp⟩
    | cons outcome writes =>
      obtain ⟨steps, hrun, hmakes, honly⟩ := ih (session.change codec (step, outcome)).storage
        (session.change codec (step, outcome)) writes
      refine ⟨(step, outcome) :: steps, hrun, fun a ha => ⟨rfl, hmakes a ha⟩, ?_⟩
      intro allowed hallowed
      exact List.forall_mem_cons.mpr ⟨hallowed.1, honly allowed (hallowed.2 _)⟩

theorem StoreSession.run_append (session : StoreSession F P)
    (steps steps' : List (StoreChange F P × WriteOutcome)) :
    session.run codec (steps ++ steps') = (session.run codec steps).run codec steps' :=
  List.foldl_append

theorem callBridge_ends {work : FileSpilmanClientStorage F P → Bridge F P α}
    {writes : List WriteOutcome} (honly : (work storage).Only StoreChange.Keeps) :
    Ends (callBridge codec work storage writes) s
      (fun _ s' => s'.service = s.service ∧ ∃ steps, (∀ step ∈ steps, step.1.Keeps) ∧
        s'.file = (StoreSession.run codec ⟨storage, s.file⟩ steps).file)
      fun r s' => s'.service = s.service ∧ ∃ steps, (∀ step ∈ steps, step.1.Keeps) ∧
        ⟨r.2.1, s'.file⟩ = StoreSession.run codec ⟨storage, s.file⟩ steps ∧
        (work storage).Makes codec ⟨storage, s.file⟩ steps (.ok r.1) := by
  obtain ⟨steps, hrun, hmakes, hkeeps⟩ :=
    (work storage).alone_run codec ⟨storage, s.file⟩ writes
  refine .get_bind (.modify_bind (orMessage_bind (fun _ => ?_) fun a ha => .pure ?_))
  · exact ⟨rfl, steps, hkeeps _ honly, congrArg StoreSession.file hrun⟩
  · exact ⟨rfl, steps, hkeeps _ honly, hrun, hmakes a ha⟩

theorem funding_applyAll {state : SpilmanClientStoreFile F P} {changes : List (StoreChange F P)}
    (hkeeps : ∀ change ∈ changes, change ≠ .delete channelId)
    (h : channelId ∈ state.funding ∨ ∃ funding, .saveFunding channelId funding ∈ changes) :
    channelId ∈ (applyAll state changes).funding := by
  induction changes generalizing state with
  | nil => simpa [applyAll] using h
  | cons change changes ih =>
    obtain ⟨hfirst, hrest⟩ := List.forall_mem_cons.mp hkeeps
    refine ih hrest ?_
    rcases h with hold | ⟨funding, hmem⟩
    · left
      cases change with
      | saveFunding other funding => exact Std.ExtTreeMap.mem_insert.mpr (.inr hold)
      | savePaymentState other payment => exact hold
      | setClosed other => exact hold
      | delete other =>
        refine Std.ExtTreeMap.mem_erase.mpr ⟨fun heq => hfirst ?_, hold⟩
        rw [Std.LawfulEqCmp.eq_of_compare heq]
    · rcases List.mem_cons.mp hmem with rfl | hlater
      · exact .inl Std.ExtTreeMap.mem_insert_self
      · exact .inr ⟨funding, hlater⟩

theorem afterSession_eq (hload : loadWithLock codec (.ok file) = .ok storage)
    (steps : List (StoreChange F P × WriteOutcome)) :
    afterSession codec steps file = (StoreSession.run codec ⟨storage, file⟩ steps).file :=
  ClientSession.alone_loaded steps hload

theorem FundedOnDisk.afterSession (hcodec : codec.Faithful) (h : FundedOnDisk codec channelId file)
    (hkeeps : ∀ step ∈ steps, step.1 ≠ .delete channelId) :
    FundedOnDisk codec channelId (afterSession codec steps file) := by
  obtain ⟨storage, hload, hfunded⟩ := h
  obtain ⟨made, hmade, hafter, -⟩ := alone_effect hcodec hload (ClientSession.mk () steps)
  refine ⟨_, hafter, funding_applyAll (fun change hchange => ?_) (.inl hfunded)⟩
  obtain ⟨step, hstep, rfl⟩ := List.mem_map.mp (hmade.subset hchange)
  exact hkeeps step hstep

theorem fundedOnDisk_of_ensureOk (hcodec : codec.Faithful)
    (hload : loadWithLock codec (.ok file) = .ok storage)
    (hok : (StoreSession.run codec ⟨storage, file⟩ steps).storage.ensureOk = .ok ())
    (hkeeps : ∀ step ∈ steps, step.1.Keeps)
    (hsaved : ∃ funding, .saveFunding channelId funding ∈ steps.map Prod.fst) :
    FundedOnDisk codec channelId (afterSession codec steps file) := by
  obtain ⟨made, -, hafter, hall⟩ := alone_effect hcodec hload (ClientSession.mk () steps)
  rw [hall hok] at hafter
  refine ⟨_, hafter, funding_applyAll (fun change hchange => ?_) (.inr hsaved)⟩
  obtain ⟨step, hstep, rfl⟩ := List.mem_map.mp hchange
  exact hkeeps step hstep channelId

theorem selectSpilmanKeyset_eq_some {keysets : List Json} {unit : String} {keysetId : Option String}
    {selected : Json} (h : selectSpilmanKeyset keysets unit keysetId = some selected) :
    selected ∈ keysets ∧ isSelectable unit keysetId selected = true ∧
      ∀ other ∈ keysets, isSelectable unit keysetId other = true →
        inputFeePpk selected ≤ inputFeePpk other := by
  have hmem := List.argmin_mem h
  obtain ⟨hselected, hselectable⟩ := List.mem_filter.mp hmem
  refine ⟨hselected, hselectable, fun other hother hcandidate => ?_⟩
  exact UInt64.le_iff_toNat_le.mpr
    (List.le_of_mem_argmin (f := fun entry => (inputFeePpk entry).toNat)
      (List.mem_filter.mpr ⟨hother, hcandidate⟩) h)

theorem fetchJson_eq_ok {http : Http} {url what : String} {json : Json}
    (h : fetchJson http url what = .ok json) : http.get url = .ok (.ok json) := by
  unfold fetchJson at h
  split at h
  · cases h
  · cases h
  · rename_i hget
    rw [hget, Except.ok.inj h]

theorem requestedKeysetInfo_chosen {json : String}
    {request : StreamingRouteOpenCashuSpilmanChannelFromWalletRequest}
    (h : requestedKeysetInfo crates world .sat request = .ok json) :
    KeysetChosen crates world request json := by
  unfold requestedKeysetInfo at h
  split at h
  · rename_i json' hjson
    exact .inl (Except.ok.inj h ▸ hjson)
  · rename_i hnone
    unfold fetchSpilmanKeysetInfoJson at h
    obtain ⟨response, hresponse, h⟩ := Except.bind_eq_ok.mp h
    obtain ⟨keysets, hkeysets, h⟩ := Except.bind_eq_ok.mp h
    obtain ⟨selected, hselected, h⟩ := Except.bind_eq_ok.mp h
    obtain ⟨selectedId, hid, h⟩ := Except.bind_eq_ok.mp h
    obtain ⟨keysResponse, -, h⟩ := Except.bind_eq_ok.mp h
    obtain ⟨keys, -, h⟩ := Except.bind_eq_ok.mp h
    have hunit : toAsciiLowercase (trim StreamingRouteCashuUnit.sat.asStr) = "sat" := by decide
    rw [hunit] at hselected h
    obtain ⟨hmem, hselectable, hleast⟩ := selectSpilmanKeyset_eq_some (okOr_eq_ok.mp hselected)
    exact .inr ⟨hnone, response, keysets, selected, selectedId, keys, fetchJson_eq_ok hresponse,
      okOr_eq_ok.mp hkeysets, hmem, hselectable, hleast, okOr_eq_ok.mp hid,
      (Except.ok.inj h).symm⟩

theorem KeptFile.same (file : Option String) : KeptFile codec file file := by
  refine ⟨[], by simp, ?_⟩
  exact (ClientSession.alone_nil file).symm

theorem loadOpeningStorage_ends {err : WalletError → OpeningState → Prop} (herr : ∀ {e}, err e s) :
    Ends (loadOpeningStorage codec world) s err fun storage s' => s' = s ∧
      loadWithLock codec (.ok s.file) = .ok storage := by
  refine .get_bind (.attempt (fun _ _ => herr) fun storage hload => ⟨rfl, ?_⟩)
  have hread := Except.mapError_eq_ok.mp hload
  split at hread
  · cases hread
  · exact hread

theorem firstPayment_of_balance {openingPaidMsat : UInt64} {unit : StreamingRouteCashuUnit}
    {result : StreamingRouteOpenCashuSpilmanChannelResult}
    (hchannel : result.payment.channelId = result.channelId)
    (hfunding : result.payment.hasFunding = true)
    (hbalance : result.payment.balance = unit.balanceFromMsat openingPaidMsat)
    (hnamed : result.unit = unit.asStr)
    (hpaid : result.openingPaidMsat = unit.balanceToMsat result.payment.balance) :
    FirstPayment openingPaidMsat unit result where
  channel := hchannel
  funding := hfunding
  named := hnamed
  paid := hpaid
  covers := by
    rw [hpaid, hbalance]
    exact StreamingRouteCashuUnit.le_balanceToMsat
  least := by
    rw [hbalance]
    exact fun balance h => StreamingRouteCashuUnit.balanceToMsat_lt_of_lt h

theorem openingSender_eq_ok {senderSecretHex : Option String} {sender : CashuSpilmanSenderKeyFile}
    (h : openingSender crates world senderSecretHex = .ok sender) :
    SenderOf world senderSecretHex sender.secretHex := by
  cases senderSecretHex with
  | none => exact .inr ⟨rfl, sender, h, rfl⟩
  | some secretHex =>
    obtain ⟨publicKeyHex, -, hsender⟩ := Except.bind_eq_ok.mp h
    obtain rfl := Except.ok.inj hsender
    exact .inl rfl

/-- What the two calls of the bridge leave, when the storage has no error after them. -/
theorem channelOpened_of_makes {request : StreamingRouteOpenCashuSpilmanChannelFromTokenRequest}
    {swap : String → String → Except String String} {unit : StreamingRouteCashuUnit}
    {secretHex sender : String} {opened : OpenChannelResult} {payment : CashuSpilmanPayment}
    {steps₁ steps₂ : List (StoreChange F P × WriteOutcome)}
    {storage₁ storage₂ : FileSpilmanClientStorage F P} {file₁ file₂ : Option String}
    (hcrates : crates.Faithful codec) (hcodec : codec.Faithful)
    (hsender : SenderOf world request.senderSecretHex secretHex)
    (hpubkey : crates.addKeyFromHex secretHex = .ok sender)
    (hload : loadWithLock codec (.ok file) = .ok storage)
    (hopened : (crates.openChannelFromToken secretHex request.token
      (normalizeSpilmanReceiverPubkeyHex request.receiverPubkeyHex) sender request.expiryUnix
      request.keysetInfoJson request.maxAmountPerOutput swap storage).Makes codec ⟨storage, file⟩
        steps₁ (.ok opened))
    (hpaid : (crates.createPaymentWithFunding secretHex opened.channelId
      (unit.balanceFromMsat request.openingPaidMsat) storage₁).Makes codec ⟨storage₁, file₁⟩ steps₂
        (.ok payment))
    (hkeeps : ∀ step ∈ steps₁ ++ steps₂, step.1.Keeps)
    (hrun : ⟨storage₂, file₂⟩ = StoreSession.run codec ⟨storage, file⟩ (steps₁ ++ steps₂))
    (hok : storage₂.ensureOk = .ok ()) :
    ChannelOpened crates codec request swap world unit file {
      channelId := opened.channelId
      mintUrl := opened.mintUrl
      senderPubkeyHex := opened.senderPubkeyHex
      receiverPubkeyHex := normalizeSpilmanReceiverPubkeyHex request.receiverPubkeyHex
      unit := unit.asStr
      capacity := opened.capacity
      capacitySat := unit.capacityToSat opened.capacity
      fundingTokenAmount := opened.fundingTokenAmount
      expiresUnix := request.expiryUnix
      openingPaidMsat := unit.balanceToMsat payment.balance
      payment } file₂ where
  -- the fields of the result are read off it, without evaluating what they hold
  opened := ⟨secretHex, sender, storage, steps₁, opened, hsender, hpubkey, hload, hopened,
    by constructor <;> dsimp only⟩
  receiver := by dsimp only
  expires := by dsimp only
  kept := ⟨_, hkeeps, (congrArg StoreSession.file hrun).trans (afterSession_eq hload _).symm⟩
  funded := by
    obtain ⟨funding, hsaved⟩ := hcrates.opens hopened
    have hclean := (congrArg (fun session => session.storage.ensureOk) hrun).symm.trans hok
    have hdisk := fundedOnDisk_of_ensureOk hcodec hload hclean hkeeps
      ⟨funding, List.map_append ▸ List.mem_append_left _ hsaved⟩
    rwa [afterSession_eq hload, ← hrun] at hdisk
  payment := by
    obtain ⟨hchannel, hbalance, hfunding⟩ := hcrates.pays hpaid
    exact firstPayment_of_balance hchannel hfunding hbalance rfl rfl

theorem openFromToken_ends {request : StreamingRouteOpenCashuSpilmanChannelFromTokenRequest}
    {swap : String → String → Except String String} {lock : SharedSpilmanClientStoreLock}
    (hcrates : crates.Faithful codec) (hcodec : codec.Faithful) :
    Ends (openStreamingRouteCashuSpilmanChannelFromTokenWithNetworkingAndLock crates codec dataDir
        request swap lock world) s
      (fun _ s' => s'.service = s.service ∧ KeptFile codec s.file s'.file)
      fun result s' => s'.service = s.service ∧ ∃ unit,
        StreamingRouteCashuUnit.parse request.unit = .ok unit ∧
        ChannelOpened crates codec request swap world unit s.file result s'.file := by
  have hsame : s.service = s.service ∧ KeptFile codec s.file s.file := ⟨rfl, .same s.file⟩
  refine orMessage_bind (fun _ => hsame) fun _ _ => ?_
  refine .seq (q := fun storage s' => s' = s ∧ loadWithLock codec (.ok s.file) = .ok storage)
    (loadOpeningStorage_ends hsame) ?_
  rintro storage s₀ ⟨rfl, hload⟩
  refine orMessage_bind (fun _ => hsame) fun sender hsender => ?_
  refine orMessage_bind (fun _ => hsame) fun senderPubkeyHex hpubkey => ?_
  refine .seq ((callBridge_ends (hcrates.opensOnly ..)).imp ?_ fun _ _ h => h) ?_
  · rintro _ s₁ ⟨hservice, steps, hkeeps, hfile⟩
    exact ⟨hservice, steps, hkeeps, hfile.trans (afterSession_eq hload steps).symm⟩
  rintro ⟨opened, storage₁, writes⟩ s₁ ⟨hservice₁, steps₁, hkeeps₁, hrun₁, hopened⟩
  have hafter₁ : KeptFile codec s₀.file s₁.file :=
    ⟨steps₁, hkeeps₁, (congrArg StoreSession.file hrun₁).trans (afterSession_eq hload steps₁).symm⟩
  refine orMessage_bind (fun _ => ⟨hservice₁, hafter₁⟩) fun unit hunit => ?_
  refine .seq ((callBridge_ends (hcrates.paysOnly ..)).imp ?_ fun _ _ h => h) ?_
  · rintro _ s₂ ⟨hservice, steps, hkeeps, hfile⟩
    rw [hrun₁, ← StoreSession.run_append] at hfile
    exact ⟨hservice.trans hservice₁, steps₁ ++ steps, List.forall_mem_append.mpr ⟨hkeeps₁, hkeeps⟩,
      hfile.trans (afterSession_eq hload _).symm⟩
  rintro ⟨payment, storage₂, rest⟩ s₂ ⟨hservice₂, steps₂, hkeeps₂, hrun₂, hpaid⟩
  have hservice := hservice₂.trans hservice₁
  have hkeeps := List.forall_mem_append.mpr ⟨hkeeps₁, hkeeps₂⟩
  rw [hrun₁, ← StoreSession.run_append] at hrun₂
  have hfile : s₂.file = afterSession codec (steps₁ ++ steps₂) s₀.file :=
    (congrArg StoreSession.file hrun₂).trans (afterSession_eq hload _).symm
  refine orMessage_bind (fun _ => ⟨hservice, _, hkeeps, hfile⟩) fun _ hok => .pure ?_
  exact ⟨hservice, unit, hunit, channelOpened_of_makes hcrates hcodec (openingSender_eq_ok hsender)
    hpubkey hload hopened hpaid hkeeps hrun₂ hok⟩

theorem OpeningFails.same (e : WalletError) : OpeningFails codec world s e s :=
  .inl ⟨rfl, (SameLog.refl s.service).failed e⟩

/-- The token of an opening: it is sent and recorded, or the error of the wallet tells. -/
theorem walletSend_ends {mintUrl keysetId : String} {amountSat : UInt64} :
    Ends (zoom OpeningState.service (fun service s => { s with service })
        (sendPaymentTokenForKeyset crates.wallet world.cdk mintUrl amountSat keysetId)) s
      (OpeningFails codec world s) fun payment s' => s'.file = s.file ∧
        payment.amountSat = amountSat ∧ ∃ prepared, Moved world.cdk
          (.sent payment.mintUrl amountSat (some keysetId) prepared payment.token)
          s.service s'.service := by
  refine .zoom (sendPaymentToken_ends.imp (fun _ _ h => .inl ⟨rfl, h⟩) ?_)
  rintro payment service' ⟨prepared, hpayment, hmoved⟩
  exact ⟨rfl, congrArg CashuSentPayment.amountSat hpayment, prepared, hmoved⟩

theorem openChannel_ends {request : StreamingRouteOpenCashuSpilmanChannelFromWalletRequest}
    {lock : SharedSpilmanClientStoreLock} (hcrates : crates.Faithful codec)
    (hcodec : codec.Faithful) :
    Ends (openStreamingRouteCashuSpilmanChannelWithLock crates codec dataDir request lock world) s
      (OpeningFails codec world s) (OpeningDone crates codec request world s) := by
  refine orMessage_bind (fun _ => .same _) fun _ _ => .ite (fun _ => .throw (.same _)) fun _ => ?_
  refine orMessage_bind (fun _ => .same _) fun unit _ => ?_
  refine .ite (fun _ => .throw (.same _)) fun hsat => ?_
  obtain rfl := not_not.mp hsat
  refine orMessage_bind (fun _ => .same _) fun json hjson => ?_
  refine orMessage_bind (fun _ => .same _) fun amountSat hamount => ?_
  refine orMessage_bind (fun _ => .same _) fun keysetId hkeyset => ?_
  refine .seq walletSend_ends ?_
  rintro walletSend s₁ ⟨hfile₁, hamountSat, prepared, hmoved⟩
  refine .seq ((openFromToken_ends hcrates hcodec).imp (fun _ s₂ h => ?_) fun _ _ h => h) ?_
  · obtain ⟨hservice, hfile⟩ := h
    exact .inr ⟨hfile₁ ▸ hfile, _, _, _, _, _, hservice ▸ hmoved⟩
  rintro channel s₂ ⟨hservice, unit, hunit, hopened⟩
  obtain rfl : unit = .sat := by
    rw [tokenRequest, StreamingRouteCashuUnit.parse_asStr] at hunit
    exact (Except.ok.inj hunit).symm
  refine .pure ⟨json, keysetId, prepared, requestedKeysetInfo_chosen hjson, ?_, hkeyset, ?_,
    hfile₁ ▸ hopened⟩
  · rw [hamountSat, hamount]
  · rw [hamountSat, hservice]
    exact hmoved

theorem openFromWallet_ends {request : StreamingRouteOpenCashuSpilmanChannelFromWalletRequest}
    (hcrates : crates.Faithful codec) (hcodec : codec.Faithful) :
    Ends (openStreamingRouteCashuSpilmanChannelFromWallet crates codec dataDir request world) s
      (OpeningFails codec world s) (OpeningDone crates codec request world s) := by
  refine orMessage_bind (fun _ => .same _) fun _ _ => ?_
  refine orMessage_bind (fun _ => .same _) fun _ _ => ?_
  exact .attempt_bind (fun _ _ => .same _) fun _ _ => openChannel_ends hcrates hcodec

/-- What happens to the wallet and to the file: openings, with the wallet's money or a token, the
other calls of the wallet with the answers of its database, and other sessions on the file. -/
inductive ChannelStep (F P : Type) where
  | openChannel (request : StreamingRouteOpenCashuSpilmanChannelFromWalletRequest)
      (world : OpeningWorld) (answers : List (Option String))
  | openWithToken (request : StreamingRouteOpenCashuSpilmanChannelFromTokenRequest)
      (swap : String → String → Except String String) (world : OpeningWorld)
  | wallet (call : ServiceCall) (answers : List (Option String))
  | session (steps : List (StoreChange F P × WriteOutcome))

def ChannelStep.activityId : ChannelStep F P → Option String
  | .openChannel _ world _ => some world.cdk.activityId
  | .openWithToken _ _ _ => none
  | .wallet call _ => call.activityId
  | .session _ => none

def ChannelStep.Removes (channelId : String) : ChannelStep F P → Prop
  | .session steps => ∃ outcome, (.delete channelId, outcome) ∈ steps
  | _ => False

def OpeningState.answered (self : OpeningState) (answers : List (Option String)) : OpeningState :=
  { self with
    service := { self.service with connection := { self.service.connection with answers } } }

structure ChannelRun where
  state : OpeningState
  errors : List WalletError

namespace ChannelRun

def start (database : WalletDatabase) (file : Option String) : ChannelRun :=
  ⟨⟨(ServiceRun.start database).state, file⟩, []⟩

def service (self : ChannelRun) : ServiceRun := ⟨self.state.service, self.errors⟩

def called (errors : List WalletError) : EStateM.Result WalletError OpeningState α → ChannelRun
  | .ok _ state => ⟨state, errors⟩
  | .error e state => ⟨state, errors ++ [e]⟩

end ChannelRun

section

variable (crates : ChannelCrates F P) (codec : StoreFileCodec F P) (dataDir : Path)

def callOpening (request : StreamingRouteOpenCashuSpilmanChannelFromWalletRequest)
    (world : OpeningWorld) (s : OpeningState) : EStateM.Result WalletError OpeningState
      StreamingRouteOpenCashuSpilmanChannelFromWalletResult :=
  openStreamingRouteCashuSpilmanChannelFromWallet crates codec dataDir request world s

namespace ChannelRun

def exec (r : ChannelRun) : ChannelStep F P → ChannelRun
  | .openChannel request world answers =>
    .called r.errors (callOpening crates codec dataDir request world (r.state.answered answers))
  | .openWithToken request swap world =>
    .called r.errors (openStreamingRouteCashuSpilmanChannelFromTokenWithNetworking crates codec
      dataDir request swap world r.state)
  | .wallet call answers =>
    let service := r.service.exec crates.wallet (call, answers)
    ⟨{ r.state with service := service.state }, service.errors⟩
  | .session steps => { r with state.file := afterSession codec steps r.state.file }

def after (r : ChannelRun) (steps : List (ChannelStep F P)) : ChannelRun :=
  steps.foldl (exec crates codec dataDir) r

end ChannelRun

end

def OpeningTells (crates : ChannelCrates F P) (codec : StoreFileCodec F P)
    (request : StreamingRouteOpenCashuSpilmanChannelFromWalletRequest) (world : OpeningWorld)
    (s : OpeningState) : EStateM.Result WalletError OpeningState
      StreamingRouteOpenCashuSpilmanChannelFromWalletResult → Prop
  | .ok result s' => OpeningDone crates codec request world s result s'
  | .error e s' => OpeningFails codec world s e s'

theorem callOpening_tells (hcrates : crates.Faithful codec) (hcodec : codec.Faithful)
    (request : StreamingRouteOpenCashuSpilmanChannelFromWalletRequest) :
    OpeningTells crates codec request world s
      (callOpening crates codec dataDir request world s) := by
  have hends := @openFromWallet_ends F P crates codec world dataDir s request hcrates hcodec
  unfold callOpening
  cases hcall : openStreamingRouteCashuSpilmanChannelFromWallet crates codec dataDir request world s
    with
  | ok result s' => exact hends.of_ok hcall
  | error e s' => exact hends.of_error hcall

theorem openWithToken_tells (hcrates : crates.Faithful codec) (hcodec : codec.Faithful)
    (request : StreamingRouteOpenCashuSpilmanChannelFromTokenRequest)
    (swap : String → String → Except String String) :
    TokenOpeningTells crates codec request swap world s
      (openStreamingRouteCashuSpilmanChannelFromTokenWithNetworking crates codec dataDir request
        swap world s) := by
  have hends : Ends (openStreamingRouteCashuSpilmanChannelFromTokenWithNetworking crates codec
      dataDir request swap world) s
      (fun _ s' => s'.service = s.service ∧ KeptFile codec s.file s'.file)
      fun result s' => s'.service = s.service ∧ ∃ unit,
        StreamingRouteCashuUnit.parse request.unit = .ok unit ∧
        ChannelOpened crates codec request swap world unit s.file result s'.file :=
    orMessage_bind (fun _ => ⟨rfl, .same s.file⟩) fun _ _ => openFromToken_ends hcrates hcodec
  cases hcall : openStreamingRouteCashuSpilmanChannelFromTokenWithNetworking crates codec dataDir
      request swap world s with
  | ok result s' => exact hends.of_ok hcall
  | error e s' => exact hends.of_error hcall

theorem TokenOpeningTells.kept {request : StreamingRouteOpenCashuSpilmanChannelFromTokenRequest}
    {swap : String → String → Except String String} {errors : List WalletError}
    {result : EStateM.Result WalletError OpeningState StreamingRouteOpenCashuSpilmanChannelResult}
    (h : TokenOpeningTells crates codec request swap world s result) :
    (ChannelRun.called errors result).state.service = s.service ∧
      KeptFile codec s.file (ChannelRun.called errors result).state.file := by
  cases result with
  | ok result s' =>
    obtain ⟨hservice, unit, -, hopened⟩ := h
    exact ⟨hservice, hopened.kept⟩
  | error e s' => exact h

section

variable {r : ChannelRun} {history : List CashuWalletActivityEntry}

theorem LogKept.reported {wallet : ServiceCrates} {service : ServiceState}
    {errors : List WalletError} (h : LogKept wallet ⟨service, errors⟩ history)
    (more : List WalletError) : LogKept wallet ⟨service, errors ++ more⟩ history :=
  @LogKept.unrecorded _ _ _ _ [] [] more h rfl (List.append_nil _).symm (by simp) (by simp) .nil

theorem Advances.opening {request : StreamingRouteOpenCashuSpilmanChannelFromWalletRequest}
    {errors : List WalletError} {result : EStateM.Result WalletError OpeningState
      StreamingRouteOpenCashuSpilmanChannelFromWalletResult}
    (h : OpeningTells crates codec request world s result) :
    Advances crates.wallet (some world.cdk.activityId) ⟨s.service, errors⟩
      (ChannelRun.called errors result).service := by
  cases result with
  | ok result s' =>
    obtain ⟨json, keysetId, prepared, -, -, -, hmoved, -⟩ := OpeningDone.done h
    exact .moved rfl hmoved
  | error e s' =>
    rcases h with ⟨-, hfailed⟩ | ⟨-, mintUrl, amountSat, keysetId, prepared, token, hmoved⟩
    · exact .failed hfailed
    · intro history hkept hids
      have hadvances : Advances crates.wallet (some world.cdk.activityId) ⟨s.service, errors⟩
          ⟨s'.service, errors⟩ := .moved rfl hmoved
      obtain ⟨history', hkept', hcontinues, hsub⟩ := hadvances history hkept hids
      exact ⟨history', hkept'.reported [e], hcontinues, hsub⟩

theorem Advances.called {wallet : ServiceCrates} {errors : List WalletError}
    {result : EStateM.Result WalletError OpeningState α}
    (h : (ChannelRun.called errors result).state.service = s.service) :
    Advances wallet none ⟨s.service, errors⟩ (ChannelRun.called errors result).service := by
  cases result with
  | ok a s' =>
    have hshown : s'.service.connection.tables.shown = s.service.connection.tables.shown :=
      congrArg (fun service => service.connection.tables.shown) h
    exact .quiet hshown (congrArg ServiceState.effects h)
  | error e s' =>
    have hsame : FailedWith s.service e s'.service := by
      rw [show s'.service = s.service from h]
      exact (SameLog.refl s.service).failed e
    exact .failed hsame

theorem ChannelRun.exec_advances (hcrates : crates.Faithful codec) (hcodec : codec.Faithful)
    (dataDir : Path) (r : ChannelRun) (step : ChannelStep F P) :
    Advances crates.wallet step.activityId r.service
      (r.exec crates codec dataDir step).service := by
  cases step with
  | openChannel request world answers =>
    intro history hkept hids
    exact Advances.opening (callOpening_tells hcrates hcodec request) history
      (hkept.answered answers) hids
  | openWithToken request swap world =>
    exact .called (openWithToken_tells hcrates hcodec request swap).kept.1
  | wallet call answers => exact r.service.exec_advances (call, answers)
  | session steps => exact .quiet rfl rfl

theorem OpeningTells.keptFile {request : StreamingRouteOpenCashuSpilmanChannelFromWalletRequest}
    {errors : List WalletError} {result : EStateM.Result WalletError OpeningState
      StreamingRouteOpenCashuSpilmanChannelFromWalletResult}
    (h : OpeningTells crates codec request world s result) :
    KeptFile codec s.file (ChannelRun.called errors result).state.file := by
  cases result with
  | ok result s' =>
    obtain ⟨json, keysetId, prepared, -, -, -, -, hopened⟩ := OpeningDone.done h
    exact hopened.kept
  | error e s' =>
    rcases h with ⟨hfile, -⟩ | ⟨hfile, -⟩
    · change KeptFile codec s.file s'.file
      rw [hfile]
      exact .same s.file
    · exact hfile

theorem FundedOnDisk.exec (hcrates : crates.Faithful codec) (hcodec : codec.Faithful)
    {step : ChannelStep F P} (h : FundedOnDisk codec channelId r.state.file)
    (hkeeps : ¬step.Removes channelId) :
    FundedOnDisk codec channelId (r.exec crates codec dataDir step).state.file := by
  have hkept : ∀ {file}, KeptFile codec r.state.file file → FundedOnDisk codec channelId file := by
    rintro _ ⟨steps, hsteps, rfl⟩
    exact h.afterSession hcodec fun step hstep => hsteps step hstep channelId
  cases step with
  | openChannel request world answers =>
    have htells := @callOpening_tells F P crates codec world dataDir (r.state.answered answers)
      hcrates hcodec request
    exact hkept htells.keptFile
  | openWithToken request swap world =>
    exact hkept (openWithToken_tells hcrates hcodec request swap).kept.2
  | wallet call answers => exact h
  | session steps =>
    refine h.afterSession hcodec fun step hstep hdelete => hkeeps ⟨step.2, ?_⟩
    rwa [← hdelete]

theorem FundedOnDisk.after (hcrates : crates.Faithful codec) (hcodec : codec.Faithful)
    {steps : List (ChannelStep F P)} (h : FundedOnDisk codec channelId r.state.file)
    (hkeeps : ∀ step ∈ steps, ¬step.Removes channelId) :
    FundedOnDisk codec channelId (r.after crates codec dataDir steps).state.file := by
  induction steps generalizing r with
  | nil => exact h
  | cons step steps ih =>
    obtain ⟨hfirst, hrest⟩ := List.forall_mem_cons.mp hkeeps
    exact ih (h.exec hcrates hcodec hfirst) hrest

end

end

end CashuService
