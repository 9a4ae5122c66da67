import CashuService.Client.SpilmanRefund
import CashuService.Spilman.RoutePayment
import CashuService.Wallet.Service
import Mathlib.Data.List.MinMax
set_option autoImplicit false

namespace CashuService

/-! `spilman_client.rs`: a buyer opens a channel, with a token or from its wallet. -/

structure StreamingRouteOpenCashuSpilmanChannelFromTokenRequest where
  token : String
  receiverPubkeyHex : String
  senderSecretHex : Option String
  expiryUnix : UInt64
  keysetInfoJson : String
  maxAmountPerOutput : UInt64
  unit : String
  openingPaidMsat : UInt64

structure StreamingRouteOpenCashuSpilmanChannelResult where
  channelId : String
  mintUrl : String
  senderPubkeyHex : String
  receiverPubkeyHex : String
  unit : String
  capacity : UInt64
  capacitySat : UInt64
  fundingTokenAmount : UInt64
  expiresUnix : UInt64
  openingPaidMsat : UInt64
  payment : CashuSpilmanPayment

structure StreamingRouteOpenCashuSpilmanChannelFromWalletRequest where
  mintUrl : String
  receiverPubkeyHex : String
  capacitySat : UInt64
  expiryUnix : UInt64
  maxAmountPerOutput : UInt64
  unit : String
  openingPaidMsat : UInt64
  keysetId : Option String
  keysetInfoJson : Option String

structure StreamingRouteOpenCashuSpilmanChannelFromWalletResult where
  channel : StreamingRouteOpenCashuSpilmanChannelResult
  walletSend : CashuSentPayment

structure OpenChannelResult where
  channelId : String
  mintUrl : String
  senderPubkeyHex : String
  capacity : UInt64
  fundingTokenAmount : UInt64

structure HttpResponse where
  status : String
  success : Bool
  text : Except String String

structure Http where
  post : String → String → Except String HttpResponse
  get : String → Except String (Except String Json)

/-- What the code uses of other crates. `F` is what `cdk_spilman` keeps of the funding of a channel,
`P` of its payments. A bridge first has the secret key of its sender. -/
structure ChannelCrates (F P : Type) where
  wallet : ServiceCrates
  addKeyFromHex : String → Except String String
  printJson : Json → String
  computeFundingTokenAmount : UInt64 → String → UInt64 → Except String UInt64
  /-- The id of the keyset. -/
  parseKeysetInfoFromJson : String → Except String String
  openChannelFromToken : String → (token receiverPubkeyHex senderPubkeyHex : String) → UInt64 →
    String → UInt64 → (String → String → Except String String) →
    FileSpilmanClientStorage F P → Bridge F P OpenChannelResult
  createPaymentWithFunding : String → String → UInt64 →
    FileSpilmanClientStorage F P → Bridge F P CashuSpilmanPayment

/-- What one call finds: the lock, the wallet, the network, the answers of `cdk`, the file that is
read, the key of the sender, and what becomes of the writes, as far as the process gets. -/
structure OpeningWorld where
  acquired : Except String SharedSpilmanClientStoreLock
  openWallet : Except WalletError Unit
  http : Http
  cdk : CdkWorld
  readError : Option String
  senderKey : Except String CashuSpilmanSenderKeyFile
  writes : List WriteOutcome

/-- The wallet and the file of the channels. -/
structure OpeningState where
  service : ServiceState
  file : Option String

abbrev OpeningM := EStateM WalletError OpeningState

def StreamingRouteCashuUnit.capacityToSat : StreamingRouteCashuUnit → UInt64 → UInt64
  | .sat, capacity => capacity
  | .msat, capacity => capacity.divCeil 1000

def isAsciiHexdigit (c : Char) : Bool :=
  c.isDigit || ('a' ≤ c && c ≤ 'f') || ('A' ≤ c && c ≤ 'F')

def normalizeSpilmanReceiverPubkeyHex (value : String) : String :=
  let trimmed := trim value
  let hex := match trimmed.toList with
    | '0' :: 'x' :: rest => String.ofList rest
    | _ => trimmed
  if hex.utf8ByteSize = 64 ∧ hex.toList.all isAsciiHexdigit then "02" ++ hex else trimmed

namespace HttpSpilmanClientNetworking

def callMintSwap (http : Http) (mintUrl swapRequestJson : String) : Except String String :=
  match http.post (trimEndMatches '/' mintUrl ++ "/v1/swap") swapRequestJson with
  | .error error => .error s!"Cashu mint swap request failed: {error}"
  | .ok response =>
    match response.text with
    | .error error => .error s!"failed to read Cashu mint swap response: {error}"
    | .ok body =>
      if response.success then .ok body
      else .error s!"Cashu mint swap failed with {response.status}: {body}"

end HttpSpilmanClientNetworking

def fetchJson (http : Http) (url what : String) : Except String Json :=
  match http.get url with
  | .error error => .error s!"failed to fetch Cashu mint {what}: {error}"
  | .ok (.error error) => .error s!"failed to decode Cashu mint {what}: {error}"
  | .ok (.ok json) => .ok json

def inputFeePpk (entry : Json) : UInt64 := ((entry.get? "input_fee_ppk").bind Json.asU64?).getD 0

def isSelectable (unit : String) (keysetId : Option String) (entry : Json) : Bool :=
  let entryId := (entry.get? "id").bind Json.asStr?
  let entryUnit := ((entry.get? "unit").bind Json.asStr?).map toAsciiLowercase
  let active := ((entry.get? "active").bind Json.asBool?).getD false
  entryUnit == some unit && match keysetId with
    | none => active
    | some expected => entryId == some expected

def selectSpilmanKeyset (keysets : List Json) (unit : String) (keysetId : Option String) :
    Option Json :=
  (keysets.filter (isSelectable unit keysetId)).argmin fun entry => (inputFeePpk entry).toNat

def keysetInfo (selectedId unit : String) (keys : Json) (selected : Json) : Json :=
  let finalExpiry := (selected.get? "final_expiry").bind Json.asU64?
  .object ([("keysetId", .string selectedId), ("unit", .string unit), ("keys", keys),
    ("inputFeePpk", .ofU64 (inputFeePpk selected))] ++
      (finalExpiry.map fun expiry => ("finalExpiry", Json.ofU64 expiry)).toList)

def fetchSpilmanKeysetInfoJson (http : Http) (printJson : Json → String) (mintUrl unit : String)
    (keysetId : Option String) : Except String String := do
  let mintUrl := trimEndMatches '/' mintUrl
  let keysetsResponse ← fetchJson http (mintUrl ++ "/v1/keysets") "keysets"
  let keysets ← okOr ((keysetsResponse.get? "keysets").bind Json.asArray?)
    "Cashu mint keysets response is missing keysets"
  let unit := toAsciiLowercase (trim unit)
  let selected ← okOr (selectSpilmanKeyset keysets unit keysetId) (match keysetId with
    | none => s!"Cashu mint has no active {unit} keyset"
    | some id => s!"Cashu mint has no {unit} keyset {id}")
  let selectedId ← okOr ((selected.get? "id").bind Json.asStr?)
    "selected Cashu mint keyset is missing id"
  let keysResponse ← fetchJson http (mintUrl ++ "/v1/keys/" ++ selectedId) "keys"
  let keys ← okOr ((((keysResponse.get? "keysets").bind Json.asArray?).bind List.head?).bind
    fun entry => entry.get? "keys") "Cashu mint keys response is missing keys"
  return printJson (keysetInfo selectedId unit keys selected)

section

variable {α F P : Type}

/-- The bridge on a storage. A process that has no write left was stopped there. -/
def Bridge.alone (codec : StoreFileCodec F P) : Bridge F P α → StoreSession F P →
    List WriteOutcome → Except String α × StoreSession F P × List WriteOutcome
  | .done result, session, writes => (result, session, writes)
  | .change _ _, session, [] => (.error "stopped", session, [])
  | .change step next, session, outcome :: writes =>
    let session := session.change codec (step, outcome)
    (next session.storage).alone codec session writes

variable (crates : ChannelCrates F P) (codec : StoreFileCodec F P)

def callBridge (work : FileSpilmanClientStorage F P → Bridge F P α)
    (storage : FileSpilmanClientStorage F P) (writes : List WriteOutcome) :
    OpeningM (α × FileSpilmanClientStorage F P × List WriteOutcome) := do
  let s ← get
  let (result, session, writes) := (work storage).alone codec ⟨storage, s.file⟩ writes
  modify fun s => { s with file := session.file }
  let a ← orMessage result
  return (a, session.storage, writes)

/-- `FileSpilmanClientStorage::load_with_lock`. -/
def loadOpeningStorage (world : OpeningWorld) : OpeningM (FileSpilmanClientStorage F P) := do
  let s ← get
  orMessage (loadWithLock codec (match world.readError with
    | some error => .error error
    | none => .ok s.file))

def openingSender (world : OpeningWorld) (senderSecretHex : Option String) :
    Except String CashuSpilmanSenderKeyFile :=
  match senderSecretHex with
  | some secretHex => do
    let publicKeyHex ← crates.addKeyFromHex secretHex
    return ⟨spilmanSenderKeyVersion, secretHex, publicKeyHex⟩
  | none => world.senderKey

def openStreamingRouteCashuSpilmanChannelFromTokenWithNetworkingAndLock (dataDir : Path)
    (request : StreamingRouteOpenCashuSpilmanChannelFromTokenRequest)
    (callMintSwap : String → String → Except String String) (lock : SharedSpilmanClientStoreLock)
    (world : OpeningWorld) : OpeningM StreamingRouteOpenCashuSpilmanChannelResult := do
  let _ ← orMessage (requireLockForDataDir dataDir lock)
  let storage ← loadOpeningStorage codec world
  let sender ← orMessage (openingSender crates world request.senderSecretHex)
  let senderPubkeyHex ← orMessage (crates.addKeyFromHex sender.secretHex)
  let receiverPubkeyHex := normalizeSpilmanReceiverPubkeyHex request.receiverPubkeyHex
  let (opened, storage, writes) ← callBridge codec
    (crates.openChannelFromToken sender.secretHex request.token receiverPubkeyHex senderPubkeyHex
      request.expiryUnix request.keysetInfoJson request.maxAmountPerOutput callMintSwap)
    storage world.writes
  let unit ← orMessage (StreamingRouteCashuUnit.parse request.unit)
  let openingBalance := unit.balanceFromMsat request.openingPaidMsat
  let (payment, storage, _) ← callBridge codec
    (crates.createPaymentWithFunding sender.secretHex opened.channelId openingBalance)
    storage writes
  orMessage storage.ensureOk
  return {
    channelId := opened.channelId
    mintUrl := opened.mintUrl
    senderPubkeyHex := opened.senderPubkeyHex
    receiverPubkeyHex
    unit := unit.asStr
    capacity := opened.capacity
    capacitySat := unit.capacityToSat opened.capacity
    fundingTokenAmount := opened.fundingTokenAmount
    expiresUnix := request.expiryUnix
    openingPaidMsat := unit.balanceToMsat payment.balance
    payment }

def openStreamingRouteCashuSpilmanChannelFromTokenWithNetworking (dataDir : Path)
    (request : StreamingRouteOpenCashuSpilmanChannelFromTokenRequest)
    (callMintSwap : String → String → Except String String) (world : OpeningWorld) :
    OpeningM StreamingRouteOpenCashuSpilmanChannelResult := do
  let lock ← orMessage world.acquired
  openStreamingRouteCashuSpilmanChannelFromTokenWithNetworkingAndLock crates codec dataDir request
    callMintSwap lock world

def requestedKeysetInfo (world : OpeningWorld) (unit : StreamingRouteCashuUnit)
    (request : StreamingRouteOpenCashuSpilmanChannelFromWalletRequest) : Except String String :=
  match request.keysetInfoJson with
  | some json => .ok json
  | none => fetchSpilmanKeysetInfoJson world.http crates.printJson request.mintUrl unit.asStr
      request.keysetId

def tokenRequest (request : StreamingRouteOpenCashuSpilmanChannelFromWalletRequest)
    (unit : StreamingRouteCashuUnit) (keysetInfoJson : String) (walletSend : CashuSentPayment) :
    StreamingRouteOpenCashuSpilmanChannelFromTokenRequest where
  token := walletSend.token
  receiverPubkeyHex := request.receiverPubkeyHex
  senderSecretHex := none
  expiryUnix := request.expiryUnix
  keysetInfoJson := keysetInfoJson
  maxAmountPerOutput := request.maxAmountPerOutput
  unit := unit.asStr
  openingPaidMsat := request.openingPaidMsat

def openStreamingRouteCashuSpilmanChannelWithLock (dataDir : Path)
    (request : StreamingRouteOpenCashuSpilmanChannelFromWalletRequest)
    (lock : SharedSpilmanClientStoreLock) (world : OpeningWorld) :
    OpeningM StreamingRouteOpenCashuSpilmanChannelFromWalletResult := do
  let lock ← orMessage (requireLockForDataDir dataDir lock)
  if request.capacitySat = 0 then
    throw (.ofMessage "Cashu Spilman channel capacity must be greater than zero")
  else
    let unit ← orMessage (StreamingRouteCashuUnit.parse request.unit)
    if unit ≠ .sat then
      throw (.ofMessage
        "wallet-backed Cashu Spilman channel opening currently supports sat only")
    else
      let keysetInfoJson ← orMessage (requestedKeysetInfo crates world unit request)
      let fundingTokenAmount ← orMessage (crates.computeFundingTokenAmount request.capacitySat
        keysetInfoJson request.maxAmountPerOutput)
      let fundingKeysetId ← orMessage (crates.parseKeysetInfoFromJson keysetInfoJson)
      let walletSend ← zoom OpeningState.service (fun service s => { s with service })
        (sendPaymentTokenForKeyset crates.wallet world.cdk request.mintUrl fundingTokenAmount
          fundingKeysetId)
      let channel ← openStreamingRouteCashuSpilmanChannelFromTokenWithNetworkingAndLock crates codec
        dataDir (tokenRequest request unit keysetInfoJson walletSend)
        (HttpSpilmanClientNetworking.callMintSwap world.http) lock world
      return { channel, walletSend }

def openStreamingRouteCashuSpilmanChannel (dataDir : Path)
    (request : StreamingRouteOpenCashuSpilmanChannelFromWalletRequest) (world : OpeningWorld) :
    OpeningM StreamingRouteOpenCashuSpilmanChannelFromWalletResult := do
  let lock ← orMessage world.acquired
  openStreamingRouteCashuSpilmanChannelWithLock crates codec dataDir request lock world

def openStreamingRouteCashuSpilmanChannelFromWalletWithLock (dataDir : Path)
    (request : StreamingRouteOpenCashuSpilmanChannelFromWalletRequest)
    (lock : SharedSpilmanClientStoreLock) (world : OpeningWorld) :
    OpeningM StreamingRouteOpenCashuSpilmanChannelFromWalletResult := do
  let lock ← orMessage (requireLockForDataDir dataDir lock)
  attempt world.openWallet
  openStreamingRouteCashuSpilmanChannelWithLock crates codec dataDir request lock world

def openStreamingRouteCashuSpilmanChannelFromWallet (dataDir : Path)
    (request : StreamingRouteOpenCashuSpilmanChannelFromWalletRequest) (world : OpeningWorld) :
    OpeningM StreamingRouteOpenCashuSpilmanChannelFromWalletResult := do
  let lock ← orMessage world.acquired
  openStreamingRouteCashuSpilmanChannelFromWalletWithLock crates codec dataDir request lock world

end
end CashuService
