import CashuService.Base.Serde
import CashuService.Client.SpilmanClient
import CashuService.Wallet.Proofs
set_option autoImplicit false

namespace CashuService

/-! `spilman_refund.rs`: what a buyer gets back of a settled channel. -/

/-- What the code reads of `cdk_spilman::ClientChannelFunding`. -/
structure ClientChannelFunding where
  paramsJson : String
  fundingProofsJson : String
  channelSecretHex : String
  keysetInfoJson : String
  senderPubkeyHex : String
  mintUrl : String
  deriving DecidableEq, Repr

structure StreamingRouteRestoreCashuSpilmanRefundResult where
  channelId : String
  mintUrl : String
  unit : String
  complete : Bool
  recoveredAmountSat : UInt64
  importedAmountSat : UInt64
  proofCount : Nat
  deriving DecidableEq, Repr

/-- What the code uses of other crates. The types are those of `cdk_spilman` and `cashu` for the
keyset, the parameters and the channel, and for a secret key. -/
structure RefundCrates (K Q C S : Type) where
  proofs : ProofCrates
  encodeProofs : List Proof → Except Anyhow String
  parseJson : String → Except Anyhow Json
  parseKeysetInfoFromJson : String → Except String K
  hexDecode : String → Except Anyhow (List UInt8)
  channelParameters : String → K → Vector UInt8 32 → Except Anyhow Q
  establishedChannel : Q → List Proof → Except Anyhow C
  secretKeyFromHex : String → Except Anyhow S

/-- Proofs that are written are read again, and the query for points finds them. -/
structure RefundCrates.Faithful {K Q C S : Type} (crates : RefundCrates K Q C S) : Prop where
  query : crates.proofs.Faithful
  reads : ∀ proofs json, crates.encodeProofs proofs = .ok json →
    crates.proofs.parseProofs json = .ok proofs

/-- What one call finds: the lock, the file that is read, the key of the sender, the answers of the
mint, the wallet, and what becomes of the write. -/
structure RefundWorld where
  acquired : Except String SharedSpilmanClientStoreLock
  readError : Option String
  senderKey : Except String CashuSpilmanSenderKeyFile
  outputKeysetJson : Except String String
  fundingState : Except Anyhow ProofState
  restoredProofs : Except Anyhow (List Proof)
  openWallet : Except WalletError Unit
  importing : ImportWorld
  write : WriteOutcome

structure RefundState where
  connection : Connection String WalletDatabase
  file : Option String

abbrev RefundM := EStateM WalletError RefundState

section

variable {α σ K Q C S P : Type}

def WalletError.ofMessage (message : String) : WalletError := ⟨[], .other message⟩

def orMessage (result : Except String α) : EStateM WalletError σ α :=
  attempt (result.mapError WalletError.ofMessage)

def orChain (result : Except Anyhow α) : EStateM WalletError σ α :=
  attempt (result.mapError .ofChain)

section

variable {β : Type} {s : σ} {err : WalletError → σ → Prop} {ok : β → σ → Prop}
  {f : α → EStateM WalletError σ β}

theorem orMessage_bind {result : Except String α} (herr : ∀ e, err e s)
    (hf : ∀ a, result = .ok a → Ends (f a) s err ok) : Ends (orMessage result >>= f) s err ok :=
  .attempt_bind (fun e _ => herr e) fun a ha => hf a (Except.mapError_eq_ok.mp ha)

theorem orChain_bind {result : Except Anyhow α} (herr : ∀ e, err e s)
    (hf : ∀ a, result = .ok a → Ends (f a) s err ok) : Ends (orChain result >>= f) s err ok :=
  .attempt_bind (fun e _ => herr e) fun a ha => hf a (Except.mapError_eq_ok.mp ha)

end

def completeResult (channelId mintUrl unit : String)
    (recoveredAmountSat importedAmountSat : UInt64) (proofCount : Nat) :
    StreamingRouteRestoreCashuSpilmanRefundResult where
  channelId := channelId
  mintUrl := mintUrl
  unit := unit
  complete := true
  recoveredAmountSat := recoveredAmountSat
  importedAmountSat := importedAmountSat
  proofCount := proofCount

/-- `import_payment_proofs` of a data directory, whose wallet is opened first. -/
def importRefund (crates : RefundCrates K Q C S) (world : RefundWorld)
    (mintUrl unit proofsJson : String) : RefundM CashuReceivedPayment := do
  attempt world.openWallet
  zoom RefundState.connection (fun connection s => { s with connection })
    (importPaymentProofs crates.proofs world.importing mintUrl unit proofsJson)

def collectRefund (crates : RefundCrates K Q C S) (world : RefundWorld) (mintUrl unit : String)
    (proofs : List Proof) : RefundM UInt64 :=
  if proofs = [] then return 0
  else do
    let proofsJson ← orChain (crates.encodeProofs proofs)
    let payment ← importRefund crates world mintUrl unit proofsJson
    return payment.amountSat

variable (crates : RefundCrates K Q C S) (codec : StoreFileCodec ClientChannelFunding P)

/-- `FileSpilmanClientStorage::load_with_lock`. -/
def loadRefundStorage (world : RefundWorld) :
    RefundM (FileSpilmanClientStorage ClientChannelFunding P) := do
  let s ← get
  orMessage (loadWithLock codec (match world.readError with
    | some error => .error error
    | none => .ok s.file))

def closeChannel (world : RefundWorld) (storage : FileSpilmanClientStorage ClientChannelFunding P)
    (channelId : String) : RefundM Unit := do
  let s ← get
  let session := StoreSession.change codec ⟨storage, s.file⟩ (.setClosed channelId, world.write)
  modify fun s => { s with file := session.file }
  orMessage session.storage.ensureOk

def openRefundChannel (world : RefundWorld) (funding : ClientChannelFunding) : RefundM S := do
  let originalKeyset ← orMessage (crates.parseKeysetInfoFromJson funding.keysetInfoJson)
  let secret ← orChain (crates.hexDecode funding.channelSecretHex)
  if h : secret.length = 32 then
    let params ← orChain (crates.channelParameters funding.paramsJson originalKeyset
      ⟨secret.toArray, by simpa using h⟩)
    let fundingProofs ← orChain (crates.proofs.parseProofs funding.fundingProofsJson)
    let _ ← orChain (crates.establishedChannel params fundingProofs)
    let senderKey ← orMessage world.senderKey
    if senderKey.publicKeyHex ≠ funding.senderPubkeyHex then
      throw (.ofMessage "Cashu Spilman channel sender key does not match local wallet key")
    else orChain (crates.secretKeyFromHex senderKey.secretHex)
  else throw (.ofMessage "invalid Cashu Spilman channel secret length")

def restoreOpenRefund (world : RefundWorld)
    (storage : FileSpilmanClientStorage ClientChannelFunding P) (channelId unit : String)
    (funding : ClientChannelFunding) : RefundM StreamingRouteRestoreCashuSpilmanRefundResult := do
  let _ ← openRefundChannel crates world funding
  let outputKeysetJson ← orMessage world.outputKeysetJson
  let _ ← orMessage (crates.parseKeysetInfoFromJson outputKeysetJson)
  let fundingState ← orChain world.fundingState
  if fundingState ≠ .spent then
    return {
      channelId
      mintUrl := funding.mintUrl
      unit
      complete := false
      recoveredAmountSat := 0
      importedAmountSat := 0
      proofCount := 0 }
  else
    let proofs ← orChain world.restoredProofs
    let recoveredAmountSat := proofs.foldl (fun sum proof => sum + proof.amount) 0
    let importedAmountSat ← collectRefund crates world funding.mintUrl unit proofs
    closeChannel codec world storage channelId
    return completeResult channelId funding.mintUrl unit recoveredAmountSat importedAmountSat
      proofs.length

def restoreStreamingRouteCashuSpilmanRefundWithLock (dataDir : Path) (channelId : String)
    (lock : SharedSpilmanClientStoreLock) (world : RefundWorld) :
    RefundM StreamingRouteRestoreCashuSpilmanRefundResult := do
  let channelId := trim channelId
  if channelId = "" then throw (.ofMessage "missing Cashu Spilman channel id")
  else
    let _ ← orMessage (requireLockForDataDir dataDir lock)
    let storage ← loadRefundStorage codec world
    let funding ← attempt (okOr (storage.getFunding channelId)
      (.ofMessage s!"Cashu Spilman channel not found: {channelId}"))
    let params ← orChain (crates.parseJson funding.paramsJson)
    let unit := ((params.get? "unit").bind Json.asStr?).getD "sat"
    if storage.getState channelId = .closed then
      return completeResult channelId funding.mintUrl unit 0 0 0
    else restoreOpenRefund crates codec world storage channelId unit funding

def restoreStreamingRouteCashuSpilmanRefund (dataDir : Path) (channelId : String)
    (world : RefundWorld) : RefundM StreamingRouteRestoreCashuSpilmanRefundResult := do
  let lock ← orMessage world.acquired
  restoreStreamingRouteCashuSpilmanRefundWithLock crates codec dataDir channelId lock world

end
end CashuService
