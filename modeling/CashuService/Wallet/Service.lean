import CashuService.Wallet.ActivityLoad
import CashuService.Wallet.Proofs
set_option autoImplicit false

namespace CashuService

/-! `wallet.rs` and `wallet/send.rs`: what a wallet does with money, and what it records of that. -/

structure CashuTopupQuote where
  mintUrl : String
  unit : String
  amount : UInt64
  quoteId : String
  paymentRequest : String
  expiryUnix : UInt64
  deriving DecidableEq, Repr

structure CashuSentPayment where
  mintUrl : String
  unit : String
  amountSat : UInt64
  sendFeeSat : UInt64
  operationId : String
  token : String
  deriving DecidableEq, Repr

structure CashuLightningPayment where
  mintUrl : String
  unit : String
  amountSat : UInt64
  feePaidSat : UInt64
  quoteId : String
  preimage : String
  deriving DecidableEq, Repr

structure IncomingQuote where
  id : String
  request : String
  expiry : UInt64
  deriving DecidableEq, Repr

structure PreparedSend where
  operationId : String
  proofs : List Proof
  sendFee : UInt64
  deriving DecidableEq, Repr

structure LightningMelt where
  quoteId : String
  state : MeltQuoteState
  amount : UInt64
  feePaid : UInt64
  paymentProof : Option String
  deriving DecidableEq, Repr

structure PaymentToken where
  mintUrl : Except Anyhow String
  unit : Option CurrencyUnit

structure ServiceCrates where
  proofs : ProofCrates
  parseUuid : String → Except Anyhow String
  parseToken : String → Except Anyhow PaymentToken

/-- What a call of `cdk` does to its own tables. The key of the activity is not its own. -/
structure TableChange where
  apply : WalletDatabase → WalletDatabase
  apart : ∀ database, (apply database).activity = database.activity

structure CdkAnswer (α : Type) where
  change : TableChange
  result : Except Anyhow α

/-- What the calls of `cdk` return to one call of the service, each of which is made at most once,
and the id and the time of a new activity. -/
structure CdkWorld where
  ensureSatWallet : Except WalletError Unit
  recoverIncompleteSagas : CdkAnswer Unit
  mintUnissuedQuotes : CdkAnswer Unit
  mintQuote : CdkAnswer IncomingQuote
  meltQuote : CdkAnswer String
  prepareMelt : CdkAnswer Unit
  confirmMelt : CdkAnswer LightningMelt
  receive : CdkAnswer UInt64
  fetchActiveKeyset : CdkAnswer String
  unspentProofs : CdkAnswer (List Proof)
  swap : CdkAnswer Unit
  prepareSend : CdkAnswer PreparedSend
  cancelSend : CdkAnswer Unit
  confirmSend : CdkAnswer String
  revokeSend : CdkAnswer UInt64
  activityId : String
  activityNowUnix : UInt64

/-- What the calls of `cdk` have done with money, as far as they have returned. -/
inductive WalletEffect where
  | quoted (mintUrl : String) (amountSat : UInt64) (quote : IncomingQuote)
  | paid (mintUrl paymentRequest : String) (melt : LightningMelt)
  | sent (mintUrl : String) (amountSat : UInt64) (requiredKeysetId : Option String)
      (prepared : PreparedSend) (token : String)
  | received (mintUrl token : String) (amountSat : UInt64)
  | revoked (operationUuid : String) (amountSat : UInt64)
  deriving DecidableEq, Repr

structure ServiceState where
  connection : Connection String WalletDatabase
  effects : List WalletEffect

abbrev ServiceM := EStateM WalletError ServiceState

section

variable {α : Type}

def onStore (x : WalletM α) : ServiceM α :=
  zoom ServiceState.connection (fun connection s => { s with connection }) x

def askCdk (text : String) (answer : CdkAnswer α) : ServiceM α := do
  onStore (modify fun c => { c with tables := answer.change.apply c.tables })
  attempt ((withContext text answer.result).mapError .ofChain)

def perform (text : String) (answer : CdkAnswer α) (effect : α → WalletEffect) : ServiceM α := do
  let a ← askCdk text answer
  modify fun s => { s with effects := s.effects ++ [effect a] }
  return a

/-- `bail!(message)`. -/
def bail (message : String) : ServiceM α := throw ⟨[], .other message⟩

end

def topupEntry (world : CdkWorld) (topupQuote : CashuTopupQuote) : CashuWalletActivityEntry where
  id := world.activityId
  kind := .topUp
  status := .pending
  mintUrl := topupQuote.mintUrl
  unit := topupQuote.unit
  amountSat := topupQuote.amount
  feeSat := none
  createdAtUnix := world.activityNowUnix
  expiresAtUnix := some topupQuote.expiryUnix
  quoteId := some topupQuote.quoteId
  operationId := none
  paymentRequest := some topupQuote.paymentRequest
  token := none

def lightningEntry (world : CdkWorld) (paymentRequest : String) (payment : CashuLightningPayment) :
    CashuWalletActivityEntry where
  id := world.activityId
  kind := .lightningPayment
  status := .complete
  mintUrl := payment.mintUrl
  unit := payment.unit
  amountSat := payment.amountSat
  feeSat := some payment.feePaidSat
  createdAtUnix := world.activityNowUnix
  expiresAtUnix := none
  quoteId := some payment.quoteId
  operationId := none
  paymentRequest := some paymentRequest
  token := none

def receiveEntry (world : CdkWorld) (payment : CashuReceivedPayment) :
    CashuWalletActivityEntry where
  id := world.activityId
  kind := .tokenReceive
  status := .complete
  mintUrl := payment.mintUrl
  unit := payment.unit
  amountSat := payment.amountSat
  feeSat := none
  createdAtUnix := world.activityNowUnix
  expiresAtUnix := none
  quoteId := none
  operationId := none
  paymentRequest := none
  token := none

def sendEntry (world : CdkWorld) (payment : CashuSentPayment) : CashuWalletActivityEntry where
  id := world.activityId
  kind := .tokenSend
  status := .pending
  mintUrl := payment.mintUrl
  unit := payment.unit
  amountSat := payment.amountSat
  feeSat := some payment.sendFeeSat
  createdAtUnix := world.activityNowUnix
  expiresAtUnix := none
  quoteId := none
  operationId := some payment.operationId
  paymentRequest := none
  token := some payment.token

def recordActivity (text : String) (entry : CashuWalletActivityEntry) : ServiceM Unit :=
  onStore (mapErr (·.context text) (appendWalletActivityEntry entry))

/-- The pending and the completed sends of an operation become reclaimed ones. -/
def reclaimEntry (operationId : String) (entry : CashuWalletActivityEntry) :
    CashuWalletActivityEntry :=
  if entry.kind = .tokenSend ∧ entry.operationId = some operationId ∧ entry.status ≠ .reclaimed then
    { entry with status := .reclaimed }
  else entry

def markWalletActivityReclaimed (operationId : String) : WalletM Unit := do
  let entries ← loadWalletActivityEntriesFromStore
  let _ ← keepRefreshed entries (entries.map (reclaimEntry operationId))

variable (crates : ServiceCrates) (world : CdkWorld)

def parseMintUrl (mintUrl : String) : ServiceM String := do
  let normalizedMint ← attempt ((normalizeMintUrl crates.proofs.url mintUrl).mapError .ofChain)
  let _ ← attempt ((withContext "Failed to parse normalized mint URL"
    (crates.proofs.mintUrlFromStr normalizedMint)).mapError .ofChain)
  return normalizedMint

def createTopupQuote (mintUrl : String) (amountSat : UInt64) : ServiceM CashuTopupQuote := do
  if amountSat = 0 then bail "Cashu topup amount must be greater than zero"
  else
    let normalizedMint ← parseMintUrl crates mintUrl
    attempt world.ensureSatWallet
    askCdk "Failed to recover Cashu wallet state before creating quote"
      world.recoverIncompleteSagas
    askCdk "Failed to refresh pending Cashu mint quotes before creating quote"
      world.mintUnissuedQuotes
    let quote ← perform "Failed to create Cashu mint quote" world.mintQuote
      fun quote => .quoted normalizedMint amountSat quote
    let topupQuote : CashuTopupQuote := {
      mintUrl := normalizedMint
      unit := CurrencyUnit.sat.toString
      amount := amountSat
      quoteId := quote.id
      paymentRequest := quote.request
      expiryUnix := quote.expiry }
    recordActivity "Failed to record Cashu top-up activity" (topupEntry world topupQuote)
    return topupQuote

def sendLightningPaymentWithWallet (normalizedMint paymentRequest : String) :
    ServiceM CashuLightningPayment := do
  askCdk "Failed to recover Cashu wallet state before sending Lightning payment"
    world.recoverIncompleteSagas
  let _ ← askCdk "Failed to create Cashu Lightning melt quote" world.meltQuote
  askCdk "Failed to prepare Cashu Lightning payment" world.prepareMelt
  let finalized ← perform "Failed to execute Cashu Lightning payment" world.confirmMelt
    fun finalized => .paid normalizedMint paymentRequest finalized
  if finalized.state ≠ .paid then
    bail s!"Cashu Lightning payment finished in unexpected state {finalized.state.toString}"
  else
    match finalized.paymentProof.filter (· ≠ "") with
    | none => bail "Cashu Lightning payment completed without a preimage"
    | some preimage => return {
        mintUrl := normalizedMint
        unit := CurrencyUnit.sat.toString
        amountSat := finalized.amount
        feePaidSat := finalized.feePaid
        quoteId := finalized.quoteId
        preimage }

def sendLightningPayment (mintUrl paymentRequest : String) : ServiceM CashuLightningPayment := do
  let normalizedMint ← parseMintUrl crates mintUrl
  attempt world.ensureSatWallet
  let payment ← sendLightningPaymentWithWallet world normalizedMint paymentRequest
  recordActivity "Failed to record Cashu Lightning payment activity"
    (lightningEntry world paymentRequest payment)
  return payment

def receivePaymentToken (encodedToken : String) : ServiceM CashuReceivedPayment := do
  let token ← attempt ((withContext "Failed to parse Cashu token"
    (crates.parseToken encodedToken)).mapError .ofChain)
  let mintUrl ← attempt ((withContext "Cashu token must contain exactly one mint"
    token.mintUrl).mapError .ofChain)
  let unit := token.unit.getD .sat
  if unit ≠ .sat then bail s!"Unsupported Cashu token unit: {unit.toString}"
  else
    let normalizedMint ← attempt ((normalizeMintUrl crates.proofs.url mintUrl).mapError .ofChain)
    attempt world.ensureSatWallet
    askCdk "Failed to recover Cashu wallet state before receiving payment"
      world.recoverIncompleteSagas
    let amountReceived ← perform "Failed to receive Cashu payment token" world.receive
      fun amountReceived => .received normalizedMint encodedToken amountReceived
    let payment : CashuReceivedPayment := {
      mintUrl := normalizedMint
      unit := CurrencyUnit.sat.toString
      amountSat := amountReceived }
    recordActivity "Failed to record Cashu receive activity" (receiveEntry world payment)
    return payment

def proofsRequireKeysetConsolidation (proofs : List Proof) (requiredKeysetId : String) : Bool :=
  proofs.any fun proof => proof.keysetId ≠ requiredKeysetId

def consolidateProofs (requiredKeysetId : String) : ServiceM Unit := do
  let activeKeysetId ← askCdk "Failed to load the active Cashu keyset" world.fetchActiveKeyset
  if activeKeysetId ≠ requiredKeysetId then
    bail s!"Cashu mint active keyset changed from {requiredKeysetId} to {activeKeysetId}"
  else
    let availableProofs ← askCdk "Failed to load Cashu proofs before payment" world.unspentProofs
    if proofsRequireKeysetConsolidation availableProofs requiredKeysetId then
      askCdk "Failed to consolidate Cashu proofs into the active keyset" world.swap
    else return ()

/-- A send of proofs of another keyset is given up. -/
def checkPrepared (prepared : PreparedSend) (requiredKeysetId : String) : ServiceM Unit :=
  if proofsRequireKeysetConsolidation prepared.proofs requiredKeysetId then do
    askCdk "Failed to release mixed-keyset Cashu payment proofs" world.cancelSend
    bail s!"Cashu payment proofs are not all from keyset {requiredKeysetId}"
  else return ()

def sendPaymentTokenWithKeyset (mintUrl : String) (amountSat : UInt64)
    (requiredKeysetId : Option String) : ServiceM CashuSentPayment := do
  if amountSat = 0 then bail "Cashu payment amount must be greater than zero"
  else
    let normalizedMint ← parseMintUrl crates mintUrl
    attempt world.ensureSatWallet
    askCdk "Failed to recover Cashu wallet state before sending payment"
      world.recoverIncompleteSagas
    requiredKeysetId.forM (consolidateProofs world)
    let prepared ← askCdk "Failed to prepare Cashu payment token" world.prepareSend
    requiredKeysetId.forM (checkPrepared world prepared)
    let token ← perform "Failed to create Cashu payment token" world.confirmSend
      fun token => .sent normalizedMint amountSat requiredKeysetId prepared token
    let payment : CashuSentPayment := {
      mintUrl := normalizedMint
      unit := CurrencyUnit.sat.toString
      amountSat
      sendFeeSat := prepared.sendFee
      operationId := prepared.operationId
      token }
    recordActivity "Failed to record Cashu token activity" (sendEntry world payment)
    return payment

def sendPaymentToken (mintUrl : String) (amountSat : UInt64) : ServiceM CashuSentPayment :=
  sendPaymentTokenWithKeyset crates world mintUrl amountSat none

def sendPaymentTokenForKeyset (mintUrl : String) (amountSat : UInt64) (keysetId : String) :
    ServiceM CashuSentPayment :=
  sendPaymentTokenWithKeyset crates world mintUrl amountSat (some keysetId)

def revokePendingPayment (mintUrl operationId : String) : ServiceM UInt64 := do
  let _ ← parseMintUrl crates mintUrl
  attempt world.ensureSatWallet
  askCdk "Failed to recover Cashu wallet state before revoking payment"
    world.recoverIncompleteSagas
  let operationUuid ← attempt ((withContext "Invalid Cashu send operation id"
    (crates.parseUuid operationId)).mapError .ofChain)
  let amount ← perform "Failed to revoke Cashu payment token" world.revokeSend
    fun amount => .revoked operationUuid amount
  onStore (mapErr (·.context "Failed to record reclaimed Cashu token")
    (markWalletActivityReclaimed operationId))
  return amount

end CashuService
