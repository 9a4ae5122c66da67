import CashuService.Base.Cdk
import CashuService.Base.Process
import CashuService.Wallet.CrossMint
set_option autoImplicit false

namespace CashuService

/-! `wallet/cross_mint/mod.rs`: a transfer between two mints as a saga in the wallet's store. A call
of the wallet kit may fail, may return anything of its type, and may be the last thing that the
process does. -/

structure CashuCrossMintTransfer where
  transferId : String
  sourceMintUrl : String
  destinationMintUrl : String
  unit : String
  amountSat : UInt64
  maxFeeSat : UInt64
  meltFeeReserveSat : UInt64
  walletFeeSat : UInt64
  feePaidSat : UInt64
  sourceMeltQuoteId : String
  destinationMintQuoteId : String
  destinationBalanceBeforeSat : UInt64
  destinationBalanceAfterSat : UInt64
  deriving DecidableEq, Repr

structure CashuCrossMintTransferSaga where
  version : UInt32
  request : CashuCrossMintTransferRequest
  destinationBalanceBeforeSat : UInt64
  destinationMintQuoteId : Option String
  destinationPaymentRequest : Option String
  sourceMeltQuoteId : Option String
  meltFeeReserveSat : Option UInt64
  walletFeeSat : Option UInt64
  feePaidSat : Option UInt64
  result : Option CashuCrossMintTransfer
  deriving DecidableEq, Repr

def crossMintTransferVersion : UInt32 := 1

/-- What the code reads of a mint quote of `cdk`. -/
structure MintQuote where
  id : String
  mintUrl : String
  paymentMethod : PaymentMethod
  unit : CurrencyUnit
  amount : Option UInt64
  request : String
  state : MintQuoteState
  amountIssued : UInt64
  deriving DecidableEq, Repr

/-- What the code reads of a melt quote of `cdk`. -/
structure MeltQuote where
  id : String
  amount : UInt64
  feeReserve : UInt64
  request : String
  state : MeltQuoteState
  deriving DecidableEq, Repr

structure FinalizedMelt where
  quoteId : String
  state : MeltQuoteState
  feePaid : UInt64
  deriving DecidableEq, Repr

structure WalletTransaction where
  quoteId : Option String
  fee : UInt64
  deriving DecidableEq, Repr

/-- What the wallet kit has ready for a call: something for every type that a call returns. -/
structure WalletAnswer where
  flag : Bool
  amount : UInt64
  mintQuote : MintQuote
  storedMintQuote : Option MintQuote
  meltQuote : MeltQuote
  storedMeltQuote : Option MeltQuote
  finalizedMelt : FinalizedMelt
  finalizedMelts : List FinalizedMelt
  transactions : List WalletTransaction
  deriving DecidableEq, Repr

/-- The calls that ask a mint for something. A payment names the quote it pays, and the record of
that quote that was loaded from the wallet's store. -/
inductive WalletCall where
  | mintQuote (amountSat : UInt64)
  | meltQuote (paymentRequest : String)
  | prepareMelt (quoteId : String) (record : MeltQuote)
  | cancelMelt (quoteId : String)
  | confirmMelt (quoteId : String) (record : MeltQuote) (walletFeeSat : UInt64)
  | mint (quoteId : String)
  deriving DecidableEq, Repr

/-- A call as it was issued: for which transfer, whether that transfer was allowed to start a
payment, and what the store held of it at that moment. -/
structure Issued where
  transferId : String
  allowNew : Bool
  stored : Option String
  call : WalletCall
  deriving DecidableEq, Repr

/-- What survives the process: the sagas by transfer id, as text. It also keeps track of what was
written and of what was issued, in order. -/
structure TransferStore where
  sagas : String → Option String
  written : List (String × String)
  issued : List Issued

/-- What the code uses of other crates: `url`, `MintUrl::from_str`, the amount of a BOLT11 invoice
in millisatoshis, and `serde_json` at the type of a saga. -/
structure TransferCrates where
  url : UrlCrate
  mintUrlFromStr : String → Except Anyhow String
  bolt11AmountMsat : String → Except Anyhow (Option UInt64)
  encodeSaga : CashuCrossMintTransferSaga → Except Anyhow String
  decodeSaga : String → Except Anyhow CashuCrossMintTransferSaga

inductive TransferError where
  | stopped
  | failed (chain : Anyhow)
  deriving DecidableEq, Repr

abbrev TransferM := EStateM TransferError (Process WalletAnswer TransferStore)

namespace TransferStore

def save (transferId text : String) (self : TransferStore) : TransferStore :=
  { self with
    sagas := Function.update self.sagas transferId (some text)
    written := self.written ++ [(transferId, text)] }

def issue (transferId : String) (allowNew : Bool) (walletCall : WalletCall)
    (self : TransferStore) : TransferStore :=
  { self with
    issued := self.issued ++ [⟨transferId, allowNew, self.sagas transferId, walletCall⟩] }

end TransferStore

section

variable {α : Type}

def fallible (result : Except Anyhow α) : TransferM α := attempt (result.mapError .failed)

def bailIf (c : Prop) [Decidable c] (message : String) : TransferM Unit :=
  fallible (rejectIf c [message])

def orBail (o : Option α) (message : String) : TransferM α := fallible (okOr o [message])

def observe (pick : WalletAnswer → α) : TransferM α := do
  let answer ← call .stopped (fun _ => .stopped) (fun _ => id) fun _ => id
  return pick answer

def query (text : String) (pick : WalletAnswer → α) : TransferM α := do
  let answer ← call .stopped (fun message => .failed [text, message]) (fun _ => id) fun _ => id
  return pick answer

/-- A call that asks a mint for something. It counts as issued however it ends. -/
def ask (transferId : String) (allowNew : Bool) (text : String) (walletCall : WalletCall)
    (pick : WalletAnswer → α) : TransferM α := do
  let answer ← call .stopped (fun message => .failed [text, message])
    (fun _ => TransferStore.issue transferId allowNew walletCall)
    fun _ => TransferStore.issue transferId allowNew walletCall
  return pick answer

end

section

variable (crates : TransferCrates)

def loadCrossMintTransferSaga (transferId : String) :
    TransferM (Option CashuCrossMintTransferSaga) := do
  query "Failed to read Cashu cross-mint transfer saga" fun _ => ()
  match ← peek fun store => store.sagas transferId with
  | none => return none
  | some text =>
    let saga ← fallible (withContext "Failed to parse Cashu cross-mint transfer saga"
      (crates.decodeSaga text))
    return some saga

/-- `kv_write` is done as a whole or not at all. -/
def saveCrossMintTransferSaga (saga : CashuCrossMintTransferSaga) : TransferM Unit := do
  let text ← fallible (withContext "Failed to encode Cashu cross-mint transfer saga"
    (crates.encodeSaga saga))
  let _ ← call .stopped
    (fun message => .failed ["Failed to write Cashu cross-mint transfer saga", message])
    (fun _ => TransferStore.save saga.request.transferId text)
    fun n store => if n = 0 then store else store.save saga.request.transferId text

def validateExactBolt11Amount (paymentRequest : String) (amountSat : UInt64) :
    Except Anyhow Unit := do
  let amountMsat ← withContext "Destination mint returned an invalid BOLT11 invoice"
    (crates.bolt11AmountMsat paymentRequest)
  let expectedMsat ← okOr (amountSat.checkedMul 1000)
    ["Cashu cross-mint transfer amount is too large"]
  let invoiceMsat ← okOr amountMsat ["Destination mint returned an amountless BOLT11 invoice"]
  rejectIf (invoiceMsat ≠ expectedMsat)
    [s!"Destination mint invoice amount {invoiceMsat} msat does not match requested amount {expectedMsat} msat"]

variable (request : CashuCrossMintTransferRequest) (allowNew : Bool)

def bindSaga : TransferM CashuCrossMintTransferSaga := do
  match ← loadCrossMintTransferSaga crates request.transferId with
  | some saga =>
    bailIf (saga.version ≠ crossMintTransferVersion ∨ saga.request ≠ request)
      s!"Cashu cross-mint transfer id {request.transferId} is already bound to a different request"
    return saga
  | none =>
    bailIf (¬allowNew)
      s!"Cashu cross-mint transfer id {request.transferId} has no durable saga to resume"
    let balance ← query "Failed to load destination mint balance before transfer"
      WalletAnswer.amount
    let saga : CashuCrossMintTransferSaga := {
      version := crossMintTransferVersion
      request := request
      destinationBalanceBeforeSat := balance
      destinationMintQuoteId := none
      destinationPaymentRequest := none
      sourceMeltQuoteId := none
      meltFeeReserveSat := none
      walletFeeSat := none
      feePaidSat := none
      result := none }
    saveCrossMintTransferSaga crates saga
    return saga

def quoteDestination (saga : CashuCrossMintTransferSaga) :
    TransferM CashuCrossMintTransferSaga := do
  if saga.destinationMintQuoteId.isSome then
    return saga
  else
    let quote ← ask request.transferId allowNew "Failed to create exact destination mint quote"
      (.mintQuote request.amountSat) WalletAnswer.mintQuote
    bailIf (quote.amount ≠ some request.amountSat)
      "Destination mint returned an incorrect mint quote amount"
    fallible (validateExactBolt11Amount crates quote.request request.amountSat)
    let saga := {
      saga with
      destinationMintQuoteId := some quote.id
      destinationPaymentRequest := some quote.request }
    saveCrossMintTransferSaga crates saga
    return saga

def quoteSource (saga : CashuCrossMintTransferSaga) (paymentRequest : String) :
    TransferM CashuCrossMintTransferSaga := do
  if saga.sourceMeltQuoteId.isSome then
    return saga
  else
    let quote ← ask request.transferId allowNew "Failed to preflight source mint melt quote"
      (.meltQuote paymentRequest) WalletAnswer.meltQuote
    bailIf (quote.amount ≠ request.amountSat)
      "Source mint returned an incorrect melt quote amount"
    bailIf (quote.feeReserve > request.maxFeeSat)
      s!"Source mint melt fee reserve {quote.feeReserve} sat exceeds caller maximum {request.maxFeeSat} sat"
    let saga := {
      saga with
      sourceMeltQuoteId := some quote.id
      meltFeeReserveSat := some quote.feeReserve }
    saveCrossMintTransferSaga crates saga
    return saga

/-- The wallet's own record of the melt quote, which has to be the one the saga is about. -/
def loadSourceQuote (saga : CashuCrossMintTransferSaga) (paymentRequest : String) :
    TransferM MeltQuote := do
  let stored ← query "Failed to load source mint melt quote" WalletAnswer.storedMeltQuote
  let sourceQuote ← orBail stored "Stored source mint melt quote is missing"
  bailIf (sourceQuote.request ≠ paymentRequest ∨ sourceQuote.amount ≠ request.amountSat)
    "Stored source mint melt quote does not match the cross-mint transfer"
  let reserve ← orBail saga.meltFeeReserveSat "Cashu cross-mint saga has no melt fee reserve"
  bailIf (sourceQuote.feeReserve ≠ reserve)
    "Stored source mint melt quote does not match the cross-mint transfer"
  return sourceQuote

def startPayment (saga : CashuCrossMintTransferSaga) (sourceQuoteId : String)
    (sourceQuote : MeltQuote) : TransferM CashuCrossMintTransferSaga := do
  bailIf (¬allowNew)
    s!"Cashu cross-mint transfer id {request.transferId} has not started a source payment"
  let walletFeeSat ← ask request.transferId allowNew "Failed to prepare source mint payment"
    (.prepareMelt sourceQuoteId sourceQuote) WalletAnswer.amount
  let preflightFeeSat ← orBail (sourceQuote.feeReserve.checkedAdd walletFeeSat)
    "Cashu cross-mint fee overflow"
  if preflightFeeSat > request.maxFeeSat then
    ask request.transferId allowNew "Failed to cancel over-limit source mint payment"
      (.cancelMelt sourceQuoteId) fun _ => ()
    throw (.failed
      [s!"Source mint preflight fee {preflightFeeSat} sat exceeds caller maximum {request.maxFeeSat} sat"])
  else
    let saga := { saga with walletFeeSat := some walletFeeSat }
    saveCrossMintTransferSaga crates saga
    let finalized ← ask request.transferId allowNew "Failed to execute source mint payment"
      (.confirmMelt sourceQuoteId sourceQuote walletFeeSat) WalletAnswer.finalizedMelt
    bailIf (finalized.state ≠ .paid)
      s!"Source mint payment finished in unexpected state {finalized.state.toString}"
    let saga := { saga with feePaidSat := some finalized.feePaid }
    saveCrossMintTransferSaga crates saga
    return saga

def payQuote (saga : CashuCrossMintTransferSaga) (sourceQuoteId : String)
    (sourceQuote : MeltQuote) : TransferM CashuCrossMintTransferSaga :=
  match sourceQuote.state with
  | .unpaid => startPayment crates request allowNew saga sourceQuoteId sourceQuote
  | .paid => return saga
  | state => throw (.failed
    [s!"Source mint payment is not recoverable from state {state.toString}"])

/-- A payment that was finalized when the wallet was opened. -/
def recoverPayment (saga : CashuCrossMintTransferSaga) (sourceQuoteId : String)
    (recoveredMelts : List FinalizedMelt) : TransferM CashuCrossMintTransferSaga := do
  match recoveredMelts.find? fun melt => melt.quoteId == sourceQuoteId with
  | none => return saga
  | some finalized =>
    bailIf (finalized.state ≠ .paid)
      s!"Recovered source mint payment finished in unexpected state {finalized.state.toString}"
    return { saga with feePaidSat := some finalized.feePaid }

def paySource (saga : CashuCrossMintTransferSaga) (sourceQuoteId : String)
    (sourceQuote : MeltQuote) (recoveredMelts : List FinalizedMelt) :
    TransferM (CashuCrossMintTransferSaga × Option WalletTransaction) := do
  let transactions ← query "Failed to load source mint transactions" WalletAnswer.transactions
  match transactions.find? fun transaction => transaction.quoteId == some sourceQuoteId with
  | some transaction => return (saga, some transaction)
  | none =>
    let saga ← recoverPayment saga sourceQuoteId recoveredMelts
    let saga ← payQuote crates request allowNew saga sourceQuoteId sourceQuote
    let transactions ← query "Failed to reload source mint transactions"
      WalletAnswer.transactions
    return (saga, transactions.find? fun transaction => transaction.quoteId == some sourceQuoteId)

def issueQuote (destinationQuoteId : String) (state : MintQuoteState) : TransferM Unit :=
  if state = .paid then
    ask request.transferId allowNew "Failed to issue paid destination mint quote"
      (.mint destinationQuoteId) fun _ => ()
  else
    bailIf (state ≠ .issued)
      s!"Paid source transfer has destination mint quote in unexpected state {state.toString}"

def issueDestination (destinationMint destinationQuoteId paymentRequest : String) :
    TransferM Unit := do
  let destinationQuote ← query "Failed to refresh destination mint quote" WalletAnswer.mintQuote
  bailIf (destinationQuote.amount ≠ some request.amountSat)
    "Destination mint quote amount changed during transfer"
  issueQuote request allowNew destinationQuoteId destinationQuote.state
  let stored ← query "Failed to load issued destination mint quote" WalletAnswer.storedMintQuote
  let issuedQuote ← orBail stored "Issued destination mint quote is missing"
  bailIf (issuedQuote.id ≠ destinationQuoteId ∨ issuedQuote.mintUrl ≠ destinationMint ∨
      issuedQuote.paymentMethod ≠ .bolt11 ∨ issuedQuote.unit ≠ .sat ∨
      issuedQuote.amount ≠ some request.amountSat ∨ issuedQuote.request ≠ paymentRequest ∨
      issuedQuote.state ≠ .issued ∨ issuedQuote.amountIssued ≠ request.amountSat)
    "Issued destination mint quote does not match the cross-mint transfer"

def completeTransfer (destinationMint : String) (saga : CashuCrossMintTransferSaga)
    (destinationQuoteId paymentRequest sourceQuoteId : String)
    (transaction : Option WalletTransaction) : TransferM CashuCrossMintTransfer := do
  let paidTransaction ← orBail transaction
    "Paid source mint transfer has no durable wallet transaction"
  let feePaidSat := paidTransaction.fee
  let saga := { saga with feePaidSat := some feePaidSat }
  saveCrossMintTransferSaga crates saga
  issueDestination request allowNew destinationMint destinationQuoteId paymentRequest
  let balance ← query "Failed to load destination mint balance after transfer"
    WalletAnswer.amount
  bailIf (feePaidSat > request.maxFeeSat)
    s!"Source mint charged {feePaidSat} sat after a maximum {request.maxFeeSat} sat preflight"
  let result : CashuCrossMintTransfer := {
    transferId := request.transferId
    sourceMintUrl := request.sourceMintUrl
    destinationMintUrl := request.destinationMintUrl
    unit := CurrencyUnit.sat.toString
    amountSat := request.amountSat
    maxFeeSat := request.maxFeeSat
    meltFeeReserveSat := saga.meltFeeReserveSat.getD 0
    walletFeeSat := saga.walletFeeSat.getD 0
    feePaidSat := feePaidSat
    sourceMeltQuoteId := sourceQuoteId
    destinationMintQuoteId := destinationQuoteId
    destinationBalanceBeforeSat := saga.destinationBalanceBeforeSat
    destinationBalanceAfterSat := balance }
  saveCrossMintTransferSaga crates { saga with result := some result }
  return result

def advanceSaga (destinationMint : String) (saga : CashuCrossMintTransferSaga)
    (recoveredMelts : List FinalizedMelt) : TransferM CashuCrossMintTransfer := do
  let saga ← quoteDestination crates request allowNew saga
  let destinationQuoteId ← orBail saga.destinationMintQuoteId
    "Cashu cross-mint saga has no destination quote id"
  let paymentRequest ← orBail saga.destinationPaymentRequest
    "Cashu cross-mint saga has no destination invoice"
  fallible (validateExactBolt11Amount crates paymentRequest request.amountSat)
  let saga ← quoteSource crates request allowNew saga paymentRequest
  let sourceQuoteId ← orBail saga.sourceMeltQuoteId "Cashu cross-mint saga has no source quote id"
  let sourceQuote ← loadSourceQuote request saga paymentRequest
  let (saga, transaction) ← paySource crates request allowNew saga sourceQuoteId sourceQuote
    recoveredMelts
  completeTransfer crates request allowNew destinationMint saga destinationQuoteId paymentRequest
    sourceQuoteId transaction

def transferBetweenWalletsWithStart (destinationMint : String) :
    TransferM CashuCrossMintTransfer := do
  let recoveredMelts ← query "Failed to finalize pending source mint payments"
    WalletAnswer.finalizedMelts
  query "Failed to recover source mint wallet state" fun _ => ()
  query "Failed to recover destination mint wallet state" fun _ => ()
  let saga ← bindSaga crates request allowNew
  match saga.result with
  | some result => return result
  | none => advanceSaga crates request allowNew destinationMint saga recoveredMelts

end

def ensureSatWallet : TransferM Unit := do
  let hasWallet ← observe WalletAnswer.flag
  query (if hasWallet then "Failed to load existing Cashu sat wallet"
    else "Failed to create Cashu sat wallet") fun _ => ()
  query "Failed to persist Cashu mint metadata" fun _ => ()

namespace CashuWalletService

variable (crates : TransferCrates)

/-- The guard of the operation lock is held throughout, so the calls on one data directory come
one after the other. -/
def transferBetweenMintsWithStart (request : CashuCrossMintTransferRequest) (allowNew : Bool) :
    TransferM CashuCrossMintTransfer := do
  let request ← fallible (normalizeCrossMintTransferRequest crates.url request)
  let _ ← fallible (withContext "Failed to parse normalized source mint URL"
    (crates.mintUrlFromStr request.sourceMintUrl))
  let destinationMint ← fallible (withContext "Failed to parse normalized destination mint URL"
    (crates.mintUrlFromStr request.destinationMintUrl))
  ensureSatWallet
  ensureSatWallet
  transferBetweenWalletsWithStart crates request allowNew destinationMint

def transferBetweenMints (request : CashuCrossMintTransferRequest) :
    TransferM CashuCrossMintTransfer :=
  transferBetweenMintsWithStart crates request true

def resumeTransferBetweenMints (request : CashuCrossMintTransferRequest) :
    TransferM CashuCrossMintTransfer :=
  transferBetweenMintsWithStart crates request false

end CashuWalletService

/-- `CashuWalletService::open_file_backed`. An open that fails ends the call before a saga is
read. -/
def openFileBacked : TransferM Unit := observe fun _ => ()

def transferBetweenMints (crates : TransferCrates) (request : CashuCrossMintTransferRequest) :
    TransferM CashuCrossMintTransfer := do
  openFileBacked
  CashuWalletService.transferBetweenMints crates request

def resumeTransferBetweenMints (crates : TransferCrates)
    (request : CashuCrossMintTransferRequest) : TransferM CashuCrossMintTransfer := do
  openFileBacked
  CashuWalletService.resumeTransferBetweenMints crates request

end CashuService
