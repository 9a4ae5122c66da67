import CashuService.Base.BTreeMap
import CashuService.Base.Cdk
import CashuService.Base.Fallible
set_option autoImplicit false

namespace CashuService

/-! `simulation/network.rs`: the payment network between simulated mints. -/

abbrev PaymentHash := Vector UInt8 32

inductive IssuerMode where
  | closedLoop | withdrawable
  deriving DecidableEq, Repr

inductive PaymentError where
  | amountMismatch | invoiceAlreadyPaid | unsupportedUnit | unsupportedPaymentOption
  | unknownPaymentState
  | invoice (message : String)
  | custom (message : String)
  deriving DecidableEq, Repr

structure InvoiceFields where
  description : String
  paymentHash : PaymentHash
  paymentSecret : Vector UInt8 32
  amountMilliSatoshis : UInt64
  durationSinceEpoch : UInt64
  expiryTime : UInt64
  minFinalCltvExpiryDelta : UInt64
  signingKey : Vector UInt8 32

/-- What the code uses of the crates `lightning_invoice` and `bitcoin`. -/
structure Lightning where
  Invoice : Type
  fromStr : String → Except String Invoice
  toString : Invoice → String
  paymentHash : Invoice → PaymentHash
  amountMilliSatoshis : Invoice → Option UInt64
  buildSigned : InvoiceFields → Except String Invoice
  sha256 : List UInt8 → Vector UInt8 32
  isSecretKey : Vector UInt8 32 → Bool

structure InvoiceRecord where
  recipientMint : String
  amountSat : UInt64
  expiresAt : UInt64
  preimage : Vector UInt8 32
  paidBy : Option String
  feeSat : UInt64
  deriving DecidableEq, Repr

inductive PaymentIdentifier where
  | paymentHash (hash : PaymentHash)
  | other (identifier : String)
  deriving DecidableEq, Repr

structure WaitPaymentResponse where
  paymentIdentifier : PaymentHash
  paymentAmount : Amount
  paymentId : String
  deriving DecidableEq, Repr

structure NetworkState where
  nextInvoice : UInt64 := 0
  invoices : PaymentHash → Option InvoiceRecord := fun _ => none
  modes : BTreeMap String IssuerMode := ∅
  online : BTreeMap String Bool := ∅
  reserves : BTreeMap String UInt64 := ∅
  externalFundingSat : UInt64 := 0
  feeSinkSat : UInt64 := 0
  /-- What was sent on the channel of each mint. -/
  events : BTreeMap String (List WaitPaymentResponse) := ∅

structure MintReserveSnapshot where
  mintId : String
  mode : IssuerMode
  reserveSat : UInt64
  deriving DecidableEq, Repr

structure SettlementAccountingSnapshot where
  mints : List MintReserveSnapshot
  totalReserveSat : UInt64
  feeSinkSat : UInt64
  totalAccountedSat : UInt64
  externalFundingSat : UInt64
  deriving DecidableEq, Repr

def SettlementAccountingSnapshot.isConserved (self : SettlementAccountingSnapshot) : Bool :=
  self.totalAccountedSat == self.externalFundingSat

/-- The backend of one mint: the only way to call `create_invoice`, `quote` and `pay`. -/
structure SimMintPayment where
  mintId : String
  mode : IssuerMode
  deriving DecidableEq, Repr

inductive OutgoingPaymentOptions (Invoice : Type) where
  | bolt11 (bolt11 : Invoice) (maxFeeAmount : Option Amount) (meltOptionsMsat : Option UInt64)
  | other

structure CreateIncomingPaymentResponse where
  requestLookupId : PaymentHash
  request : String
  expiry : Option UInt64
  deriving DecidableEq, Repr

structure PaymentQuoteResponse where
  requestLookupId : PaymentHash
  amount : Amount
  fee : Amount
  state : MeltQuoteState
  deriving DecidableEq, Repr

structure MakePaymentResponse where
  paymentLookupId : PaymentHash
  paymentProof : Option String
  status : MeltQuoteState
  totalSpent : Amount
  deriving DecidableEq, Repr

/-- What stays fixed for the life of a network. The clock is read once in each call, so its
time is an argument of the call. -/
structure PaymentNetwork where
  lightning : Lightning
  seed : UInt64
  feeSat : UInt64

abbrev NetworkM := EStateM PaymentError NetworkState

def ensureWithdrawable (mode : IssuerMode) : Except PaymentError Unit :=
  rejectIf (mode = .closedLoop) (.custom "closed-loop mint does not allow withdrawals")

def ensureSat (unit : CurrencyUnit) : Except PaymentError Unit :=
  rejectIf (unit ≠ .sat) .unsupportedUnit

def ensureAmount (record : InvoiceRecord) (amountSat : UInt64) : Except PaymentError Unit :=
  rejectIf (amountSat ≠ record.amountSat) .amountMismatch

def identifierHash : PaymentIdentifier → Option PaymentHash
  | .paymentHash hash => some hash
  | .other _ => none

def incomingResponse (paymentHash : PaymentHash) (record : InvoiceRecord) :
    WaitPaymentResponse where
  paymentIdentifier := paymentHash
  paymentAmount := ⟨record.amountSat, .sat⟩
  paymentId := hexEncode paymentHash.toList

def setOnline (mintId : String) (online : Bool) : NetworkM Unit := do
  let state ← get
  let _ ← attempt (okOr state.online[mintId]? (.custom "unknown mint"))
  modify fun s => { s with online := s.online.insert mintId online }

def paymentBackend (mintId : String) (mode : IssuerMode) : NetworkM SimMintPayment := do
  attempt (rejectIf (mintId = "") (.custom "mint id cannot be empty"))
  let state ← get
  match state.modes[mintId]? with
  | some existing =>
    attempt (rejectIf (existing ≠ mode) (.custom "mint id already has a different issuer mode"))
  | none =>
    modify fun s => {
      s with
      modes := s.modes.insert mintId mode
      online := s.online.insert mintId true
      reserves := s.reserves.insert mintId 0
      events := s.events.insert mintId [] }
  return ⟨mintId, mode⟩

def send (mintId : String) (event : WaitPaymentResponse) : NetworkM Unit :=
  modify fun s => { s with events := s.events.modify mintId fun sent => sent ++ [event] }

/-- The accounts in the order of their mint ids, which is the order the code sorts them in. -/
def accounting (state : NetworkState) : Except PaymentError SettlementAccountingSnapshot := do
  rejectIf (state.reserves.size ≠ state.modes.size)
    (.custom "mint reserve accounts are inconsistent")
  let mints ← state.modes.toList.mapM fun account => do
    let reserveSat ← okOr state.reserves[account.1]? (.custom "mint has no reserve account")
    return { mintId := account.1, mode := account.2, reserveSat := reserveSat }
  let totalReserveSat ← mints.foldlM (fun total (mint : MintReserveSnapshot) =>
    okOr (total.checkedAdd mint.reserveSat) (PaymentError.custom "total reserve overflow")) 0
  let totalAccountedSat ← okOr (totalReserveSat.checkedAdd state.feeSinkSat)
    (.custom "accounted value overflow")
  return {
    mints := mints
    totalReserveSat := totalReserveSat
    feeSinkSat := state.feeSinkSat
    totalAccountedSat := totalAccountedSat
    externalFundingSat := state.externalFundingSat }

def incomingStatus (mintId : String) (identifier : PaymentIdentifier) (state : NetworkState) :
    List WaitPaymentResponse :=
  match identifierHash identifier with
  | none => []
  | some paymentHash =>
    match state.invoices paymentHash with
    | none => []
    | some record =>
      if record.recipientMint ≠ mintId ∨ record.paidBy = none then []
      else [incomingResponse paymentHash record]

/-- `check_outgoing_payment` of a mint. The identifier it repeats is the payment hash. -/
def outgoingStatus (payer : String) (identifier : PaymentIdentifier) (state : NetworkState) :
    Except PaymentError MakePaymentResponse := do
  let paymentHash ← okOr (identifierHash identifier) .unknownPaymentState
  let record ← okOr (state.invoices paymentHash) .unknownPaymentState
  let paid := record.paidBy = some payer
  return {
    paymentLookupId := paymentHash
    paymentProof := if paid then some (hexEncode record.preimage.toList) else none
    status := if paid then .paid else .unpaid
    totalSpent := ⟨if paid then record.amountSat.saturatingAdd record.feeSat else 0, .sat⟩ }

namespace PaymentNetwork

variable (self : PaymentNetwork)

def derive32 (domain : List UInt8) (serial : UInt64) (mintId : String) : Vector UInt8 32 :=
  self.lightning.sha256 (self.seed.toBeBytes ++ (UInt64.ofNat domain.length).toBeBytes ++ domain ++
    serial.toBeBytes ++ bytes mintId)

def preimage (serial : UInt64) (mintId : String) : Vector UInt8 32 :=
  self.derive32 (bytes "preimage") serial mintId

/-- The payment hash of the invoice with a serial number at a mint. -/
def paymentHashOf (serial : UInt64) (mintId : String) : PaymentHash :=
  self.lightning.sha256 (self.preimage serial mintId).toList

def signingKeyFrom (mintId : String) : Nat → UInt64 → Except PaymentError (Vector UInt8 32)
  | 0, _ => .error (.custom "could not derive invoice signing key")
  | remaining + 1, counter =>
    let candidate := self.derive32 (bytes "invoice-signing-key") counter mintId
    if self.lightning.isSecretKey candidate then .ok candidate
    else signingKeyFrom mintId remaining (counter + 1)

def signingKey (mintId : String) : Except PaymentError (Vector UInt8 32) :=
  self.signingKeyFrom mintId (2 ^ 64 - 1) 0

def parseInvoice (paymentRequest : String) : Except PaymentError self.lightning.Invoice :=
  (self.lightning.fromStr paymentRequest).mapError .invoice

def ensureInvoicePayable (record : InvoiceRecord) (invoice : self.lightning.Invoice)
    (now : UInt64) : Except PaymentError Unit := do
  rejectIf (record.paidBy.isSome) .invoiceAlreadyPaid
  rejectIf (now ≥ record.expiresAt) (.custom "invoice expired")
  let invoiceAmount ← okOr (self.lightning.amountMilliSatoshis invoice) .amountMismatch
  rejectIf (invoiceAmount ≠ record.amountSat.saturatingMul 1000) .amountMismatch

def outgoingInvoice (options : OutgoingPaymentOptions self.lightning.Invoice) :
    Except PaymentError (self.lightning.Invoice × UInt64 × Option UInt64) := do
  match options with
  | .other => throw .unsupportedPaymentOption
  | .bolt11 bolt11 maxFeeAmount meltOptionsMsat =>
    let invoiceMsat ← okOr (self.lightning.amountMilliSatoshis bolt11) .amountMismatch
    let requestedMsat := meltOptionsMsat.getD invoiceMsat
    rejectIf (requestedMsat ≠ invoiceMsat ∨ requestedMsat % 1000 ≠ 0) .amountMismatch
    let maxFeeSat ← match maxFeeAmount with
      | none => pure none
      | some amount => do
        ensureSat amount.unit
        pure (some amount.value)
    return (bolt11, requestedMsat / 1000, maxFeeSat)

def createInvoice (mintId : String) (amountSat : UInt64) (description : String)
    (requestedExpiry : Option UInt64) (now : UInt64) : NetworkM CreateIncomingPaymentResponse := do
  attempt (rejectIf (amountSat = 0) .amountMismatch)
  let expiresAt := requestedExpiry.getD (now.saturatingAdd 3600)
  attempt (rejectIf (expiresAt ≤ now) (.custom "invoice expiry is not in the future"))
  let state ← get
  attempt (rejectIf (mintId ∉ state.modes) (.custom "unknown mint"))
  let serial := state.nextInvoice
  let nextInvoice ← attempt (okOr (state.nextInvoice.checkedAdd 1)
    (.custom "invoice sequence overflow"))
  modify fun s => { s with nextInvoice := nextInvoice }
  let preimage := self.preimage serial mintId
  let paymentHash := self.lightning.sha256 preimage.toList
  let paymentSecret := self.derive32 (bytes "payment-secret") serial mintId
  let signingKey ← attempt (self.signingKey mintId)
  let amountMilliSatoshis ← attempt (okOr (amountSat.checkedMul 1000) .amountMismatch)
  let invoice ← attempt ((self.lightning.buildSigned {
    description := description
    paymentHash := paymentHash
    paymentSecret := paymentSecret
    amountMilliSatoshis := amountMilliSatoshis
    durationSinceEpoch := now
    expiryTime := expiresAt - now
    minFinalCltvExpiryDelta := 18
    signingKey := signingKey }).mapError .custom)
  modify fun s => {
    s with
    invoices := Function.update s.invoices paymentHash (some {
      recipientMint := mintId
      amountSat := amountSat
      expiresAt := expiresAt
      preimage := preimage
      paidBy := none
      feeSat := 0 }) }
  return {
    requestLookupId := paymentHash
    request := self.lightning.toString invoice
    expiry := some expiresAt }

def settleExternal (paymentRequest : String) (now : UInt64) : NetworkM String := do
  let invoice ← attempt (self.parseInvoice paymentRequest)
  let paymentHash := self.lightning.paymentHash invoice
  let state ← get
  let record ← attempt (okOr (state.invoices paymentHash)
    (.custom "invoice is not registered on this network"))
  attempt (self.ensureInvoicePayable record invoice now)
  let recipient := record.recipientMint
  attempt (rejectIf (state.online.getD recipient false = false)
    (.custom "destination mint is offline"))
  let reserve ← attempt (okOr state.reserves[recipient]?
    (.custom "destination mint has no reserve account"))
  let fundedReserve ← attempt (okOr (reserve.checkedAdd record.amountSat)
    (.custom "destination reserve overflow"))
  let externalFundingSat ← attempt (okOr (state.externalFundingSat.checkedAdd record.amountSat)
    (.custom "external funding total overflow"))
  let record := { record with paidBy := some "external", feeSat := 0 }
  modify fun s => {
    s with
    invoices := Function.update s.invoices paymentHash (some record)
    reserves := s.reserves.insert recipient fundedReserve
    externalFundingSat := externalFundingSat }
  send recipient (incomingResponse paymentHash record)
  return hexEncode record.preimage.toList

def quote (mode : IssuerMode) (unit : CurrencyUnit)
    (options : OutgoingPaymentOptions self.lightning.Invoice) (now : UInt64) :
    NetworkM PaymentQuoteResponse := do
  attempt (ensureWithdrawable mode)
  attempt (ensureSat unit)
  let (invoice, amountSat, _) ← attempt (self.outgoingInvoice options)
  let state ← get
  let record ← attempt (okOr (state.invoices (self.lightning.paymentHash invoice))
    (.custom "invoice is not registered on this network"))
  attempt (self.ensureInvoicePayable record invoice now)
  attempt (ensureAmount record amountSat)
  return {
    requestLookupId := self.lightning.paymentHash invoice
    amount := ⟨amountSat, .sat⟩
    fee := ⟨self.feeSat, .sat⟩
    state := .unpaid }

def pay (payer : String) (mode : IssuerMode) (unit : CurrencyUnit)
    (options : OutgoingPaymentOptions self.lightning.Invoice) (now : UInt64) :
    NetworkM MakePaymentResponse := do
  attempt (ensureWithdrawable mode)
  attempt (ensureSat unit)
  let (invoice, amountSat, maxFeeSat) ← attempt (self.outgoingInvoice options)
  attempt (rejectIf (maxFeeSat.any fun maximum => self.feeSat > maximum)
    (.custom "payment fee exceeds maximum"))
  let totalSpentSat ← attempt (okOr (amountSat.checkedAdd self.feeSat) .amountMismatch)
  let paymentHash := self.lightning.paymentHash invoice
  let state ← get
  attempt (rejectIf (state.online.getD payer false = false) (.custom "source mint is offline"))
  let record ← attempt (okOr (state.invoices paymentHash)
    (.custom "invoice is not registered on this network"))
  attempt (self.ensureInvoicePayable record invoice now)
  attempt (ensureAmount record amountSat)
  let recipient := record.recipientMint
  attempt (rejectIf (state.online.getD recipient false = false)
    (.custom "destination mint is offline"))
  let payerReserve ← attempt (okOr state.reserves[payer]?
    (.custom "source mint has no reserve account"))
  let payerAfterDebit ← attempt (okOr (payerReserve.checkedSub totalSpentSat)
    (.custom "source mint has insufficient liquidity"))
  let recipientReserve ← attempt (okOr state.reserves[recipient]?
    (.custom "destination mint has no reserve account"))
  let recipientAfterCredit ← attempt (
    if payer = recipient then
      okOr (payerAfterDebit.checkedAdd amountSat) (.custom "mint reserve overflow")
    else
      okOr (recipientReserve.checkedAdd amountSat) (.custom "destination reserve overflow"))
  let feeSinkSat ← attempt (okOr (state.feeSinkSat.checkedAdd self.feeSat)
    (.custom "fee sink overflow"))
  let record := { record with paidBy := some payer, feeSat := self.feeSat }
  modify fun s => {
    s with
    invoices := Function.update s.invoices paymentHash (some record)
    reserves :=
      if payer = recipient then s.reserves.insert payer recipientAfterCredit
      else (s.reserves.insert payer payerAfterDebit).insert recipient recipientAfterCredit
    feeSinkSat := feeSinkSat }
  send recipient (incomingResponse paymentHash record)
  return {
    paymentLookupId := paymentHash
    paymentProof := some (hexEncode record.preimage.toList)
    status := .paid
    totalSpent := ⟨totalSpentSat, .sat⟩ }

end PaymentNetwork
end CashuService
