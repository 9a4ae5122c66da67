import CashuService.Credit.Account
set_option autoImplicit false

namespace CashuService

structure PeerCreditSnapshotV1 where
  outstandingSat : UInt64
  offlineOutstandingSat : UInt64
  deriving DecidableEq, Repr

structure ClosedLoopSnapshotV1 where
  totalDepositedSat : UInt64
  availableBackingSat : UInt64
  claimableSat : UInt64
  consumedSat : UInt64
  deriving DecidableEq, Repr

structure WithdrawableSnapshotV1 where
  totalDepositedSat : UInt64
  availableSat : UInt64
  redeemableSat : UInt64
  pendingExternalSat : UInt64
  settledExternalSat : UInt64
  deriving DecidableEq, Repr

structure IssuerSnapshotV1 where
  policy : IssuerPolicy
  peerCredit : PeerCreditSnapshotV1
  closedLoop : ClosedLoopSnapshotV1
  withdrawable : WithdrawableSnapshotV1
  deriving DecidableEq, Repr

inductive SettlementStateSnapshotV1 where
  | pending
  | completed (feeSat : UInt64)
  | cancelled
  deriving DecidableEq, Repr

structure SettlementRecordSnapshotV1 where
  request : ExternalSettlementRequest
  authorization : ExternalSettlementAuthorization
  state : SettlementStateSnapshotV1
  deriving DecidableEq, Repr

/-- Authoritative, versioned representation of one validated credit account. -/
structure CreditAccountSnapshotV1 where
  version : UInt32
  revision : UInt64
  counterparty : String
  maxTotalPeerCreditSat : UInt64
  totalPeerCreditSat : UInt64
  issuers : BTreeMap String IssuerSnapshotV1
  appliedReceipts : BTreeMap String ServiceReceiptClaim
  peerCreditEvents : List PeerCreditEvent
  novations : BTreeMap String CreditNovation
  backingDeposits : List BackingDeposit
  backedSettlements : BTreeMap String BackedCreditSettlement
  closedLoopConsumptions : BTreeMap String ClosedLoopConsumption
  settlements : BTreeMap String SettlementRecordSnapshotV1
  deriving DecidableEq

def snapshotVersion : UInt32 := 1

structure ExpectedIssuerState where
  peerCreditsSat : UInt64
  peerDebitsSat : UInt64
  closedDepositsSat : UInt64
  withdrawableDepositsSat : UInt64
  closedAllocationsSat : UInt64
  withdrawableAllocationsSat : UInt64
  closedConsumptionsSat : UInt64
  pendingExternalSat : UInt64
  settledExternalSat : UInt64
  deriving DecidableEq, Repr

def ExpectedIssuerState.zero : ExpectedIssuerState := ⟨0, 0, 0, 0, 0, 0, 0, 0, 0⟩

inductive Column where
  | peerCreditsSat | peerDebitsSat | closedDepositsSat | withdrawableDepositsSat
  | closedAllocationsSat | withdrawableAllocationsSat | closedConsumptionsSat
  | pendingExternalSat | settledExternalSat
  deriving DecidableEq, Repr

namespace Column

def get : Column → ExpectedIssuerState → UInt64
  | peerCreditsSat => (·.peerCreditsSat)
  | peerDebitsSat => (·.peerDebitsSat)
  | closedDepositsSat => (·.closedDepositsSat)
  | withdrawableDepositsSat => (·.withdrawableDepositsSat)
  | closedAllocationsSat => (·.closedAllocationsSat)
  | withdrawableAllocationsSat => (·.withdrawableAllocationsSat)
  | closedConsumptionsSat => (·.closedConsumptionsSat)
  | pendingExternalSat => (·.pendingExternalSat)
  | settledExternalSat => (·.settledExternalSat)

def set (value : UInt64) : Column → ExpectedIssuerState → ExpectedIssuerState
  | peerCreditsSat, totals => { totals with peerCreditsSat := value }
  | peerDebitsSat, totals => { totals with peerDebitsSat := value }
  | closedDepositsSat, totals => { totals with closedDepositsSat := value }
  | withdrawableDepositsSat, totals => { totals with withdrawableDepositsSat := value }
  | closedAllocationsSat, totals => { totals with closedAllocationsSat := value }
  | withdrawableAllocationsSat, totals => { totals with withdrawableAllocationsSat := value }
  | closedConsumptionsSat, totals => { totals with closedConsumptionsSat := value }
  | pendingExternalSat, totals => { totals with pendingExternalSat := value }
  | settledExternalSat, totals => { totals with settledExternalSat := value }

end Column

abbrev ExpectedTotals := BTreeMap String ExpectedIssuerState

def invalidError (reason : String) : CreditError := .invalidSnapshot reason

def expectedState (expected : ExpectedTotals) (issuer : String) :
    Except CreditError ExpectedIssuerState :=
  okOr expected[issuer]? (invalidError "operation references unknown issuer")

/-- `add(&mut expected_state(expected, issuer)?.column, amount, reason)?`. -/
def add (expected : ExpectedTotals) (issuer : String) (column : Column) (amount : UInt64)
    (reason : String) : Except CreditError ExpectedTotals := do
  let totals ← expectedState expected issuer
  let target ← okOr ((column.get totals).checkedAdd amount) (invalidError reason)
  return expected.modify issuer (column.set target)

def count (value : Nat) : Except CreditError UInt64 :=
  if value < 2 ^ 64 then .ok (UInt64.ofNat value)
  else .error (invalidError "operation count overflow")

def checkedCountAdd (total : UInt64) (value : Nat) : Except CreditError UInt64 := do
  okOr (total.checkedAdd (← count value)) (invalidError "operation count overflow")

def validateIssuer (id : String) (issuer : IssuerSnapshotV1) : Except CreditError Unit := do
  rejectIf (isBlank id ∨ issuer.policy.issuer ≠ id ∨
    issuer.policy.maxPeerCreditSat < issuer.policy.maxOfflinePeerCreditSat ∨
    issuer.peerCredit.outstandingSat < issuer.peerCredit.offlineOutstandingSat ∨
    issuer.policy.maxPeerCreditSat < issuer.peerCredit.outstandingSat ∨
    issuer.policy.maxOfflinePeerCreditSat < issuer.peerCredit.offlineOutstandingSat ∨
    issuer.policy.maxClosedLoopSat < issuer.closedLoop.claimableSat)
    (invalidError "issuer policy or peer-credit caps")
  let withdrawableExposure ←
    okOr (issuer.withdrawable.redeemableSat.checkedAdd issuer.withdrawable.pendingExternalSat)
      (invalidError "withdrawable exposure overflow")
  rejectIf (issuer.policy.maxWithdrawableSat < withdrawableExposure)
    (invalidError "withdrawable exposure cap")
  let closedConserved ←
    okOr ((issuer.closedLoop.availableBackingSat.checkedAdd issuer.closedLoop.claimableSat).bind
      (·.checkedAdd issuer.closedLoop.consumedSat))
      (invalidError "closed-loop conservation overflow")
  rejectIf (closedConserved ≠ issuer.closedLoop.totalDepositedSat)
    (invalidError "closed-loop conservation")
  let withdrawableConserved ←
    okOr (((issuer.withdrawable.availableSat.checkedAdd issuer.withdrawable.redeemableSat).bind
      (·.checkedAdd issuer.withdrawable.pendingExternalSat)).bind
      (·.checkedAdd issuer.withdrawable.settledExternalSat))
      (invalidError "withdrawable conservation overflow")
  rejectIf (withdrawableConserved ≠ issuer.withdrawable.totalDepositedSat)
    (invalidError "withdrawable conservation")

structure EventReplay where
  ledgers : BTreeMap String PeerCreditLedger
  seenReceipts : Std.ExtTreeSet String compare
  seenNovations : Std.ExtTreeSet String compare
  seenSettlements : Std.ExtTreeSet String compare
  previousRevision : UInt64

/-- `event_ledger(&mut ledgers, issuer)?.method(..).map_err(|_| invalid_error(reason))?`. -/
def eventLedger (ledgers : BTreeMap String PeerCreditLedger) (issuer : String)
    (method : EStateM CreditError PeerCreditLedger Unit) (reason : String) :
    Except CreditError (BTreeMap String PeerCreditLedger) := do
  let ledger ← okOr ledgers[issuer]? (invalidError "peer-credit event references unknown issuer")
  match onClone method ledger with
  | .ok ledger => return ledgers.modify issuer fun _ => ledger
  | .error _ => .error (invalidError reason)

namespace CreditAccountSnapshotV1

def validateReceipt (self : CreditAccountSnapshotV1) (expected : ExpectedTotals) (key : String)
    (receipt : ServiceReceiptClaim) : Except CreditError ExpectedTotals := do
  rejectIf (key ≠ receipt.receiptId ∨ isBlank key ∨ receipt.counterparty ≠ self.counterparty ∨
    isBlank receipt.service ∨ isBlank receipt.resource ∨ receipt.usefulServiceUnits = 0 ∨
    receipt.amountSat = 0 ∨ receipt.expiresAtUnix ≤ receipt.issuedAtUnix)
    (invalidError "receipt record")
  match receipt.valueClass with
  | .peerCredit =>
    add expected receipt.issuer .peerCreditsSat receipt.amountSat "peer receipt total"
  | .closedLoopDeposit =>
    add expected receipt.issuer .closedAllocationsSat receipt.amountSat
      "closed-loop receipt total"
  | .reserveBackedWithdrawable =>
    add expected receipt.issuer .withdrawableAllocationsSat receipt.amountSat
      "withdrawable receipt total"

def validateNovation (self : CreditAccountSnapshotV1) (expected : ExpectedTotals) (key : String)
    (novation : CreditNovation) : Except CreditError ExpectedTotals := do
  rejectIf (key ≠ novation.novationId ∨ isBlank key ∨
    novation.counterparty ≠ self.counterparty ∨ novation.fromIssuer = novation.toIssuer ∨
    novation.amountSat = 0) (invalidError "novation record")
  let expected ← add expected novation.fromIssuer .peerDebitsSat novation.amountSat
    "novation debit total"
  add expected novation.toIssuer .peerCreditsSat novation.amountSat "novation credit total"

/-- One round of the loop over the deposits; the first component is `previous_key`. -/
def validateDeposit (state : Option (String × String) × ExpectedTotals)
    (deposit : BackingDeposit) :
    Except CreditError (Option (String × String) × ExpectedTotals) := do
  let (previousKey, expected) := state
  let key := (deposit.issuer, deposit.depositId)
  rejectIf (previousKey.any (fun previous => compare previous key ≠ .lt) ∨
    isBlank deposit.depositId ∨ deposit.amountSat = 0) (invalidError "backing deposit record")
  let _ ← expectedState expected deposit.issuer
  let expected ← match deposit.valueClass with
    | .peerCredit => .error (invalidError "peer-credit backing deposit")
    | .closedLoopDeposit =>
      add expected deposit.issuer .closedDepositsSat deposit.amountSat
        "closed-loop deposit total"
    | .reserveBackedWithdrawable =>
      add expected deposit.issuer .withdrawableDepositsSat deposit.amountSat
        "withdrawable deposit total"
  return (some key, expected)

def validateBackedSettlement (self : CreditAccountSnapshotV1) (expected : ExpectedTotals)
    (key : String) (settlement : BackedCreditSettlement) :
    Except CreditError ExpectedTotals := do
  rejectIf (key ≠ settlement.settlementId ∨ isBlank key ∨
    settlement.counterparty ≠ self.counterparty ∨ settlement.amountSat = 0)
    (invalidError "backed settlement record")
  let expected ← add expected settlement.fromIssuer .peerDebitsSat settlement.amountSat
    "backed settlement debit total"
  let _ ← expectedState expected settlement.backingIssuer
  match settlement.valueClass with
  | .peerCredit => .error (invalidError "peer-credit backed settlement")
  | .closedLoopDeposit =>
    add expected settlement.backingIssuer .closedAllocationsSat settlement.amountSat
      "backed closed-loop allocation total"
  | .reserveBackedWithdrawable =>
    add expected settlement.backingIssuer .withdrawableAllocationsSat settlement.amountSat
      "backed withdrawable allocation total"

def validateConsumption (self : CreditAccountSnapshotV1) (expected : ExpectedTotals)
    (key : String) (consumption : ClosedLoopConsumption) :
    Except CreditError ExpectedTotals := do
  rejectIf (key ≠ consumption.consumptionId ∨ isBlank key ∨
    consumption.counterparty ≠ self.counterparty ∨ isBlank consumption.resource ∨
    consumption.amountSat = 0) (invalidError "closed-loop consumption record")
  add expected consumption.issuer .closedConsumptionsSat consumption.amountSat
    "closed-loop consumption total"

def validateExternalSettlement (self : CreditAccountSnapshotV1) (expected : ExpectedTotals)
    (key : String) (record : SettlementRecordSnapshotV1) :
    Except CreditError ExpectedTotals := do
  let request := record.request
  let authorization := record.authorization
  let reservedSat ← okOr (request.amountSat.checkedAdd request.maxFeeSat)
    (invalidError "external reservation overflow")
  let expectedAuthorization : ExternalSettlementAuthorization := {
    settlementId := request.settlementId
    issuer := request.issuer
    counterparty := request.counterparty
    payoutDestination := request.payoutDestination
    amountSat := request.amountSat
    maxFeeSat := request.maxFeeSat
    reservedSat
    authorizedAtUnix := authorization.authorizedAtUnix
    expiresAtUnix := request.expiresAtUnix }
  rejectIf (key ≠ request.settlementId ∨ isBlank key ∨
    request.counterparty ≠ self.counterparty ∨ isBlank request.payoutDestination ∨
    request.amountSat = 0 ∨ authorization ≠ expectedAuthorization ∨
    authorization.expiresAtUnix ≤ authorization.authorizedAtUnix)
    (invalidError "external settlement record")
  let _ ← expectedState expected request.issuer
  match record.state with
  | .pending =>
    add expected request.issuer .pendingExternalSat reservedSat "pending settlement total"
  | .completed feeSat => do
    rejectIf (request.maxFeeSat < feeSat) (invalidError "completed settlement fee")
    let spentSat ← okOr (request.amountSat.checkedAdd feeSat)
      (invalidError "completed settlement overflow")
    add expected request.issuer .settledExternalSat spentSat "completed settlement total"
  | .cancelled => return expected

def validateReceipts (self : CreditAccountSnapshotV1) (expected : ExpectedTotals) :
    Except CreditError ExpectedTotals :=
  self.appliedReceipts.toList.foldlM (fun totals e => self.validateReceipt totals e.1 e.2) expected

def validateNovations (self : CreditAccountSnapshotV1) (expected : ExpectedTotals) :
    Except CreditError ExpectedTotals :=
  self.novations.toList.foldlM (fun totals e => self.validateNovation totals e.1 e.2) expected

def validateDeposits (self : CreditAccountSnapshotV1) (expected : ExpectedTotals) :
    Except CreditError ExpectedTotals := do
  return (← self.backingDeposits.foldlM validateDeposit (none, expected)).2

def validateBackedSettlements (self : CreditAccountSnapshotV1) (expected : ExpectedTotals) :
    Except CreditError ExpectedTotals :=
  self.backedSettlements.toList.foldlM
    (fun totals e => self.validateBackedSettlement totals e.1 e.2) expected

def validateConsumptions (self : CreditAccountSnapshotV1) (expected : ExpectedTotals) :
    Except CreditError ExpectedTotals :=
  self.closedLoopConsumptions.toList.foldlM
    (fun totals e => self.validateConsumption totals e.1 e.2) expected

def validateExternalSettlements (self : CreditAccountSnapshotV1) (expected : ExpectedTotals) :
    Except CreditError ExpectedTotals :=
  self.settlements.toList.foldlM
    (fun totals e => self.validateExternalSettlement totals e.1 e.2) expected

/-- One round of the loop over the event log. -/
def replayEvent (self : CreditAccountSnapshotV1) (replay : EventReplay)
    (event : PeerCreditEvent) : Except CreditError EventReplay := do
  rejectIf (event.revision = 0 ∨ event.revision ≤ replay.previousRevision ∨
    self.revision < event.revision) (invalidError "peer-credit event revision")
  let replay := { replay with previousRevision := event.revision }
  match event with
  | .receipt _ receiptId mode =>
    rejectIf (receiptId ∈ replay.seenReceipts) (invalidError "duplicate peer-credit receipt event")
    let receipt ← okOr self.appliedReceipts[receiptId]?
      (invalidError "peer-credit receipt event is missing")
    rejectIf (receipt.valueClass ≠ .peerCredit)
      (invalidError "peer-credit receipt event has wrong value class")
    let ledgers ← eventLedger replay.ledgers receipt.issuer
      (PeerCreditLedger.credit receipt.amountSat (mode = .offlineDeferred))
      "peer-credit receipt event cannot apply"
    return { replay with ledgers, seenReceipts := replay.seenReceipts.insert receiptId }
  | .novation _ novationId =>
    rejectIf (novationId ∈ replay.seenNovations)
      (invalidError "duplicate peer-credit novation event")
    let novation ← okOr self.novations[novationId]?
      (invalidError "peer-credit novation event is missing")
    let ledgers ← eventLedger replay.ledgers novation.fromIssuer
      (PeerCreditLedger.debit novation.amountSat) "peer-credit novation event cannot debit"
    let ledgers ← eventLedger ledgers novation.toIssuer
      (PeerCreditLedger.credit novation.amountSat false)
      "peer-credit novation event cannot credit"
    return { replay with ledgers, seenNovations := replay.seenNovations.insert novationId }
  | .backedSettlement _ settlementId =>
    rejectIf (settlementId ∈ replay.seenSettlements)
      (invalidError "duplicate backed-settlement event")
    let settlement ← okOr self.backedSettlements[settlementId]?
      (invalidError "peer-credit backed-settlement event is missing")
    let ledgers ← eventLedger replay.ledgers settlement.fromIssuer
      (PeerCreditLedger.debit settlement.amountSat)
      "peer-credit backed-settlement event cannot debit"
    return { replay with ledgers, seenSettlements := replay.seenSettlements.insert settlementId }

def replayStart (self : CreditAccountSnapshotV1) : EventReplay :=
  ⟨self.issuers.map fun _ _ => .zero, ∅, ∅, ∅, 0⟩

def validatePeerCreditEvents (self : CreditAccountSnapshotV1) : Except CreditError Unit := do
  let replay ← self.peerCreditEvents.foldlM self.replayEvent self.replayStart
  rejectIf (replay.seenReceipts.size ≠
      (self.appliedReceipts.toList.filter fun e => e.2.valueClass = .peerCredit).length ∨
    replay.seenNovations.size ≠ self.novations.size ∨
    replay.seenSettlements.size ≠ self.backedSettlements.size)
    (invalidError "peer-credit event coverage")
  -- `self.issuers[&issuer]` is always there: `ledgers` was built from the same keys.
  rejectIf (replay.ledgers.toList.any fun (issuer, ledger) =>
      self.issuers[issuer]?.any fun stored =>
        ledger.outstandingSat ≠ stored.peerCredit.outstandingSat ||
          ledger.offlineOutstandingSat ≠ stored.peerCredit.offlineOutstandingSat)
    (invalidError "peer-credit event replay")

/-- One round of the loop of `validate_totals`, with the running sum of peer credit. -/
def validateIssuerTotals (expected : ExpectedTotals) (totalPeerCreditSat : UInt64)
    (issuerId : String) (issuer : IssuerSnapshotV1) : Except CreditError UInt64 := do
  let totals ← okOr expected[issuerId]? (invalidError "missing expected issuer state")
  rejectIf (totals.closedDepositsSat ≠ issuer.closedLoop.totalDepositedSat ∨
    totals.withdrawableDepositsSat ≠ issuer.withdrawable.totalDepositedSat)
    (invalidError "backing deposit totals")
  let expectedPeer ← okOr (totals.peerCreditsSat.checkedSub totals.peerDebitsSat)
    (invalidError "peer-credit operation totals")
  rejectIf (expectedPeer ≠ issuer.peerCredit.outstandingSat)
    (invalidError "peer-credit ledger total")
  let closedAllocated ←
    okOr (issuer.closedLoop.claimableSat.checkedAdd issuer.closedLoop.consumedSat)
      (invalidError "closed-loop allocation overflow")
  rejectIf (totals.closedAllocationsSat ≠ closedAllocated ∨
    totals.closedConsumptionsSat ≠ issuer.closedLoop.consumedSat)
    (invalidError "closed-loop allocation totals")
  let withdrawableAllocated ←
    okOr ((issuer.withdrawable.redeemableSat.checkedAdd
      issuer.withdrawable.pendingExternalSat).bind
      (·.checkedAdd issuer.withdrawable.settledExternalSat))
      (invalidError "withdrawable allocation overflow")
  rejectIf (totals.withdrawableAllocationsSat ≠ withdrawableAllocated ∨
    totals.pendingExternalSat ≠ issuer.withdrawable.pendingExternalSat ∨
    totals.settledExternalSat ≠ issuer.withdrawable.settledExternalSat)
    (invalidError "withdrawable allocation or settlement totals")
  okOr (totalPeerCreditSat.checkedAdd issuer.peerCredit.outstandingSat)
    (invalidError "total peer credit")

def validateTotals (self : CreditAccountSnapshotV1) (expected : ExpectedTotals) :
    Except CreditError Unit := do
  let totalPeerCreditSat ← self.issuers.toList.foldlM
    (fun total e => validateIssuerTotals expected total e.1 e.2) 0
  rejectIf (totalPeerCreditSat ≠ self.totalPeerCreditSat ∨
    self.maxTotalPeerCreditSat < totalPeerCreditSat)
    (invalidError "aggregate peer-credit total")

/-- One round of the loop that counts the settlements that are no longer pending. -/
def countDecided (expectedRevision : UInt64) (record : SettlementRecordSnapshotV1) :
    Except CreditError UInt64 :=
  if record.state = .pending then .ok expectedRevision
  else okOr (expectedRevision.checkedAdd 1) (invalidError "revision operation count overflow")

def validateRevision (self : CreditAccountSnapshotV1) : Except CreditError Unit := do
  let expectedRevision ← count self.appliedReceipts.size
  let expectedRevision ← checkedCountAdd expectedRevision self.novations.size
  let expectedRevision ← checkedCountAdd expectedRevision self.backingDeposits.length
  let expectedRevision ← checkedCountAdd expectedRevision self.backedSettlements.size
  let expectedRevision ← checkedCountAdd expectedRevision self.closedLoopConsumptions.size
  let expectedRevision ← checkedCountAdd expectedRevision self.settlements.size
  let expectedRevision ← self.settlements.toList.foldlM
    (fun revision e => countDecided revision e.2) expectedRevision
  rejectIf (self.revision ≠ expectedRevision)
    (invalidError "revision does not match applied operations")

/-- One round of the loop over the issuers. -/
def expectIssuer (expected : ExpectedTotals) (id : String) (issuer : IssuerSnapshotV1) :
    Except CreditError ExpectedTotals := do
  validateIssuer id issuer
  return expected.insert id .zero

def validate (self : CreditAccountSnapshotV1) : Except CreditError Unit := do
  rejectIf (self.version ≠ snapshotVersion) .unsupportedSnapshotVersion
  rejectIf (isBlank self.counterparty ∨ self.issuers.isEmpty)
    (invalidError "account identity or issuer set")
  let expected ← self.issuers.toList.foldlM (fun totals e => expectIssuer totals e.1 e.2) ∅
  let expected ← self.validateReceipts expected
  let expected ← self.validateNovations expected
  let expected ← self.validateDeposits expected
  let expected ← self.validateBackedSettlements expected
  self.validatePeerCreditEvents
  let expected ← self.validateConsumptions expected
  let expected ← self.validateExternalSettlements expected
  self.validateTotals expected
  self.validateRevision

end CreditAccountSnapshotV1

def IssuerSnapshotV1.ofState (issuer : IssuerState) : IssuerSnapshotV1 where
  policy := issuer.policy
  peerCredit := ⟨issuer.peerCredit.outstandingSat, issuer.peerCredit.offlineOutstandingSat⟩
  closedLoop := ⟨issuer.closedLoop.totalDepositedSat, issuer.closedLoop.availableBackingSat,
    issuer.closedLoop.claimableSat, issuer.closedLoop.consumedSat⟩
  withdrawable := ⟨issuer.withdrawable.totalDepositedSat, issuer.withdrawable.availableSat,
    issuer.withdrawable.redeemableSat, issuer.withdrawable.pendingExternalSat,
    issuer.withdrawable.settledExternalSat⟩

def IssuerState.ofSnapshot (issuer : IssuerSnapshotV1) : IssuerState where
  policy := issuer.policy
  peerCredit := ⟨issuer.peerCredit.outstandingSat, issuer.peerCredit.offlineOutstandingSat⟩
  closedLoop := ⟨issuer.closedLoop.totalDepositedSat, issuer.closedLoop.availableBackingSat,
    issuer.closedLoop.claimableSat, issuer.closedLoop.consumedSat⟩
  withdrawable := ⟨issuer.withdrawable.totalDepositedSat, issuer.withdrawable.availableSat,
    issuer.withdrawable.redeemableSat, issuer.withdrawable.pendingExternalSat,
    issuer.withdrawable.settledExternalSat⟩

def SettlementStateSnapshotV1.ofState : SettlementState → SettlementStateSnapshotV1
  | .pending => .pending
  | .completed feeSat => .completed feeSat
  | .cancelled => .cancelled

def SettlementState.ofSnapshot : SettlementStateSnapshotV1 → SettlementState
  | .pending => .pending
  | .completed feeSat => .completed feeSat
  | .cancelled => .cancelled

def SettlementRecordSnapshotV1.ofRecord (record : SettlementRecord) :
    SettlementRecordSnapshotV1 :=
  ⟨record.request, record.authorization, .ofState record.state⟩

def SettlementRecord.ofSnapshot (record : SettlementRecordSnapshotV1) : SettlementRecord :=
  ⟨record.request, record.authorization, .ofSnapshot record.state⟩

namespace CreditAccount

def snapshot (self : CreditAccount) : CreditAccountSnapshotV1 where
  version := snapshotVersion
  revision := self.revision
  counterparty := self.counterparty
  maxTotalPeerCreditSat := self.maxTotalPeerCreditSat
  totalPeerCreditSat := self.totalPeerCreditSat
  issuers := self.issuers.map fun _ issuer => .ofState issuer
  appliedReceipts := self.appliedReceipts
  peerCreditEvents := self.peerCreditEvents
  novations := self.novations
  backingDeposits := self.backingDeposits.toList.map (·.2)
  backedSettlements := self.backedSettlements
  closedLoopConsumptions := self.closedLoopConsumptions
  settlements := self.settlements.map fun _ record => .ofRecord record

/-- The conversion at the end of `from_snapshot`, which only a validated snapshot reaches. -/
def ofSnapshot (snapshot : CreditAccountSnapshotV1) : CreditAccount where
  revision := snapshot.revision
  counterparty := snapshot.counterparty
  maxTotalPeerCreditSat := snapshot.maxTotalPeerCreditSat
  totalPeerCreditSat := snapshot.totalPeerCreditSat
  issuers := snapshot.issuers.map fun _ issuer => .ofSnapshot issuer
  appliedReceipts := snapshot.appliedReceipts
  peerCreditEvents := snapshot.peerCreditEvents
  novations := snapshot.novations
  backingDeposits := snapshot.backingDeposits.foldl
    (fun deposits deposit => deposits.insert (deposit.issuer, deposit.depositId) deposit) ∅
  backedSettlements := snapshot.backedSettlements
  closedLoopConsumptions := snapshot.closedLoopConsumptions
  settlements := snapshot.settlements.map fun _ record => .ofSnapshot record

def fromSnapshot (snapshot : CreditAccountSnapshotV1) : Except CreditError CreditAccount := do
  snapshot.validate
  return ofSnapshot snapshot

end CreditAccount

/-- An error of `serde_json`, of which the code keeps the message alone. -/
structure SerdeJsonError where
  message : String
  deriving DecidableEq, Repr

inductive SnapshotError where
  | json (error : SerdeJsonError)
  | credit (error : CreditError)
  deriving DecidableEq, Repr

structure SerdeJson where
  toString : CreditAccountSnapshotV1 → Except SerdeJsonError String
  fromStr : String → Except SerdeJsonError CreditAccountSnapshotV1

def SerdeJson.Faithful (serde : SerdeJson) : Prop :=
  ∀ s text, serde.toString s = .ok text → serde.fromStr text = .ok s

namespace CreditAccountSnapshotV1

def encodeJson (serde : SerdeJson) (self : CreditAccountSnapshotV1) :
    Except SnapshotError String :=
  (serde.toString self).mapError .json

def decodeJson (serde : SerdeJson) (encoded : String) :
    Except SnapshotError CreditAccountSnapshotV1 := do
  let snapshot ← (serde.fromStr encoded).mapError .json
  snapshot.validate.mapError .credit
  return snapshot

end CreditAccountSnapshotV1
end CashuService
