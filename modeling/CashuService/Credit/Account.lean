import CashuService.Credit.Ledger
set_option autoImplicit false

namespace CashuService

inductive PeerCreditEvent where
  | receipt (revision : UInt64) (receiptId : String) (mode : AcceptanceMode)
  | novation (revision : UInt64) (novationId : String)
  | backedSettlement (revision : UInt64) (settlementId : String)
  deriving DecidableEq, Repr

def PeerCreditEvent.revision : PeerCreditEvent → UInt64
  | .receipt revision _ _ | .novation revision _ | .backedSettlement revision _ => revision

structure IssuerState where
  policy : IssuerPolicy
  peerCredit : PeerCreditLedger
  closedLoop : ClosedLoopLedger
  withdrawable : WithdrawableReserveLedger
  deriving DecidableEq, Repr

namespace IssuerState

def new (policy : IssuerPolicy) : IssuerState := ⟨policy, .zero, .zero, .zero⟩

def ensureActive (self : IssuerState) (nowUnix : UInt64) : Except CreditError Unit :=
  match self.policy.expiresAtUnix with
  | some expires => rejectIf (expires ≤ nowUnix) .policyExpired
  | none => .ok ()

def closedLoopMut (method : EStateM CreditError ClosedLoopLedger Unit) :
    EStateM CreditError IssuerState Unit :=
  zoom closedLoop (fun ledger self => { self with closedLoop := ledger }) method

def withdrawableMut (method : EStateM CreditError WithdrawableReserveLedger Unit) :
    EStateM CreditError IssuerState Unit :=
  zoom withdrawable (fun ledger self => { self with withdrawable := ledger }) method

end IssuerState

inductive SettlementState where
  | pending
  | completed (feeSat : UInt64)
  | cancelled
  deriving DecidableEq, Repr

structure SettlementRecord where
  request : ExternalSettlementRequest
  authorization : ExternalSettlementAuthorization
  state : SettlementState
  deriving DecidableEq, Repr

/-- Counterparty-local accounting across a bounded set of trusted issuers. -/
structure CreditAccount where
  revision : UInt64
  counterparty : String
  maxTotalPeerCreditSat : UInt64
  totalPeerCreditSat : UInt64
  issuers : BTreeMap String IssuerState
  appliedReceipts : BTreeMap String ServiceReceiptClaim
  peerCreditEvents : List PeerCreditEvent
  novations : BTreeMap String CreditNovation
  backingDeposits : BTreeMap (String × String) BackingDeposit
  backedSettlements : BTreeMap String BackedCreditSettlement
  closedLoopConsumptions : BTreeMap String ClosedLoopConsumption
  settlements : BTreeMap String SettlementRecord
  deriving DecidableEq

abbrev AccountM := EStateM CreditError CreditAccount

namespace CreditAccount

/-- One round of the loop of `new` over the listed issuers. -/
def insertIssuer (issuers : BTreeMap String IssuerState) (issuer : IssuerPolicy) :
    Except CreditError (BTreeMap String IssuerState) := do
  rejectIf (isBlank issuer.issuer ∨
    issuer.maxPeerCreditSat < issuer.maxOfflinePeerCreditSat) .invalidPolicy
  rejectIf (issuers[issuer.issuer]?.isSome) .duplicateIssuer
  return issuers.insert issuer.issuer (.new issuer)

def new (policy : AccountPolicy) : Except CreditError CreditAccount := do
  rejectIf (isBlank policy.counterparty) .invalidPolicy
  rejectIf (policy.issuers = []) .noIssuers
  let issuers ← policy.issuers.foldlM insertIssuer ∅
  return {
    revision := 0
    counterparty := policy.counterparty
    maxTotalPeerCreditSat := policy.maxTotalPeerCreditSat
    totalPeerCreditSat := 0
    issuers
    appliedReceipts := ∅
    peerCreditEvents := []
    novations := ∅
    backingDeposits := ∅
    backedSettlements := ∅
    closedLoopConsumptions := ∅
    settlements := ∅ }

def issuer (self : CreditAccount) (issuer : String) : Except CreditError IssuerState :=
  okOr self.issuers[issuer]? .wrongIssuer

def nextRevision (self : CreditAccount) : Except CreditError UInt64 :=
  okOr (self.revision.checkedAdd 1) .revisionOverflow

def requireOnline (mode : AcceptanceMode) : Except CreditError Unit :=
  rejectIf (mode = .offlineDeferred) .backingVerificationRequired

def validateReceiptIdentity (self : CreditAccount) (claim : ServiceReceiptClaim)
    (authenticatedIssuer : String) : Except CreditError Unit := do
  rejectIf (claim.counterparty ≠ self.counterparty) .wrongCounterparty
  rejectIf (claim.issuer ≠ authenticatedIssuer) .unauthenticatedIssuer
  let _ ← self.issuer claim.issuer
  rejectIf (isBlank claim.receiptId) .missingReceiptId

def validateReceipt (self : CreditAccount) (claim : ServiceReceiptClaim)
    (authenticatedIssuer : String) (nowUnix : UInt64) : Except CreditError Unit := do
  self.validateReceiptIdentity claim authenticatedIssuer
  (← self.issuer claim.issuer).ensureActive nowUnix
  rejectIf (claim.expiresAtUnix ≤ nowUnix) .receiptExpired
  rejectIf (nowUnix < claim.issuedAtUnix) .receiptNotYetValid
  rejectIf (isBlank claim.service ∨ isBlank claim.resource ∨ claim.usefulServiceUnits = 0)
    .noUsefulService
  rejectIf (claim.amountSat = 0) .zeroAmount

def validateNovationIdentity (self : CreditAccount) (novation : CreditNovation)
    (authenticatedToIssuer : String) : Except CreditError Unit := do
  rejectIf (novation.counterparty ≠ self.counterparty) .wrongCounterparty
  rejectIf (novation.toIssuer ≠ authenticatedToIssuer) .unauthenticatedIssuer
  rejectIf (novation.fromIssuer = novation.toIssuer) .sameIssuerNovation
  rejectIf (isBlank novation.novationId) .missingNovationId
  let _ ← self.issuer novation.fromIssuer
  let _ ← self.issuer novation.toIssuer

def validateNovation (self : CreditAccount) (novation : CreditNovation)
    (authenticatedToIssuer : String) (nowUnix : UInt64) : Except CreditError Unit := do
  self.validateNovationIdentity novation authenticatedToIssuer
  rejectIf (novation.expiresAtUnix ≤ nowUnix) .novationExpired
  rejectIf (novation.amountSat = 0) .zeroAmount
  (← self.issuer novation.fromIssuer).ensureActive nowUnix
  (← self.issuer novation.toIssuer).ensureActive nowUnix

def validateBackingDeposit (self : CreditAccount) (deposit : BackingDeposit)
    (authenticatedIssuer : String) : Except CreditError Unit := do
  rejectIf (deposit.issuer ≠ authenticatedIssuer) .unauthenticatedIssuer
  let _ ← self.issuer deposit.issuer
  rejectIf (isBlank deposit.depositId) .missingDepositId
  rejectIf (deposit.amountSat = 0) .zeroAmount
  rejectIf (deposit.valueClass = .peerCredit) .unsupportedBackingClass

def validateBackedSettlementIdentity (self : CreditAccount)
    (settlement : BackedCreditSettlement) (authenticatedBackingIssuer : String) :
    Except CreditError Unit := do
  rejectIf (settlement.counterparty ≠ self.counterparty) .wrongCounterparty
  rejectIf (settlement.backingIssuer ≠ authenticatedBackingIssuer) .unauthenticatedIssuer
  let _ ← self.issuer settlement.fromIssuer
  let _ ← self.issuer settlement.backingIssuer
  rejectIf (isBlank settlement.settlementId) .missingBackedSettlementId

def validateBackedSettlement (self : CreditAccount) (settlement : BackedCreditSettlement)
    (authenticatedBackingIssuer : String) (nowUnix : UInt64) : Except CreditError Unit := do
  self.validateBackedSettlementIdentity settlement authenticatedBackingIssuer
  (← self.issuer settlement.fromIssuer).ensureActive nowUnix
  (← self.issuer settlement.backingIssuer).ensureActive nowUnix
  rejectIf (settlement.expiresAtUnix ≤ nowUnix) .backedSettlementExpired
  rejectIf (settlement.amountSat = 0) .zeroAmount
  rejectIf (settlement.valueClass = .peerCredit) .unsupportedBackingClass

def validateClosedLoopConsumption (self : CreditAccount) (consumption : ClosedLoopConsumption)
    (authenticatedCounterparty : String) : Except CreditError Unit := do
  rejectIf (consumption.counterparty ≠ self.counterparty) .wrongCounterparty
  rejectIf (consumption.counterparty ≠ authenticatedCounterparty) .unauthenticatedCounterparty
  let _ ← self.issuer consumption.issuer
  rejectIf (isBlank consumption.consumptionId) .missingClosedLoopConsumptionId
  rejectIf (isBlank consumption.resource) .noUsefulService
  rejectIf (consumption.amountSat = 0) .zeroAmount

def validateSettlementIdentity (self : CreditAccount) (request : ExternalSettlementRequest)
    (authenticatedCounterparty : String) : Except CreditError Unit := do
  rejectIf (request.counterparty ≠ self.counterparty) .wrongCounterparty
  rejectIf (request.counterparty ≠ authenticatedCounterparty) .unauthenticatedCounterparty
  let _ ← self.issuer request.issuer
  rejectIf (isBlank request.settlementId) .missingSettlementId

def validateSettlement (self : CreditAccount) (request : ExternalSettlementRequest)
    (authenticatedCounterparty : String) (nowUnix : UInt64) : Except CreditError Unit := do
  self.validateSettlementIdentity request authenticatedCounterparty
  (← self.issuer request.issuer).ensureActive nowUnix
  rejectIf (request.expiresAtUnix ≤ nowUnix) .settlementExpired
  rejectIf (request.amountSat = 0) .zeroAmount
  rejectIf (isBlank request.payoutDestination) .missingPayoutDestination

def ensureWithdrawableCapacity (self : CreditAccount) (issuer : String)
    (ledger : WithdrawableReserveLedger) (additionalSat : UInt64) :
    Except CreditError Unit := do
  let exposure ← okOr ((ledger.redeemableSat.checkedAdd ledger.pendingExternalSat).bind
    (·.checkedAdd additionalSat)) .arithmeticOverflow
  rejectIf ((← self.issuer issuer).policy.maxWithdrawableSat < exposure)
    .withdrawableExposureExceeded

/-- `self.issuer_mut(issuer)?` followed by a method of the issuer state. -/
def issuerMut (issuer : String) (method : EStateM CreditError IssuerState Unit) :
    AccountM Unit := fun self =>
  match self.issuers[issuer]? with
  | none => .error .wrongIssuer self
  | some state =>
    match method state with
    | .ok _ state' => .ok () { self with issuers := self.issuers.modify issuer fun _ => state' }
    | .error e state' =>
      .error e { self with issuers := self.issuers.modify issuer fun _ => state' }

def applyPeerCredit (claim : ServiceReceiptClaim) (mode : AcceptanceMode) :
    AccountM Unit := do
  let self ← get
  let (ledger, total) ← attempt do
    let ledger ← onClone (PeerCreditLedger.credit claim.amountSat (mode = .offlineDeferred))
      (← self.issuer claim.issuer).peerCredit
    let issuerPolicy := (← self.issuer claim.issuer).policy
    rejectIf (issuerPolicy.maxPeerCreditSat < ledger.outstandingSat) .issuerExposureExceeded
    rejectIf (issuerPolicy.maxOfflinePeerCreditSat < ledger.offlineOutstandingSat)
      .offlineExposureExceeded
    let total ← okOr (self.totalPeerCreditSat.checkedAdd claim.amountSat) .arithmeticOverflow
    rejectIf (self.maxTotalPeerCreditSat < total) .totalExposureExceeded
    return (ledger, total)
  issuerMut claim.issuer (modify fun state => { state with peerCredit := ledger })
  modify fun self => { self with totalPeerCreditSat := total }

def applyClosedLoop (claim : ServiceReceiptClaim) : AccountM Unit := do
  let self ← get
  let ledger ← attempt do
    let ledger := (← self.issuer claim.issuer).closedLoop
    let resulting ← okOr (ledger.claimableSat.checkedAdd claim.amountSat) .arithmeticOverflow
    rejectIf ((← self.issuer claim.issuer).policy.maxClosedLoopSat < resulting)
      .closedLoopExposureExceeded
    onClone (ClosedLoopLedger.allocate claim.amountSat) ledger
  issuerMut claim.issuer (modify fun state => { state with closedLoop := ledger })

def applyWithdrawable (claim : ServiceReceiptClaim) : AccountM Unit := do
  let self ← get
  let ledger ← attempt do
    let ledger := (← self.issuer claim.issuer).withdrawable
    self.ensureWithdrawableCapacity claim.issuer ledger claim.amountSat
    onClone (WithdrawableReserveLedger.allocate claim.amountSat) ledger
  issuerMut claim.issuer (modify fun state => { state with withdrawable := ledger })

def recordBackingDeposit (deposit : BackingDeposit) (authenticatedIssuer : String) :
    AccountM ReceiptApplication := do
  attempt ((← get).validateBackingDeposit deposit authenticatedIssuer)
  let operationKey := (deposit.issuer, deposit.depositId)
  match (← get).backingDeposits[operationKey]? with
  | some existing =>
    if existing = deposit then return .alreadyApplied else throw .depositConflict
  | none =>
    let revision ← attempt (← get).nextRevision
    (match deposit.valueClass with
      | .closedLoopDeposit =>
        issuerMut deposit.issuer
          (IssuerState.closedLoopMut (ClosedLoopLedger.deposit deposit.amountSat))
      | .reserveBackedWithdrawable =>
        issuerMut deposit.issuer
          (IssuerState.withdrawableMut (WithdrawableReserveLedger.deposit deposit.amountSat))
      | .peerCredit => throw .unsupportedBackingClass)
    modify fun self =>
      { self with backingDeposits := self.backingDeposits.insert operationKey deposit }
    modify fun self => { self with revision }
    return .applied

def applyReceipt (claim : ServiceReceiptClaim) (authenticatedIssuer : String)
    (mode : AcceptanceMode) (nowUnix : UInt64) : AccountM ReceiptApplication := do
  attempt ((← get).validateReceiptIdentity claim authenticatedIssuer)
  match (← get).appliedReceipts[claim.receiptId]? with
  | some existing =>
    if existing = claim then return .alreadyApplied else throw .receiptConflict
  | none =>
    attempt ((← get).validateReceipt claim authenticatedIssuer nowUnix)
    let revision ← attempt (← get).nextRevision
    (match claim.valueClass with
      | .peerCredit => applyPeerCredit claim mode
      | .closedLoopDeposit => do attempt (requireOnline mode); applyClosedLoop claim
      | .reserveBackedWithdrawable => do attempt (requireOnline mode); applyWithdrawable claim)
    modify fun self => if claim.valueClass = .peerCredit then
      { self with
        peerCreditEvents := self.peerCreditEvents ++ [.receipt revision claim.receiptId mode] }
      else self
    modify fun self =>
      { self with appliedReceipts := self.appliedReceipts.insert claim.receiptId claim }
    modify fun self => { self with revision }
    return .applied

def novatePeerCredit (novation : CreditNovation) (authenticatedToIssuer : String)
    (nowUnix : UInt64) : AccountM Unit := do
  attempt ((← get).validateNovationIdentity novation authenticatedToIssuer)
  match (← get).novations[novation.novationId]? with
  | some existing => if existing = novation then return () else throw .novationConflict
  | none =>
    attempt ((← get).validateNovation novation authenticatedToIssuer nowUnix)
    let revision ← attempt (← get).nextRevision
    let self ← get
    let (source, target) ← attempt do
      let source := (← self.issuer novation.fromIssuer).peerCredit
      let target := (← self.issuer novation.toIssuer).peerCredit
      let source ← onClone (PeerCreditLedger.debit novation.amountSat) source
      let target ← onClone (PeerCreditLedger.credit novation.amountSat false) target
      rejectIf ((← self.issuer novation.toIssuer).policy.maxPeerCreditSat <
        target.outstandingSat) .issuerExposureExceeded
      return (source, target)
    issuerMut novation.fromIssuer (modify fun state => { state with peerCredit := source })
    issuerMut novation.toIssuer (modify fun state => { state with peerCredit := target })
    modify fun self => { self with
      peerCreditEvents := self.peerCreditEvents ++ [.novation revision novation.novationId] }
    modify fun self =>
      { self with novations := self.novations.insert novation.novationId novation }
    modify fun self => { self with revision }

def settlePeerCreditWithBacking (settlement : BackedCreditSettlement)
    (authenticatedBackingIssuer : String) (nowUnix : UInt64) :
    AccountM ReceiptApplication := do
  attempt ((← get).validateBackedSettlementIdentity settlement authenticatedBackingIssuer)
  match (← get).backedSettlements[settlement.settlementId]? with
  | some existing =>
    if existing = settlement then return .alreadyApplied else throw .backedSettlementConflict
  | none =>
    attempt ((← get).validateBackedSettlement settlement authenticatedBackingIssuer nowUnix)
    let revision ← attempt (← get).nextRevision
    let self ← get
    let (source, remainingPeerCredit) ← attempt do
      let source ← onClone (PeerCreditLedger.debit settlement.amountSat)
        (← self.issuer settlement.fromIssuer).peerCredit
      let remaining ← okOr (self.totalPeerCreditSat.checkedSub settlement.amountSat)
        .conservationViolation
      return (source, remaining)
    (match settlement.valueClass with
      | .closedLoopDeposit => do
        let backing ← attempt do
          let backing := (← self.issuer settlement.backingIssuer).closedLoop
          let exposure ← okOr (backing.claimableSat.checkedAdd settlement.amountSat)
            .arithmeticOverflow
          rejectIf ((← self.issuer settlement.backingIssuer).policy.maxClosedLoopSat < exposure)
            .closedLoopExposureExceeded
          onClone (ClosedLoopLedger.allocate settlement.amountSat) backing
        issuerMut settlement.backingIssuer (modify fun state =>
          { state with closedLoop := backing })
      | .reserveBackedWithdrawable => do
        let backing ← attempt do
          let backing := (← self.issuer settlement.backingIssuer).withdrawable
          self.ensureWithdrawableCapacity settlement.backingIssuer backing settlement.amountSat
          onClone (WithdrawableReserveLedger.allocate settlement.amountSat) backing
        issuerMut settlement.backingIssuer (modify fun state =>
          { state with withdrawable := backing })
      | .peerCredit => throw .unsupportedBackingClass)
    issuerMut settlement.fromIssuer (modify fun state => { state with peerCredit := source })
    modify fun self => { self with totalPeerCreditSat := remainingPeerCredit }
    modify fun self => { self with peerCreditEvents :=
      self.peerCreditEvents ++ [.backedSettlement revision settlement.settlementId] }
    modify fun self => { self with
      backedSettlements := self.backedSettlements.insert settlement.settlementId settlement }
    modify fun self => { self with revision }
    return .applied

def consumeClosedLoop (consumption : ClosedLoopConsumption)
    (authenticatedCounterparty : String) : AccountM ReceiptApplication := do
  attempt ((← get).validateClosedLoopConsumption consumption authenticatedCounterparty)
  match (← get).closedLoopConsumptions[consumption.consumptionId]? with
  | some existing =>
    if existing = consumption then return .alreadyApplied
    else throw .closedLoopConsumptionConflict
  | none =>
    let revision ← attempt (← get).nextRevision
    issuerMut consumption.issuer
      (IssuerState.closedLoopMut (ClosedLoopLedger.consume consumption.amountSat))
    modify fun self => { self with closedLoopConsumptions :=
      self.closedLoopConsumptions.insert consumption.consumptionId consumption }
    modify fun self => { self with revision }
    return .applied

def authorizationFor (request : ExternalSettlementRequest) (reservedSat nowUnix : UInt64) :
    ExternalSettlementAuthorization where
  settlementId := request.settlementId
  issuer := request.issuer
  counterparty := request.counterparty
  payoutDestination := request.payoutDestination
  amountSat := request.amountSat
  maxFeeSat := request.maxFeeSat
  reservedSat
  authorizedAtUnix := nowUnix
  expiresAtUnix := request.expiresAtUnix

def authorizeExternalSettlement (request : ExternalSettlementRequest)
    (authenticatedCounterparty : String) (nowUnix : UInt64) :
    AccountM ExternalSettlementAuthorization := do
  attempt ((← get).validateSettlementIdentity request authenticatedCounterparty)
  match (← get).settlements[request.settlementId]? with
  | some existing =>
    if existing.request ≠ request then throw .settlementConflict
    else match existing.state with
      | .pending => return existing.authorization
      | .completed _ => throw .settlementCompleted
      | .cancelled => throw .settlementCancelled
  | none =>
    attempt ((← get).validateSettlement request authenticatedCounterparty nowUnix)
    let revision ← attempt (← get).nextRevision
    let reservedSat ←
      attempt (okOr (request.amountSat.checkedAdd request.maxFeeSat) .arithmeticOverflow)
    issuerMut request.issuer
      (IssuerState.withdrawableMut (WithdrawableReserveLedger.authorize reservedSat))
    let authorization := authorizationFor request reservedSat nowUnix
    let record : SettlementRecord := ⟨request, authorization, .pending⟩
    modify fun self =>
      { self with settlements := self.settlements.insert request.settlementId record }
    modify fun self => { self with revision }
    return authorization

def pendingExternalSettlementAuthorizations (self : CreditAccount) :
    List ExternalSettlementAuthorization :=
  self.settlements.toList.filterMap fun (_, record) =>
    if record.state = .pending then some record.authorization else none

def setSettlementState (settlementId : String) (state : SettlementState) : AccountM Unit :=
  modify fun self => { self with
    settlements := self.settlements.modify settlementId fun record => { record with state } }

def completeExternalSettlement (settlementId : String) (actualFeeSat : UInt64) :
    AccountM Unit := do
  let record ← attempt (okOr (← get).settlements[settlementId]? .unknownSettlement)
  match record.state with
  | .completed feeSat =>
    if feeSat = actualFeeSat then return () else throw .settlementCompletionConflict
  | .cancelled => throw .settlementCancelled
  | .pending =>
    attempt (rejectIf (record.request.maxFeeSat < actualFeeSat) .settlementFeeExceeded)
    let revision ← attempt (← get).nextRevision
    let spentSat ←
      attempt (okOr (record.request.amountSat.checkedAdd actualFeeSat) .arithmeticOverflow)
    let unusedFeeSat := record.request.maxFeeSat - actualFeeSat
    let self ← get
    let ledger ← attempt do
      let ledger := (← self.issuer record.request.issuer).withdrawable
      let ledger ← onClone (WithdrawableReserveLedger.complete spentSat) ledger
      if 0 < unusedFeeSat then
        onClone (WithdrawableReserveLedger.cancel unusedFeeSat) ledger
      else return ledger
    issuerMut record.request.issuer (modify fun state => { state with withdrawable := ledger })
    setSettlementState settlementId (.completed actualFeeSat)
    modify fun self => { self with revision }

def cancelExternalSettlement (settlementId : String) : AccountM Unit := do
  let record ← attempt (okOr (← get).settlements[settlementId]? .unknownSettlement)
  match record.state with
  | .cancelled => return ()
  | .completed _ => throw .settlementCompleted
  | .pending =>
    let revision ← attempt (← get).nextRevision
    issuerMut record.request.issuer (IssuerState.withdrawableMut
      (WithdrawableReserveLedger.cancel record.authorization.reservedSat))
    setSettlementState settlementId .cancelled
    modify fun self => { self with revision }

end CreditAccount

/-- One call of a mutating method of `CreditAccount`, with its arguments. -/
inductive Operation where
  | recordBackingDeposit (deposit : BackingDeposit) (authenticatedIssuer : String)
  | applyReceipt (claim : ServiceReceiptClaim) (authenticatedIssuer : String)
      (mode : AcceptanceMode) (nowUnix : UInt64)
  | novatePeerCredit (novation : CreditNovation) (authenticatedToIssuer : String)
      (nowUnix : UInt64)
  | settlePeerCreditWithBacking (settlement : BackedCreditSettlement)
      (authenticatedBackingIssuer : String) (nowUnix : UInt64)
  | consumeClosedLoop (consumption : ClosedLoopConsumption) (authenticatedCounterparty : String)
  | authorizeExternalSettlement (request : ExternalSettlementRequest)
      (authenticatedCounterparty : String) (nowUnix : UInt64)
  | completeExternalSettlement (settlementId : String) (actualFeeSat : UInt64)
  | cancelExternalSettlement (settlementId : String)
  deriving DecidableEq, Repr

inductive Response where
  | receipt (application : ReceiptApplication)
  | done
  | authorization (authorization : ExternalSettlementAuthorization)
  deriving DecidableEq, Repr

namespace Operation

def run : Operation → AccountM Response
  | recordBackingDeposit deposit auth => do
    return .receipt (← CreditAccount.recordBackingDeposit deposit auth)
  | applyReceipt claim auth mode now => do
    return .receipt (← CreditAccount.applyReceipt claim auth mode now)
  | novatePeerCredit novation auth now => do
    CreditAccount.novatePeerCredit novation auth now
    return .done
  | settlePeerCreditWithBacking settlement auth now => do
    return .receipt (← CreditAccount.settlePeerCreditWithBacking settlement auth now)
  | consumeClosedLoop consumption auth => do
    return .receipt (← CreditAccount.consumeClosedLoop consumption auth)
  | authorizeExternalSettlement request auth now => do
    return .authorization (← CreditAccount.authorizeExternalSettlement request auth now)
  | completeExternalSettlement id fee => do
    CreditAccount.completeExternalSettlement id fee
    return .done
  | cancelExternalSettlement id => do
    CreditAccount.cancelExternalSettlement id
    return .done

def exec (op : Operation) (account : CreditAccount) : CreditAccount :=
  match op.run account with
  | .ok _ account' => account'
  | .error _ account' => account'

end Operation

def CreditAccount.after (account : CreditAccount) (ops : List Operation) : CreditAccount :=
  ops.foldl (fun a op => op.exec a) account

end CashuService
