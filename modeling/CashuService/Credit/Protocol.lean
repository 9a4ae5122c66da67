import CashuService.Base.BTreeMap
import CashuService.Base.RustStd
set_option autoImplicit false

namespace CashuService

inductive ValueClass where
  | peerCredit | closedLoopDeposit | reserveBackedWithdrawable
  deriving DecidableEq, Repr

inductive AcceptanceMode where
  | online | offlineDeferred
  deriving DecidableEq, Repr

structure ServiceReceiptClaim where
  receiptId : String
  issuer : String
  counterparty : String
  service : String
  resource : String
  usefulServiceUnits : UInt64
  amountSat : UInt64
  valueClass : ValueClass
  issuedAtUnix : UInt64
  expiresAtUnix : UInt64
  deriving DecidableEq, Repr

structure IssuerPolicy where
  issuer : String
  maxPeerCreditSat : UInt64
  maxOfflinePeerCreditSat : UInt64
  maxClosedLoopSat : UInt64
  maxWithdrawableSat : UInt64
  expiresAtUnix : Option UInt64
  deriving DecidableEq, Repr

structure AccountPolicy where
  counterparty : String
  maxTotalPeerCreditSat : UInt64
  issuers : List IssuerPolicy
  deriving DecidableEq, Repr

inductive ReceiptApplication where
  | applied | alreadyApplied
  deriving DecidableEq, Repr

structure CreditNovation where
  novationId : String
  counterparty : String
  fromIssuer : String
  toIssuer : String
  amountSat : UInt64
  expiresAtUnix : UInt64
  deriving DecidableEq, Repr

structure BackingDeposit where
  depositId : String
  issuer : String
  amountSat : UInt64
  valueClass : ValueClass
  deriving DecidableEq, Repr

structure BackedCreditSettlement where
  settlementId : String
  counterparty : String
  fromIssuer : String
  backingIssuer : String
  amountSat : UInt64
  valueClass : ValueClass
  expiresAtUnix : UInt64
  deriving DecidableEq, Repr

structure ClosedLoopConsumption where
  consumptionId : String
  issuer : String
  counterparty : String
  resource : String
  amountSat : UInt64
  deriving DecidableEq, Repr

structure ExternalSettlementRequest where
  settlementId : String
  issuer : String
  counterparty : String
  payoutDestination : String
  amountSat : UInt64
  maxFeeSat : UInt64
  expiresAtUnix : UInt64
  deriving DecidableEq, Repr

/-- `reservedSat` is the principal plus the fee ceiling reserved before execution. -/
structure ExternalSettlementAuthorization where
  settlementId : String
  issuer : String
  counterparty : String
  payoutDestination : String
  amountSat : UInt64
  maxFeeSat : UInt64
  reservedSat : UInt64
  authorizedAtUnix : UInt64
  expiresAtUnix : UInt64
  deriving DecidableEq, Repr

inductive CreditError where
  | wrongIssuer | wrongCounterparty | unauthenticatedIssuer | unauthenticatedCounterparty
  | policyExpired | receiptExpired | receiptNotYetValid | missingReceiptId | receiptConflict
  | missingDepositId | depositConflict | missingBackedSettlementId | backedSettlementExpired
  | backedSettlementConflict | missingClosedLoopConsumptionId | closedLoopConsumptionConflict
  | unsupportedBackingClass | noUsefulService | zeroAmount | arithmeticOverflow
  | revisionOverflow | issuerExposureExceeded | totalExposureExceeded
  | offlineExposureExceeded | backingVerificationRequired | insufficientClosedLoopBacking
  | insufficientAvailableReserve | insufficientRedeemableReserve
  | closedLoopExposureExceeded | withdrawableExposureExceeded | insufficientPeerCredit
  | novationExpired | missingNovationId | novationConflict | sameIssuerNovation
  | settlementExpired | missingSettlementId | missingPayoutDestination | settlementConflict
  | settlementCompletionConflict | settlementFeeExceeded | settlementCancelled
  | settlementCompleted | unknownSettlement | duplicateIssuer | noIssuers | invalidPolicy
  | unsupportedSnapshotVersion
  | invalidSnapshot (reason : String)
  | conservationViolation
  deriving DecidableEq, Repr

end CashuService
