import CashuService.Credit.Effect
set_option autoImplicit false

namespace CashuService

/-! What the books of one relationship mean. Every balance is a sum of naturals over the
retained records, the peer-credit log explains the peer ledgers, and the caps hold. -/

/-- The parties of an account. Neither the counterparty nor the set of issuers ever changes. -/
structure Relationship where
  counterparty : String
  issuers : Set String

def CreditAccount.relationship (a : CreditAccount) : Relationship :=
  ⟨a.counterparty, {i | i ∈ a.issuers}⟩

structure IssuerState.Sound (id : String) (s : IssuerState) : Prop where
  named : isBlank id = false
  issuer : s.policy.issuer = id
  offlinePolicy : s.policy.maxOfflinePeerCreditSat.toNat ≤ s.policy.maxPeerCreditSat.toNat
  offline : s.peerCredit.offlineOutstandingSat.toNat ≤ s.peerCredit.outstandingSat.toNat
  peerCap : s.peerCredit.outstandingSat.toNat ≤ s.policy.maxPeerCreditSat.toNat
  offlineCap : s.peerCredit.offlineOutstandingSat.toNat ≤
    s.policy.maxOfflinePeerCreditSat.toNat
  closedLoopCap : s.closedLoop.claimableSat.toNat ≤ s.policy.maxClosedLoopSat.toNat
  withdrawableCap : s.withdrawable.redeemableSat.toNat +
    s.withdrawable.pendingExternalSat.toNat ≤ s.policy.maxWithdrawableSat.toNat
  closedLoopConserved : s.closedLoop.availableBackingSat.toNat + s.closedLoop.claimableSat.toNat +
    s.closedLoop.consumedSat.toNat = s.closedLoop.totalDepositedSat.toNat
  withdrawableConserved : s.withdrawable.availableSat.toNat + s.withdrawable.redeemableSat.toNat +
    s.withdrawable.pendingExternalSat.toNat + s.withdrawable.settledExternalSat.toNat =
      s.withdrawable.totalDepositedSat.toNat

structure ServiceReceiptClaim.Kept (p : Relationship) (key : String) (r : ServiceReceiptClaim) :
    Prop where
  keyed : key = r.receiptId
  named : isBlank key = false
  counterparty : r.counterparty = p.counterparty
  service : isBlank r.service = false
  resource : isBlank r.resource = false
  units : r.usefulServiceUnits ≠ 0
  amount : r.amountSat ≠ 0
  lifetime : r.issuedAtUnix < r.expiresAtUnix
  issuer : r.issuer ∈ p.issuers

structure CreditNovation.Kept (p : Relationship) (key : String) (n : CreditNovation) :
    Prop where
  keyed : key = n.novationId
  named : isBlank key = false
  counterparty : n.counterparty = p.counterparty
  distinct : n.fromIssuer ≠ n.toIssuer
  amount : n.amountSat ≠ 0
  fromIssuer : n.fromIssuer ∈ p.issuers
  toIssuer : n.toIssuer ∈ p.issuers

structure BackingDeposit.Kept (p : Relationship) (key : String × String) (d : BackingDeposit) :
    Prop where
  keyed : key = (d.issuer, d.depositId)
  named : isBlank d.depositId = false
  amount : d.amountSat ≠ 0
  backed : d.valueClass ≠ .peerCredit
  issuer : d.issuer ∈ p.issuers

structure BackedCreditSettlement.Kept (p : Relationship) (key : String)
    (b : BackedCreditSettlement) : Prop where
  keyed : key = b.settlementId
  named : isBlank key = false
  counterparty : b.counterparty = p.counterparty
  amount : b.amountSat ≠ 0
  backed : b.valueClass ≠ .peerCredit
  fromIssuer : b.fromIssuer ∈ p.issuers
  backingIssuer : b.backingIssuer ∈ p.issuers

structure ClosedLoopConsumption.Kept (p : Relationship) (key : String)
    (c : ClosedLoopConsumption) : Prop where
  keyed : key = c.consumptionId
  named : isBlank key = false
  counterparty : c.counterparty = p.counterparty
  resource : isBlank c.resource = false
  amount : c.amountSat ≠ 0
  issuer : c.issuer ∈ p.issuers

structure SettlementRecord.Kept (p : Relationship) (key : String) (x : SettlementRecord) :
    Prop where
  keyed : key = x.request.settlementId
  named : isBlank key = false
  counterparty : x.request.counterparty = p.counterparty
  destination : isBlank x.request.payoutDestination = false
  amount : x.request.amountSat ≠ 0
  reserve : x.authorization.reservedSat.toNat =
    x.request.amountSat.toNat + x.request.maxFeeSat.toNat
  authorization : x.authorization = CreditAccount.authorizationFor x.request
    x.authorization.reservedSat x.authorization.authorizedAtUnix
  lifetime : x.authorization.authorizedAtUnix < x.authorization.expiresAtUnix
  issuer : x.request.issuer ∈ p.issuers
  fee : ∀ fee, x.state = .completed fee → fee.toNat ≤ x.request.maxFeeSat.toNat

def SettlementRecord.spent (x : SettlementRecord) : Nat :=
  match x.state with
  | .completed fee => x.request.amountSat.toNat + fee.toNat
  | _ => 0

def SettlementRecord.held (x : SettlementRecord) : Nat :=
  if x.state = .pending then x.authorization.reservedSat.toNat else 0

namespace CreditAccount

section

variable (a : CreditAccount) (i : String) (c : ValueClass)

def receiptsOf : Nat :=
  BTreeMap.sumOf (fun r => if r.issuer = i ∧ r.valueClass = c then r.amountSat.toNat else 0)
    a.appliedReceipts

def novatedTo : Nat :=
  BTreeMap.sumOf (fun n => if n.toIssuer = i then n.amountSat.toNat else 0) a.novations

def novatedFrom : Nat :=
  BTreeMap.sumOf (fun n => if n.fromIssuer = i then n.amountSat.toNat else 0) a.novations

def settledFrom : Nat :=
  BTreeMap.sumOf (fun b => if b.fromIssuer = i then b.amountSat.toNat else 0) a.backedSettlements

def backedBy : Nat :=
  BTreeMap.sumOf (fun b => if b.backingIssuer = i ∧ b.valueClass = c then b.amountSat.toNat else 0)
    a.backedSettlements

def depositsOf : Nat :=
  BTreeMap.sumOf (fun d => if d.issuer = i ∧ d.valueClass = c then d.amountSat.toNat else 0)
    a.backingDeposits

def consumedAt : Nat :=
  BTreeMap.sumOf (fun x => if x.issuer = i then x.amountSat.toNat else 0)
    a.closedLoopConsumptions

def heldFor : Nat :=
  BTreeMap.sumOf (fun x => if x.request.issuer = i then x.held else 0) a.settlements

def spentBy : Nat :=
  BTreeMap.sumOf (fun x => if x.request.issuer = i then x.spent else 0) a.settlements

end
end CreditAccount

/-- The balances of an issuer that its records determine. -/
inductive Balance where
  | outstanding | closedDeposited | closedAllocated | closedConsumed
  | reserveDeposited | reserveAllocated | pending | settled
  deriving DecidableEq, Repr

namespace Balance

def of : Balance → IssuerState → Nat
  | outstanding, s => s.peerCredit.outstandingSat.toNat
  | closedDeposited, s => s.closedLoop.totalDepositedSat.toNat
  | closedAllocated, s => s.closedLoop.claimableSat.toNat + s.closedLoop.consumedSat.toNat
  | closedConsumed, s => s.closedLoop.consumedSat.toNat
  | reserveDeposited, s => s.withdrawable.totalDepositedSat.toNat
  | reserveAllocated, s => s.withdrawable.redeemableSat.toNat +
      s.withdrawable.pendingExternalSat.toNat + s.withdrawable.settledExternalSat.toNat
  | pending, s => s.withdrawable.pendingExternalSat.toNat
  | settled, s => s.withdrawable.settledExternalSat.toNat

def credits (a : CreditAccount) (i : String) : Balance → Nat
  | outstanding => a.receiptsOf i .peerCredit + a.novatedTo i
  | closedDeposited => a.depositsOf i .closedLoopDeposit
  | closedAllocated => a.receiptsOf i .closedLoopDeposit + a.backedBy i .closedLoopDeposit
  | closedConsumed => a.consumedAt i
  | reserveDeposited => a.depositsOf i .reserveBackedWithdrawable
  | reserveAllocated =>
    a.receiptsOf i .reserveBackedWithdrawable + a.backedBy i .reserveBackedWithdrawable
  | pending => a.heldFor i
  | settled => a.spentBy i

/-- What the records take from a balance: only peer credit is ever given back. -/
def debits (a : CreditAccount) (i : String) : Balance → Nat
  | outstanding => a.novatedFrom i + a.settledFrom i
  | _ => 0

end Balance

namespace Movement

def isPeer : Movement → Bool
  | credit _ _ | debit _ => true
  | _ => false

def increase (b : Balance) : Movement → Nat
  | credit amount _ => if b = .outstanding then amount.toNat else 0
  | debit _ => 0
  | depositClosedLoop amount => if b = .closedDeposited then amount.toNat else 0
  | allocateClosedLoop amount => if b = .closedAllocated then amount.toNat else 0
  | consume amount => if b = .closedConsumed then amount.toNat else 0
  | depositReserve amount => if b = .reserveDeposited then amount.toNat else 0
  | allocateReserve amount => if b = .reserveAllocated then amount.toNat else 0
  | authorize amount => if b = .pending then amount.toNat else 0
  | release spent _ => if b = .settled then spent else 0

def decrease (b : Balance) : Movement → Nat
  | debit amount => if b = .outstanding then amount.toNat else 0
  | release spent unused => if b = .pending then spent + unused else 0
  | _ => 0

end Movement

inductive PeerMoves (l : PeerCreditLedger) : Movement → PeerCreditLedger → Prop where
  | credit {amount : UInt64} {offline : Bool} {l' : PeerCreditLedger}
      (step : l.Credited amount offline l') : PeerMoves l (.credit amount offline) l'
  | debit {amount : UInt64} {l' : PeerCreditLedger} (step : l.Debited amount l') :
      PeerMoves l (.debit amount) l'

inductive PeerCreditRecord where
  | receipt (receiptId : String)
  | novation (novationId : String)
  | backedSettlement (settlementId : String)
  deriving DecidableEq, Repr

def PeerCreditEvent.record : PeerCreditEvent → PeerCreditRecord
  | .receipt _ id _ => .receipt id
  | .novation _ id => .novation id
  | .backedSettlement _ id => .backedSettlement id

namespace CreditAccount

def Keeps (a : CreditAccount) : PeerCreditRecord → Prop
  | .receipt id => ∃ r, a.appliedReceipts[id]? = some r ∧ r.valueClass = .peerCredit
  | .novation id => id ∈ a.novations
  | .backedSettlement id => id ∈ a.backedSettlements

/-- What an event of the log does to the peer ledgers, read from the record it names. -/
inductive Explains (a : CreditAccount) : PeerCreditEvent → List (String × Movement) → Prop where
  | receipt {revision : UInt64} {id : String} {mode : AcceptanceMode} {r : ServiceReceiptClaim}
      (stored : a.appliedReceipts[id]? = some r) (peer : r.valueClass = .peerCredit) :
      Explains a (.receipt revision id mode)
        [(r.issuer, .credit r.amountSat (mode = .offlineDeferred))]
  | novation {revision : UInt64} {id : String} {n : CreditNovation}
      (stored : a.novations[id]? = some n) :
      Explains a (.novation revision id)
        [(n.fromIssuer, .debit n.amountSat), (n.toIssuer, .credit n.amountSat false)]
  | backedSettlement {revision : UInt64} {id : String} {b : BackedCreditSettlement}
      (stored : a.backedSettlements[id]? = some b) :
      Explains a (.backedSettlement revision id) [(b.fromIssuer, .debit b.amountSat)]

/-- A log that explains the peer ledgers from zero: its revisions grow, it names every record at
most once, and each event applies to what the earlier ones left. -/
inductive Log (a : CreditAccount) :
    List PeerCreditEvent → BTreeMap String PeerCreditLedger → Prop where
  | nil : Log a [] (a.issuers.map fun _ _ => .zero)
  | snoc {events : List PeerCreditEvent} {event : PeerCreditEvent}
      {entries : List (String × Movement)} {ledgers ledgers' : BTreeMap String PeerCreditLedger}
      (prior : Log a events ledgers) (positive : 0 < event.revision)
      (later : ∀ e ∈ events, e.revision < event.revision)
      (fresh : ∀ e ∈ events, e.record ≠ event.record) (explained : Explains a event entries)
      (entered : KeyedRun PeerMoves ledgers entries ledgers') :
      Log a (events ++ [event]) ledgers'

def operationCount (a : CreditAccount) : Nat :=
  a.appliedReceipts.size + a.novations.size + a.backingDeposits.size + a.backedSettlements.size +
    a.closedLoopConsumptions.size + a.settlements.size +
    BTreeMap.sumOf (fun x => if x.state = .pending then 0 else 1) a.settlements

/-- The invariant of the accounting kernel. -/
structure Coherent (a : CreditAccount) : Prop where
  counterparty : isBlank a.counterparty = false
  issuers : a.issuers.isEmpty = false
  sound : a.issuers.Each IssuerState.Sound
  receipts : a.appliedReceipts.Each (ServiceReceiptClaim.Kept a.relationship)
  novations : a.novations.Each (CreditNovation.Kept a.relationship)
  deposits : a.backingDeposits.Each (BackingDeposit.Kept a.relationship)
  backed : a.backedSettlements.Each (BackedCreditSettlement.Kept a.relationship)
  consumptions : a.closedLoopConsumptions.Each (ClosedLoopConsumption.Kept a.relationship)
  settlements : a.settlements.Each (SettlementRecord.Kept a.relationship)
  reconciled : a.issuers.Each fun i s => ∀ b : Balance, b.of s + b.debits a i = b.credits a i
  total : a.totalPeerCreditSat.toNat = BTreeMap.sumOf (Balance.of .outstanding) a.issuers
  totalCap : a.totalPeerCreditSat.toNat ≤ a.maxTotalPeerCreditSat.toNat
  log : Log a a.peerCreditEvents (a.issuers.map fun _ s => s.peerCredit)
  covered : ∀ x, a.Keeps x → ∃ e ∈ a.peerCreditEvents, e.record = x
  dated : ∀ e ∈ a.peerCreditEvents, e.revision ≤ a.revision
  revision : a.revision.toNat = a.operationCount

end CreditAccount
end CashuService
