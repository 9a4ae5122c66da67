import CashuService.Base.KeyedRun
import CashuService.Credit.Account
set_option autoImplicit false

namespace CashuService

inductive Movement where
  | credit (amount : UInt64) (offline : Bool)
  | debit (amount : UInt64)
  | depositClosedLoop (amount : UInt64)
  | allocateClosedLoop (amount : UInt64)
  | consume (amount : UInt64)
  | depositReserve (amount : UInt64)
  | allocateReserve (amount : UInt64)
  | authorize (amount : UInt64)
  | release (spent unused : Nat)
  deriving DecidableEq, Repr

/-- What a movement does to the issuer state, together with the caps the code checks for it.
All sums are sums of naturals. -/
inductive Moves (s : IssuerState) : Movement → IssuerState → Prop where
  | credit {amount : UInt64} {offline : Bool} {l : PeerCreditLedger}
      (step : s.peerCredit.Credited amount offline l)
      (cap : l.outstandingSat.toNat ≤ s.policy.maxPeerCreditSat.toNat)
      (offlineCap : offline = true →
        l.offlineOutstandingSat.toNat ≤ s.policy.maxOfflinePeerCreditSat.toNat) :
      Moves s (.credit amount offline) { s with peerCredit := l }
  | debit {amount : UInt64} {l : PeerCreditLedger} (step : s.peerCredit.Debited amount l) :
      Moves s (.debit amount) { s with peerCredit := l }
  | depositClosedLoop {amount : UInt64} {l : ClosedLoopLedger}
      (step : s.closedLoop.Deposited amount l) :
      Moves s (.depositClosedLoop amount) { s with closedLoop := l }
  | allocateClosedLoop {amount : UInt64} {l : ClosedLoopLedger}
      (step : s.closedLoop.Allocated amount l)
      (cap : l.claimableSat.toNat ≤ s.policy.maxClosedLoopSat.toNat) :
      Moves s (.allocateClosedLoop amount) { s with closedLoop := l }
  | consume {amount : UInt64} {l : ClosedLoopLedger} (step : s.closedLoop.Consumed amount l) :
      Moves s (.consume amount) { s with closedLoop := l }
  | depositReserve {amount : UInt64} {l : WithdrawableReserveLedger}
      (step : s.withdrawable.Deposited amount l) :
      Moves s (.depositReserve amount) { s with withdrawable := l }
  | allocateReserve {amount : UInt64} {l : WithdrawableReserveLedger}
      (step : s.withdrawable.Allocated amount l)
      (cap : l.redeemableSat.toNat + l.pendingExternalSat.toNat ≤
        s.policy.maxWithdrawableSat.toNat) :
      Moves s (.allocateReserve amount) { s with withdrawable := l }
  | authorize {amount : UInt64} {l : WithdrawableReserveLedger}
      (step : s.withdrawable.Authorized amount l) :
      Moves s (.authorize amount) { s with withdrawable := l }
  | release {spent unused : Nat} {l : WithdrawableReserveLedger}
      (step : s.withdrawable.Released spent unused l) :
      Moves s (.release spent unused) { s with withdrawable := l }

abbrev Posted : BTreeMap String IssuerState → List (String × Movement) →
    BTreeMap String IssuerState → Prop := KeyedRun Moves

def backing (issuer : String) (amount : UInt64) : ValueClass → List (String × Movement)
  | .peerCredit => []
  | .closedLoopDeposit => [(issuer, .depositClosedLoop amount)]
  | .reserveBackedWithdrawable => [(issuer, .depositReserve amount)]

def allocation (issuer : String) (amount : UInt64) : ValueClass → List (String × Movement)
  | .peerCredit => []
  | .closedLoopDeposit => [(issuer, .allocateClosedLoop amount)]
  | .reserveBackedWithdrawable => [(issuer, .allocateReserve amount)]

def receiptEntry (claim : ServiceReceiptClaim) (mode : AcceptanceMode) :
    List (String × Movement) :=
  if claim.valueClass = .peerCredit then
    [(claim.issuer, .credit claim.amountSat (mode = .offlineDeferred))]
  else allocation claim.issuer claim.amountSat claim.valueClass

def receiptEvents (claim : ServiceReceiptClaim) (mode : AcceptanceMode) (revision : UInt64) :
    List PeerCreditEvent :=
  if claim.valueClass = .peerCredit then [.receipt revision claim.receiptId mode] else []

inductive Replayed (a : CreditAccount) : Operation → Response → Prop where
  | deposit {d : BackingDeposit} {auth : String}
      (valid : a.validateBackingDeposit d auth = .ok ())
      (stored : a.backingDeposits[(d.issuer, d.depositId)]? = some d) :
      Replayed a (.recordBackingDeposit d auth) (.receipt .alreadyApplied)
  | receipt {c : ServiceReceiptClaim} {auth : String} {mode : AcceptanceMode} {now : UInt64}
      (identity : a.validateReceiptIdentity c auth = .ok ())
      (stored : a.appliedReceipts[c.receiptId]? = some c) :
      Replayed a (.applyReceipt c auth mode now) (.receipt .alreadyApplied)
  | novation {n : CreditNovation} {auth : String} {now : UInt64}
      (identity : a.validateNovationIdentity n auth = .ok ())
      (stored : a.novations[n.novationId]? = some n) :
      Replayed a (.novatePeerCredit n auth now) .done
  | backed {b : BackedCreditSettlement} {auth : String} {now : UInt64}
      (identity : a.validateBackedSettlementIdentity b auth = .ok ())
      (stored : a.backedSettlements[b.settlementId]? = some b) :
      Replayed a (.settlePeerCreditWithBacking b auth now) (.receipt .alreadyApplied)
  | consumption {c : ClosedLoopConsumption} {auth : String}
      (valid : a.validateClosedLoopConsumption c auth = .ok ())
      (stored : a.closedLoopConsumptions[c.consumptionId]? = some c) :
      Replayed a (.consumeClosedLoop c auth) (.receipt .alreadyApplied)
  | authorization {r : ExternalSettlementRequest} {auth : String} {now : UInt64}
      {z : ExternalSettlementAuthorization}
      (identity : a.validateSettlementIdentity r auth = .ok ())
      (stored : a.settlements[r.settlementId]? = some ⟨r, z, .pending⟩) :
      Replayed a (.authorizeExternalSettlement r auth now) (.authorization z)
  | completion {id : String} {fee : UInt64} {x : SettlementRecord}
      (stored : a.settlements[id]? = some x) (state : x.state = .completed fee) :
      Replayed a (.completeExternalSettlement id fee) .done
  | cancellation {id : String} {x : SettlementRecord}
      (stored : a.settlements[id]? = some x) (state : x.state = .cancelled) :
      Replayed a (.cancelExternalSettlement id) .done

/-- Everything a first application does to the account, with the checks it passed. -/
inductive Applied (a : CreditAccount) : Operation → Response → CreditAccount → Prop where
  | deposit {d : BackingDeposit} {auth : String} {revision : UInt64}
      {issuers : BTreeMap String IssuerState}
      (valid : a.validateBackingDeposit d auth = .ok ())
      (fresh : a.backingDeposits[(d.issuer, d.depositId)]? = none)
      (next : revision.toNat = a.revision.toNat + 1)
      (posted : Posted a.issuers (backing d.issuer d.amountSat d.valueClass) issuers) :
      Applied a (.recordBackingDeposit d auth) (.receipt .applied)
        { a with
          revision, issuers
          backingDeposits := a.backingDeposits.insert (d.issuer, d.depositId) d }
  | receipt {c : ServiceReceiptClaim} {auth : String} {mode : AcceptanceMode} {now : UInt64}
      {revision total : UInt64} {issuers : BTreeMap String IssuerState}
      (fresh : a.appliedReceipts[c.receiptId]? = none)
      (valid : a.validateReceipt c auth now = .ok ())
      (next : revision.toNat = a.revision.toNat + 1)
      (online : c.valueClass ≠ .peerCredit → mode = .online)
      (posted : Posted a.issuers (receiptEntry c mode) issuers)
      (sum : total.toNat = a.totalPeerCreditSat.toNat +
        if c.valueClass = .peerCredit then c.amountSat.toNat else 0)
      (cap : c.valueClass = .peerCredit → total.toNat ≤ a.maxTotalPeerCreditSat.toNat) :
      Applied a (.applyReceipt c auth mode now) (.receipt .applied)
        { a with
          revision, issuers
          totalPeerCreditSat := total
          peerCreditEvents := a.peerCreditEvents ++ receiptEvents c mode revision
          appliedReceipts := a.appliedReceipts.insert c.receiptId c }
  | novation {n : CreditNovation} {auth : String} {now : UInt64} {revision : UInt64}
      {issuers : BTreeMap String IssuerState}
      (fresh : a.novations[n.novationId]? = none)
      (valid : a.validateNovation n auth now = .ok ())
      (next : revision.toNat = a.revision.toNat + 1)
      (posted : Posted a.issuers
        [(n.fromIssuer, .debit n.amountSat), (n.toIssuer, .credit n.amountSat false)] issuers) :
      Applied a (.novatePeerCredit n auth now) .done
        { a with
          revision, issuers
          peerCreditEvents := a.peerCreditEvents ++ [.novation revision n.novationId]
          novations := a.novations.insert n.novationId n }
  | backed {b : BackedCreditSettlement} {auth : String} {now : UInt64} {revision total : UInt64}
      {issuers : BTreeMap String IssuerState}
      (fresh : a.backedSettlements[b.settlementId]? = none)
      (valid : a.validateBackedSettlement b auth now = .ok ())
      (next : revision.toNat = a.revision.toNat + 1)
      (posted : Posted a.issuers (allocation b.backingIssuer b.amountSat b.valueClass ++
        [(b.fromIssuer, .debit b.amountSat)]) issuers)
      (sum : total.toNat + b.amountSat.toNat = a.totalPeerCreditSat.toNat) :
      Applied a (.settlePeerCreditWithBacking b auth now) (.receipt .applied)
        { a with
          revision, issuers
          totalPeerCreditSat := total
          peerCreditEvents := a.peerCreditEvents ++ [.backedSettlement revision b.settlementId]
          backedSettlements := a.backedSettlements.insert b.settlementId b }
  | consumption {c : ClosedLoopConsumption} {auth : String} {revision : UInt64}
      {issuers : BTreeMap String IssuerState}
      (valid : a.validateClosedLoopConsumption c auth = .ok ())
      (fresh : a.closedLoopConsumptions[c.consumptionId]? = none)
      (next : revision.toNat = a.revision.toNat + 1)
      (posted : Posted a.issuers [(c.issuer, .consume c.amountSat)] issuers) :
      Applied a (.consumeClosedLoop c auth) (.receipt .applied)
        { a with
          revision, issuers
          closedLoopConsumptions := a.closedLoopConsumptions.insert c.consumptionId c }
  | authorization {r : ExternalSettlementRequest} {auth : String} {now : UInt64}
      {revision reserved : UInt64} {issuers : BTreeMap String IssuerState}
      (fresh : a.settlements[r.settlementId]? = none)
      (valid : a.validateSettlement r auth now = .ok ())
      (next : revision.toNat = a.revision.toNat + 1)
      (reserve : reserved.toNat = r.amountSat.toNat + r.maxFeeSat.toNat)
      (posted : Posted a.issuers [(r.issuer, .authorize reserved)] issuers) :
      Applied a (.authorizeExternalSettlement r auth now)
        (.authorization (CreditAccount.authorizationFor r reserved now))
        { a with
          revision, issuers
          settlements := a.settlements.insert r.settlementId
            ⟨r, CreditAccount.authorizationFor r reserved now, .pending⟩ }
  | completion {id : String} {fee : UInt64} {x : SettlementRecord} {revision : UInt64}
      {issuers : BTreeMap String IssuerState}
      (stored : a.settlements[id]? = some x) (state : x.state = .pending)
      (fits : fee.toNat ≤ x.request.maxFeeSat.toNat)
      (next : revision.toNat = a.revision.toNat + 1)
      (posted : Posted a.issuers [(x.request.issuer,
        .release (x.request.amountSat.toNat + fee.toNat)
          (x.request.maxFeeSat.toNat - fee.toNat))] issuers) :
      Applied a (.completeExternalSettlement id fee) .done
        { a with
          revision, issuers
          settlements := a.settlements.modify id fun y => { y with state := .completed fee } }
  | cancellation {id : String} {x : SettlementRecord} {revision : UInt64}
      {issuers : BTreeMap String IssuerState}
      (stored : a.settlements[id]? = some x) (state : x.state = .pending)
      (next : revision.toNat = a.revision.toNat + 1)
      (posted : Posted a.issuers
        [(x.request.issuer, .release 0 x.authorization.reservedSat.toNat)] issuers) :
      Applied a (.cancelExternalSettlement id) .done
        { a with
          revision, issuers
          settlements := a.settlements.modify id fun y => { y with state := .cancelled } }

end CashuService
