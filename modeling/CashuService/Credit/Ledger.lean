import CashuService.Base.Fallible
import CashuService.Credit.Protocol
set_option autoImplicit false

namespace CashuService

/-! The three per-issuer ledgers. Every method is a state transformer of its ledger, and the
relation next to it says, in the naturals, what a successful call does to each balance. -/

/-- Unbacked, non-redeemable relationship credit issued by one peer. -/
structure PeerCreditLedger where
  outstandingSat : UInt64
  offlineOutstandingSat : UInt64
  deriving DecidableEq, Repr

def PeerCreditLedger.zero : PeerCreditLedger := ⟨0, 0⟩

namespace PeerCreditLedger

def credit (amount : UInt64) (offline : Bool) : EStateM CreditError PeerCreditLedger Unit := do
  let self ← get
  let outstanding ← attempt (okOr (self.outstandingSat.checkedAdd amount) .arithmeticOverflow)
  let offlineOutstanding ← attempt (if offline then
      okOr (self.offlineOutstandingSat.checkedAdd amount) .arithmeticOverflow
    else .ok self.offlineOutstandingSat)
  modify fun self => { self with outstandingSat := outstanding }
  modify fun self => { self with offlineOutstandingSat := offlineOutstanding }

def debit (amount : UInt64) : EStateM CreditError PeerCreditLedger Unit := do
  let self ← get
  if self.outstandingSat < amount then throw .insufficientPeerCredit
  else
    modify fun self => { self with outstandingSat := self.outstandingSat - amount }
    modify fun self => { self with
      offlineOutstandingSat := min self.offlineOutstandingSat self.outstandingSat }

structure Credited (l : PeerCreditLedger) (amount : UInt64) (offline : Bool)
    (l' : PeerCreditLedger) : Prop where
  outstanding : l'.outstandingSat.toNat = l.outstandingSat.toNat + amount.toNat
  offlineOutstanding : l'.offlineOutstandingSat.toNat =
    l.offlineOutstandingSat.toNat + if offline then amount.toNat else 0

structure Debited (l : PeerCreditLedger) (amount : UInt64) (l' : PeerCreditLedger) : Prop where
  outstanding : l'.outstandingSat.toNat + amount.toNat = l.outstandingSat.toNat
  offlineOutstanding : l'.offlineOutstandingSat.toNat =
    min l.offlineOutstandingSat.toNat l'.outstandingSat.toNat

/-- A credit fails only on overflow of one of the two counters, and then changes neither. -/
theorem credit_ends (l : PeerCreditLedger) (amount : UInt64) (offline : Bool) :
    Ends (credit amount offline) l
      (fun e l' => l' = l ∧ e = .arithmeticOverflow ∧
        (2 ^ 64 ≤ l.outstandingSat.toNat + amount.toNat ∨
          offline = true ∧ 2 ^ 64 ≤ l.offlineOutstandingSat.toNat + amount.toNat))
      (fun _ l' => Credited l amount offline l') := by
  refine .get_bind (.checkedAdd_bind (fun h => ⟨rfl, rfl, .inl h⟩) fun outstanding ho =>
    .attempt_bind (fun e he => ?_) fun offlineOutstanding hf => .modify_bind (.modify ?_))
  · cases offline with
    | false => cases he
    | true =>
      obtain ⟨hn, rfl⟩ := okOr_eq_error.mp he
      exact ⟨rfl, rfl, .inr ⟨rfl, UInt64.checkedAdd_eq_none.mp hn⟩⟩
  · refine ⟨ho, ?_⟩
    cases offline with
    | false => cases hf; rfl
    | true => exact UInt64.checkedAdd_eq_some.mp (okOr_eq_ok.mp hf)

theorem debit_ends (l : PeerCreditLedger) (amount : UInt64) :
    Ends (debit amount) l
      (fun e l' => l' = l ∧ e = .insufficientPeerCredit ∧
        l.outstandingSat.toNat < amount.toNat)
      (fun _ l' => Debited l amount l') := by
  refine .get_bind (.ite (fun h => .throw ⟨rfl, rfl, UInt64.lt_iff_toNat_lt.mp h⟩)
    fun h => .modify_bind (.modify ?_))
  exact ⟨UInt64.toNat_sub_add h, UInt64.toNat_min_eq _ _⟩

end PeerCreditLedger

/-- Deposit-backed value that can circulate or buy issuer service, but cannot cash out. -/
structure ClosedLoopLedger where
  totalDepositedSat : UInt64
  availableBackingSat : UInt64
  claimableSat : UInt64
  consumedSat : UInt64
  deriving DecidableEq, Repr

def ClosedLoopLedger.zero : ClosedLoopLedger := ⟨0, 0, 0, 0⟩

namespace ClosedLoopLedger

def deposit (amount : UInt64) : EStateM CreditError ClosedLoopLedger Unit := do
  let self ← get
  let total ← attempt (okOr (self.totalDepositedSat.checkedAdd amount) .arithmeticOverflow)
  let available ← attempt (okOr (self.availableBackingSat.checkedAdd amount) .arithmeticOverflow)
  modify fun self => { self with totalDepositedSat := total }
  modify fun self => { self with availableBackingSat := available }

def allocate (amount : UInt64) : EStateM CreditError ClosedLoopLedger Unit := do
  let self ← get
  if self.availableBackingSat < amount then throw .insufficientClosedLoopBacking
  else
    let claimable ← attempt (okOr (self.claimableSat.checkedAdd amount) .arithmeticOverflow)
    modify fun self => { self with availableBackingSat := self.availableBackingSat - amount }
    modify fun self => { self with claimableSat := claimable }

def consume (amount : UInt64) : EStateM CreditError ClosedLoopLedger Unit := do
  let self ← get
  if self.claimableSat < amount then throw .insufficientClosedLoopBacking
  else
    let consumed ← attempt (okOr (self.consumedSat.checkedAdd amount) .arithmeticOverflow)
    modify fun self => { self with claimableSat := self.claimableSat - amount }
    modify fun self => { self with consumedSat := consumed }

structure Deposited (l : ClosedLoopLedger) (amount : UInt64) (l' : ClosedLoopLedger) :
    Prop where
  total : l'.totalDepositedSat.toNat = l.totalDepositedSat.toNat + amount.toNat
  available : l'.availableBackingSat.toNat = l.availableBackingSat.toNat + amount.toNat
  claimable : l'.claimableSat = l.claimableSat
  consumed : l'.consumedSat = l.consumedSat

structure Allocated (l : ClosedLoopLedger) (amount : UInt64) (l' : ClosedLoopLedger) :
    Prop where
  total : l'.totalDepositedSat = l.totalDepositedSat
  available : l'.availableBackingSat.toNat + amount.toNat = l.availableBackingSat.toNat
  claimable : l'.claimableSat.toNat = l.claimableSat.toNat + amount.toNat
  consumed : l'.consumedSat = l.consumedSat

structure Consumed (l : ClosedLoopLedger) (amount : UInt64) (l' : ClosedLoopLedger) :
    Prop where
  total : l'.totalDepositedSat = l.totalDepositedSat
  available : l'.availableBackingSat = l.availableBackingSat
  claimable : l'.claimableSat.toNat + amount.toNat = l.claimableSat.toNat
  consumed : l'.consumedSat.toNat = l.consumedSat.toNat + amount.toNat

theorem deposit_ends (l : ClosedLoopLedger) (amount : UInt64) :
    Ends (deposit amount) l
      (fun e l' => l' = l ∧ e = .arithmeticOverflow ∧
        (2 ^ 64 ≤ l.totalDepositedSat.toNat + amount.toNat ∨
          2 ^ 64 ≤ l.availableBackingSat.toNat + amount.toNat))
      (fun _ l' => Deposited l amount l') := by
  refine .get_bind (.checkedAdd_bind (fun h => ⟨rfl, rfl, .inl h⟩) fun total ht =>
    .checkedAdd_bind (fun h => ⟨rfl, rfl, .inr h⟩) fun available ha => .modify_bind (.modify ?_))
  exact ⟨ht, ha, rfl, rfl⟩

theorem allocate_ends (l : ClosedLoopLedger) (amount : UInt64) :
    Ends (allocate amount) l
      (fun e l' => l' = l ∧
        (e = .insufficientClosedLoopBacking ∧ l.availableBackingSat.toNat < amount.toNat ∨
          e = .arithmeticOverflow ∧ 2 ^ 64 ≤ l.claimableSat.toNat + amount.toNat))
      (fun _ l' => Allocated l amount l') := by
  refine .get_bind (.ite (fun h => .throw ⟨rfl, .inl ⟨rfl, UInt64.lt_iff_toNat_lt.mp h⟩⟩)
    fun h => .checkedAdd_bind (fun ho => ⟨rfl, .inr ⟨rfl, ho⟩⟩) fun claimable hc =>
      .modify_bind (.modify ?_))
  exact ⟨rfl, UInt64.toNat_sub_add h, hc, rfl⟩

theorem consume_ends (l : ClosedLoopLedger) (amount : UInt64) :
    Ends (consume amount) l
      (fun e l' => l' = l ∧
        (e = .insufficientClosedLoopBacking ∧ l.claimableSat.toNat < amount.toNat ∨
          e = .arithmeticOverflow ∧ 2 ^ 64 ≤ l.consumedSat.toNat + amount.toNat))
      (fun _ l' => Consumed l amount l') := by
  refine .get_bind (.ite (fun h => .throw ⟨rfl, .inl ⟨rfl, UInt64.lt_iff_toNat_lt.mp h⟩⟩)
    fun h => .checkedAdd_bind (fun ho => ⟨rfl, .inr ⟨rfl, ho⟩⟩) fun consumed hc =>
      .modify_bind (.modify ?_))
  exact ⟨rfl, rfl, UInt64.toNat_sub_add h, hc⟩

end ClosedLoopLedger

/-- Reserve-backed sats that may leave through an external settlement backend. -/
structure WithdrawableReserveLedger where
  totalDepositedSat : UInt64
  availableSat : UInt64
  redeemableSat : UInt64
  pendingExternalSat : UInt64
  settledExternalSat : UInt64
  deriving DecidableEq, Repr

def WithdrawableReserveLedger.zero : WithdrawableReserveLedger := ⟨0, 0, 0, 0, 0⟩

namespace WithdrawableReserveLedger

def deposit (amount : UInt64) : EStateM CreditError WithdrawableReserveLedger Unit := do
  let self ← get
  let total ← attempt (okOr (self.totalDepositedSat.checkedAdd amount) .arithmeticOverflow)
  let available ← attempt (okOr (self.availableSat.checkedAdd amount) .arithmeticOverflow)
  modify fun self => { self with totalDepositedSat := total }
  modify fun self => { self with availableSat := available }

def allocate (amount : UInt64) : EStateM CreditError WithdrawableReserveLedger Unit := do
  let self ← get
  if self.availableSat < amount then throw .insufficientAvailableReserve
  else
    let redeemable ← attempt (okOr (self.redeemableSat.checkedAdd amount) .arithmeticOverflow)
    modify fun self => { self with availableSat := self.availableSat - amount }
    modify fun self => { self with redeemableSat := redeemable }

def authorize (amount : UInt64) : EStateM CreditError WithdrawableReserveLedger Unit := do
  let self ← get
  if self.redeemableSat < amount then throw .insufficientRedeemableReserve
  else
    let pending ← attempt (okOr (self.pendingExternalSat.checkedAdd amount) .arithmeticOverflow)
    modify fun self => { self with redeemableSat := self.redeemableSat - amount }
    modify fun self => { self with pendingExternalSat := pending }

def complete (amount : UInt64) : EStateM CreditError WithdrawableReserveLedger Unit := do
  let self ← get
  if self.pendingExternalSat < amount then throw .conservationViolation
  else
    let settled ← attempt (okOr (self.settledExternalSat.checkedAdd amount) .arithmeticOverflow)
    modify fun self => { self with pendingExternalSat := self.pendingExternalSat - amount }
    modify fun self => { self with settledExternalSat := settled }

def cancel (amount : UInt64) : EStateM CreditError WithdrawableReserveLedger Unit := do
  let self ← get
  if self.pendingExternalSat < amount then throw .conservationViolation
  else
    let redeemable ← attempt (okOr (self.redeemableSat.checkedAdd amount) .arithmeticOverflow)
    modify fun self => { self with pendingExternalSat := self.pendingExternalSat - amount }
    modify fun self => { self with redeemableSat := redeemable }

structure Deposited (l : WithdrawableReserveLedger) (amount : UInt64)
    (l' : WithdrawableReserveLedger) : Prop where
  total : l'.totalDepositedSat.toNat = l.totalDepositedSat.toNat + amount.toNat
  available : l'.availableSat.toNat = l.availableSat.toNat + amount.toNat
  redeemable : l'.redeemableSat = l.redeemableSat
  pending : l'.pendingExternalSat = l.pendingExternalSat
  settled : l'.settledExternalSat = l.settledExternalSat

structure Allocated (l : WithdrawableReserveLedger) (amount : UInt64)
    (l' : WithdrawableReserveLedger) : Prop where
  total : l'.totalDepositedSat = l.totalDepositedSat
  available : l'.availableSat.toNat + amount.toNat = l.availableSat.toNat
  redeemable : l'.redeemableSat.toNat = l.redeemableSat.toNat + amount.toNat
  pending : l'.pendingExternalSat = l.pendingExternalSat
  settled : l'.settledExternalSat = l.settledExternalSat

structure Authorized (l : WithdrawableReserveLedger) (amount : UInt64)
    (l' : WithdrawableReserveLedger) : Prop where
  total : l'.totalDepositedSat = l.totalDepositedSat
  available : l'.availableSat = l.availableSat
  redeemable : l'.redeemableSat.toNat + amount.toNat = l.redeemableSat.toNat
  pending : l'.pendingExternalSat.toNat = l.pendingExternalSat.toNat + amount.toNat
  settled : l'.settledExternalSat = l.settledExternalSat

structure Released (l : WithdrawableReserveLedger) (spent unused : Nat)
    (l' : WithdrawableReserveLedger) : Prop where
  total : l'.totalDepositedSat = l.totalDepositedSat
  available : l'.availableSat = l.availableSat
  redeemable : l'.redeemableSat.toNat = l.redeemableSat.toNat + unused
  pending : l'.pendingExternalSat.toNat + (spent + unused) = l.pendingExternalSat.toNat
  settled : l'.settledExternalSat.toNat = l.settledExternalSat.toNat + spent

theorem deposit_ends (l : WithdrawableReserveLedger) (amount : UInt64) :
    Ends (deposit amount) l
      (fun e l' => l' = l ∧ e = .arithmeticOverflow ∧
        (2 ^ 64 ≤ l.totalDepositedSat.toNat + amount.toNat ∨
          2 ^ 64 ≤ l.availableSat.toNat + amount.toNat))
      (fun _ l' => Deposited l amount l') := by
  refine .get_bind (.checkedAdd_bind (fun h => ⟨rfl, rfl, .inl h⟩) fun total ht =>
    .checkedAdd_bind (fun h => ⟨rfl, rfl, .inr h⟩) fun available ha => .modify_bind (.modify ?_))
  exact ⟨ht, ha, rfl, rfl, rfl⟩

theorem allocate_ends (l : WithdrawableReserveLedger) (amount : UInt64) :
    Ends (allocate amount) l
      (fun e l' => l' = l ∧
        (e = .insufficientAvailableReserve ∧ l.availableSat.toNat < amount.toNat ∨
          e = .arithmeticOverflow ∧ 2 ^ 64 ≤ l.redeemableSat.toNat + amount.toNat))
      (fun _ l' => Allocated l amount l') := by
  refine .get_bind (.ite (fun h => .throw ⟨rfl, .inl ⟨rfl, UInt64.lt_iff_toNat_lt.mp h⟩⟩)
    fun h => .checkedAdd_bind (fun ho => ⟨rfl, .inr ⟨rfl, ho⟩⟩) fun redeemable hr =>
      .modify_bind (.modify ?_))
  exact ⟨rfl, UInt64.toNat_sub_add h, hr, rfl, rfl⟩

theorem authorize_ends (l : WithdrawableReserveLedger) (amount : UInt64) :
    Ends (authorize amount) l
      (fun e l' => l' = l ∧
        (e = .insufficientRedeemableReserve ∧ l.redeemableSat.toNat < amount.toNat ∨
          e = .arithmeticOverflow ∧ 2 ^ 64 ≤ l.pendingExternalSat.toNat + amount.toNat))
      (fun _ l' => Authorized l amount l') := by
  refine .get_bind (.ite (fun h => .throw ⟨rfl, .inl ⟨rfl, UInt64.lt_iff_toNat_lt.mp h⟩⟩)
    fun h => .checkedAdd_bind (fun ho => ⟨rfl, .inr ⟨rfl, ho⟩⟩) fun pending hp =>
      .modify_bind (.modify ?_))
  exact ⟨rfl, rfl, UInt64.toNat_sub_add h, hp, rfl⟩

theorem complete_ends (l : WithdrawableReserveLedger) (amount : UInt64) :
    Ends (complete amount) l
      (fun e l' => l' = l ∧
        (e = .conservationViolation ∧ l.pendingExternalSat.toNat < amount.toNat ∨
          e = .arithmeticOverflow ∧ 2 ^ 64 ≤ l.settledExternalSat.toNat + amount.toNat))
      (fun _ l' => Released l amount.toNat 0 l') := by
  refine .get_bind (.ite (fun h => .throw ⟨rfl, .inl ⟨rfl, UInt64.lt_iff_toNat_lt.mp h⟩⟩)
    fun h => .checkedAdd_bind (fun ho => ⟨rfl, .inr ⟨rfl, ho⟩⟩) fun settled hs =>
      .modify_bind (.modify ?_))
  exact ⟨rfl, rfl, rfl, UInt64.toNat_sub_add h, hs⟩

theorem cancel_ends (l : WithdrawableReserveLedger) (amount : UInt64) :
    Ends (cancel amount) l
      (fun e l' => l' = l ∧
        (e = .conservationViolation ∧ l.pendingExternalSat.toNat < amount.toNat ∨
          e = .arithmeticOverflow ∧ 2 ^ 64 ≤ l.redeemableSat.toNat + amount.toNat))
      (fun _ l' => Released l 0 amount.toNat l') := by
  refine .get_bind (.ite (fun h => .throw ⟨rfl, .inl ⟨rfl, UInt64.lt_iff_toNat_lt.mp h⟩⟩)
    fun h => .checkedAdd_bind (fun ho => ⟨rfl, .inr ⟨rfl, ho⟩⟩) fun redeemable hr =>
      .modify_bind (.modify ?_))
  refine ⟨rfl, rfl, hr, ?_, rfl⟩
  rw [Nat.zero_add]
  exact UInt64.toNat_sub_add h

end WithdrawableReserveLedger
end CashuService
