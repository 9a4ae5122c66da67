import CashuService.Base.Fallible
import CashuService.Spilman.Envelope
import CashuService.Spilman.Policy
set_option autoImplicit false

namespace CashuService

/-! `spilman.rs`: the payments a buyer has signed for a route, and what a seller checks of a
payment before it trusts the millisats claimed with it. -/

def toAsciiLowercase (s : String) : String := String.ofList (s.toList.map Char.toLower)

inductive StreamingRouteCashuUnit where
  | sat | msat
  deriving DecidableEq, Repr

namespace StreamingRouteCashuUnit

def parse (unit : String) : Except String StreamingRouteCashuUnit :=
  match toAsciiLowercase (trim unit) with
  | "" | "sat" | "sats" => .ok .sat
  | "msat" | "msats" => .ok .msat
  | other => .error s!"unsupported Cashu channel unit '{other}'"

def asStr : StreamingRouteCashuUnit → String
  | .sat => "sat"
  | .msat => "msat"

def balanceToMsat : StreamingRouteCashuUnit → UInt64 → UInt64
  | .sat, balance => balance.saturatingMul 1000
  | .msat, balance => balance

def balanceFromMsat : StreamingRouteCashuUnit → UInt64 → UInt64
  | .sat, paidMsat => paidMsat.divCeil 1000
  | .msat, paidMsat => paidMsat

/-- The millisats of one unit. -/
def scale : StreamingRouteCashuUnit → Nat
  | .sat => 1000
  | .msat => 1

end StreamingRouteCashuUnit

inductive StreamingRouteCashuPaymentKind where
  | channelOpen | balanceUpdate | cooperativeClose
  deriving DecidableEq, Repr

def StreamingRouteCashuPaymentKind.includeFunding (self : StreamingRouteCashuPaymentKind) : Bool :=
  self == .channelOpen

structure StreamingRouteCashuPaymentRequest where
  kind : StreamingRouteCashuPaymentKind
  channelId : String
  unit : String
  paidMsat : UInt64
  previousPaidMsat : UInt64
  capacitySat : UInt64

structure StreamingRouteCashuPaymentResult where
  payment : CashuSpilmanPayment
  unit : String
  balance : UInt64
  paidMsat : UInt64
  includeFunding : Bool

structure StreamingRouteCashuPaymentProgressValidation where
  paidMsat : UInt64
  previousPaidMsat : UInt64
  capacityMsat : UInt64

structure StreamingRouteCashuPaymentClaimValidation where
  channelId : String
  unit : String
  balance : UInt64
  paidMsat : UInt64
  capacityMsat : UInt64
  hasFunding : Bool

structure CashuSpilmanPaymentSigner where
  signCashuSpilmanPayment : String → UInt64 → Bool → Except String CashuSpilmanPayment
  signCashuSpilmanClose : String → UInt64 → Except String CashuSpilmanPayment :=
    fun channelId finalBalance => signCashuSpilmanPayment channelId finalBalance false

def validateStreamingRouteCashuPaymentProgress (label : String)
    (paidMsat previousPaidMsat capacitySat : UInt64) :
    Except String StreamingRouteCashuPaymentProgressValidation := do
  let label := if isBlank label then "paid route payment" else trim label
  rejectIf (paidMsat < previousPaidMsat)
    s!"{label} amount regressed: {paidMsat} msat < {previousPaidMsat} msat"
  let capacityMsat := capacitySat.saturatingMul 1000
  rejectIf (0 < capacityMsat ∧ capacityMsat < paidMsat)
    s!"{label} {paidMsat} msat exceeds channel capacity {capacityMsat} msat"
  return { paidMsat, previousPaidMsat, capacityMsat }

def CashuSpilmanPaymentSigner.sign (signer : CashuSpilmanPaymentSigner)
    (kind : StreamingRouteCashuPaymentKind) (channelId : String) (balance : UInt64) :
    Except String CashuSpilmanPayment :=
  if kind = .cooperativeClose then signer.signCashuSpilmanClose channelId balance
  else signer.signCashuSpilmanPayment channelId balance kind.includeFunding

def createStreamingRouteCashuPayment (signer : CashuSpilmanPaymentSigner)
    (request : StreamingRouteCashuPaymentRequest) :
    Except String StreamingRouteCashuPaymentResult := do
  let channelId := trim request.channelId
  rejectIf (isBlank request.channelId) "missing Cashu Spilman channel id"
  let unit ← StreamingRouteCashuUnit.parse request.unit
  let _ ← validateStreamingRouteCashuPaymentProgress "paid route payment" request.paidMsat
    request.previousPaidMsat request.capacitySat
  let balance := unit.balanceFromMsat request.paidMsat
  let includeFunding := request.kind.includeFunding
  let payment ← signer.sign request.kind channelId balance
  rejectIf (trim payment.channelId ≠ channelId)
    (s!"signed Cashu Spilman payment channel {payment.channelId} " ++
      s!"does not match requested channel {channelId}")
  rejectIf (payment.balance ≠ balance)
    (s!"signed Cashu Spilman payment balance {payment.balance} " ++
      s!"does not match requested balance {balance}")
  rejectIf (includeFunding ∧ ¬payment.hasFunding)
    "opening Cashu Spilman payment is missing funding data"
  return {
    payment
    unit := unit.asStr
    balance
    paidMsat := unit.balanceToMsat balance
    includeFunding }

def validateStreamingRouteCashuPaymentClaim (payment : CashuSpilmanPayment)
    (expectedChannelId unit : String) (claimedPaidMsat capacitySat : UInt64)
    (requireFunding : Bool) : Except String StreamingRouteCashuPaymentClaimValidation := do
  rejectIf (isBlank expectedChannelId) "missing Cashu Spilman channel id"
  let expectedChannelId := trim expectedChannelId
  let channelId := trim payment.channelId
  rejectIf (channelId ≠ expectedChannelId)
    (s!"Cashu Spilman payment channel {channelId} " ++
      s!"does not match expected channel {expectedChannelId}")
  rejectIf (isBlank payment.signature) "Cashu Spilman payment signature is empty"
  rejectIf (requireFunding ∧ ¬payment.hasFunding)
    "opening Cashu Spilman payment is missing funding data"
  let unit ← StreamingRouteCashuUnit.parse unit
  let paidMsat := unit.balanceToMsat payment.balance
  rejectIf (paidMsat ≠ claimedPaidMsat)
    (s!"paid route payment claim {claimedPaidMsat} msat does not match " ++
      s!"Cashu Spilman balance {payment.balance} {unit.asStr} ({paidMsat} msat)")
  let capacityMsat := capacitySat.saturatingMul 1000
  rejectIf (0 < capacityMsat ∧ capacityMsat < paidMsat)
    s!"paid route payment {paidMsat} msat exceeds channel capacity {capacityMsat} msat"
  return {
    channelId
    unit := unit.asStr
    balance := payment.balance
    paidMsat
    capacityMsat
    hasFunding := payment.hasFunding }

namespace StreamingRouteCashuUnit

variable {unit : StreamingRouteCashuUnit} {b p capacity : UInt64}

theorem parse_asStr (unit : StreamingRouteCashuUnit) : parse unit.asStr = .ok unit := by
  cases unit <;> decide

theorem asStr_inj {other : StreamingRouteCashuUnit} (h : unit.asStr = other.asStr) :
    unit = other := by
  have hparse := parse_asStr other
  rw [← h, parse_asStr, Except.ok.injEq] at hparse
  exact hparse

theorem scale_pos : 0 < unit.scale := by
  cases unit <;> decide

theorem scale_le : unit.scale ≤ 1000 := by
  cases unit <;> decide

theorem toNat_balanceToMsat :
    (unit.balanceToMsat b).toNat = min (b.toNat * unit.scale) (2 ^ 64 - 1) := by
  cases unit with
  | sat => exact UInt64.toNat_saturatingMul b 1000
  | msat =>
    have hb := b.toNat_lt
    simp only [balanceToMsat, scale]
    omega

theorem toNat_balanceFromMsat : (unit.balanceFromMsat p).toNat = p.toNat ⌈/⌉ unit.scale := by
  cases unit with
  | sat => exact UInt64.toNat_divCeil p (by decide)
  | msat => simp [balanceFromMsat, scale]

theorem le_balance : p.toNat ≤ (unit.balanceFromMsat p).toNat * unit.scale := by
  rw [toNat_balanceFromMsat, Nat.mul_comm]
  exact Nat.le_mul_ceilDiv scale_pos

theorem balance_lt : (unit.balanceFromMsat p).toNat * unit.scale < p.toNat + unit.scale := by
  rw [toNat_balanceFromMsat, Nat.mul_comm]
  exact Nat.mul_ceilDiv_lt scale_pos

theorem le_balanceToMsat : p ≤ unit.balanceToMsat (unit.balanceFromMsat p) := by
  have hp := p.toNat_lt
  have hle := @le_balance unit p
  rw [UInt64.le_iff_toNat_le, toNat_balanceToMsat]
  omega

theorem balanceToMsat_lt :
    (unit.balanceToMsat (unit.balanceFromMsat p)).toNat < p.toNat + 1000 := by
  have hlt := @balance_lt unit p
  have hscale := @scale_le unit
  rw [toNat_balanceToMsat]
  omega

theorem balanceToMsat_lt_of_lt (h : b < unit.balanceFromMsat p) : unit.balanceToMsat b < p := by
  rw [UInt64.lt_iff_toNat_lt, toNat_balanceFromMsat] at h
  have hlt := Nat.mul_lt_of_lt_ceilDiv scale_pos h
  rw [UInt64.lt_iff_toNat_lt, toNat_balanceToMsat, Nat.mul_comm]
  omega

theorem balanceFromMsat_mono {q : UInt64} (h : p ≤ q) :
    unit.balanceFromMsat p ≤ unit.balanceFromMsat q := by
  rw [UInt64.le_iff_toNat_le] at h ⊢
  rw [toNat_balanceFromMsat, toNat_balanceFromMsat]
  exact Nat.ceilDiv_mono h

theorem balanceToMsat_le_capacity (h : p ≤ capacity.saturatingMul 1000) :
    unit.balanceToMsat (unit.balanceFromMsat p) ≤ capacity.saturatingMul 1000 := by
  have hthousand : (1000 : UInt64).toNat = 1000 := rfl
  rw [UInt64.le_iff_toNat_le, UInt64.toNat_saturatingMul, hthousand] at h ⊢
  rw [toNat_balanceToMsat]
  have hcapacity : (unit.balanceFromMsat p).toNat * unit.scale ≤ capacity.toNat * 1000 := by
    rw [toNat_balanceFromMsat]
    cases unit with
    | sat =>
      have hquotient : p.toNat ⌈/⌉ 1000 ≤ capacity.toNat := by
        rw [ceilDiv_le_iff_le_mul (by decide)]
        omega
      simp only [scale]
      omega
    | msat =>
      simp only [scale, ceilDiv_one]
      omega
  omega

end StreamingRouteCashuUnit

section

variable {payment : CashuSpilmanPayment} {expectedChannelId unit : String}
  {claimedPaidMsat capacitySat : UInt64} {requireFunding : Bool}

theorem validateStreamingRouteCashuPaymentClaim_eq_ok
    {validation : StreamingRouteCashuPaymentClaimValidation} :
    validateStreamingRouteCashuPaymentClaim payment expectedChannelId unit claimedPaidMsat
        capacitySat requireFunding = .ok validation ↔
      isBlank expectedChannelId = false ∧ trim payment.channelId = trim expectedChannelId ∧
      isBlank payment.signature = false ∧ (requireFunding → payment.hasFunding) ∧
      ∃ cashuUnit, StreamingRouteCashuUnit.parse unit = .ok cashuUnit ∧
        cashuUnit.balanceToMsat payment.balance = claimedPaidMsat ∧
        (0 < capacitySat.saturatingMul 1000 →
          claimedPaidMsat ≤ capacitySat.saturatingMul 1000) ∧
        validation = ⟨trim payment.channelId, cashuUnit.asStr, payment.balance, claimedPaidMsat,
          capacitySat.saturatingMul 1000, payment.hasFunding⟩ := by
  simp only [validateStreamingRouteCashuPaymentClaim, Except.bind_eq_ok, rejectIf_eq_ok]
  simp only [Except.pure_eq_ok, exists_const, Bool.not_eq_true, ne_eq, not_not, not_and,
    Bool.not_eq_false, and_congr_right_iff]
  intro _ _ _ _
  constructor
  · rintro ⟨cashuUnit, hunit, rfl, hcapacity, rfl⟩
    exact ⟨cashuUnit, hunit, rfl, fun h => UInt64.not_lt.mp (hcapacity h), rfl⟩
  · rintro ⟨cashuUnit, hunit, rfl, hcapacity, rfl⟩
    exact ⟨cashuUnit, hunit, rfl, fun h => UInt64.not_lt.mpr (hcapacity h), rfl⟩

variable {signer : CashuSpilmanPaymentSigner} {request : StreamingRouteCashuPaymentRequest}
  {result : StreamingRouteCashuPaymentResult}

/-- What a request that succeeds has passed, and the result in terms of its unit. -/
structure Created (request : StreamingRouteCashuPaymentRequest)
    (result : StreamingRouteCashuPaymentResult) (cashuUnit : StreamingRouteCashuUnit) : Prop where
  named : isBlank request.channelId = false
  parsed : StreamingRouteCashuUnit.parse request.unit = .ok cashuUnit
  capacity : 0 < request.capacitySat.saturatingMul 1000 →
    request.paidMsat ≤ request.capacitySat.saturatingMul 1000
  channel : trim result.payment.channelId = trim request.channelId
  funded : result.includeFunding → result.payment.hasFunding
  signed : result.payment.balance = result.balance
  unit : result.unit = cashuUnit.asStr
  balance : result.balance = cashuUnit.balanceFromMsat request.paidMsat
  paid : result.paidMsat = cashuUnit.balanceToMsat result.balance

theorem created_of_createStreamingRouteCashuPayment
    (h : createStreamingRouteCashuPayment signer request = .ok result) :
    ∃ cashuUnit, Created request result cashuUnit := by
  simp only [createStreamingRouteCashuPayment, validateStreamingRouteCashuPaymentProgress,
    Except.bind_eq_ok, rejectIf_eq_ok, Except.pure_eq_ok] at h
  obtain ⟨_, hnamed, cashuUnit, hparsed, _, ⟨_, _, _, hcapacity, _⟩, payment, _, _, hchannel, _,
    hbalance, _, hfunded, rfl⟩ := h
  exact ⟨cashuUnit,
    { named := by simpa using hnamed
      parsed := hparsed
      capacity := by simpa using hcapacity
      channel := by simpa using hchannel
      funded := by simpa using hfunded
      signed := by simpa using hbalance
      unit := rfl
      balance := rfl
      paid := rfl }⟩

namespace Created

variable {cashuUnit : StreamingRouteCashuUnit}

theorem covers (h : Created request result cashuUnit) : request.paidMsat ≤ result.paidMsat := by
  rw [h.paid, h.balance]
  exact StreamingRouteCashuUnit.le_balanceToMsat

theorem tight (h : Created request result cashuUnit) :
    result.paidMsat.toNat < request.paidMsat.toNat + 1000 := by
  rw [h.paid, h.balance]
  exact StreamingRouteCashuUnit.balanceToMsat_lt

theorem least (h : Created request result cashuUnit) {b : UInt64} (hb : b < result.balance) :
    cashuUnit.balanceToMsat b < request.paidMsat := by
  rw [h.balance] at hb
  exact StreamingRouteCashuUnit.balanceToMsat_lt_of_lt hb

theorem claim (h : Created request result cashuUnit)
    (hsignature : isBlank result.payment.signature = false) :
    validateStreamingRouteCashuPaymentClaim result.payment request.channelId result.unit
      result.paidMsat request.capacitySat result.includeFunding =
        .ok ⟨trim request.channelId, result.unit, result.balance, result.paidMsat,
          request.capacitySat.saturatingMul 1000, result.payment.hasFunding⟩ := by
  have hparsed : StreamingRouteCashuUnit.parse result.unit = .ok cashuUnit := by
    rw [h.unit]
    exact StreamingRouteCashuUnit.parse_asStr cashuUnit
  have hpaid : cashuUnit.balanceToMsat result.payment.balance = result.paidMsat := by
    rw [h.signed, h.paid]
  have hcapacity : 0 < request.capacitySat.saturatingMul 1000 →
      result.paidMsat ≤ request.capacitySat.saturatingMul 1000 := by
    intro hpos
    rw [h.paid, h.balance]
    exact StreamingRouteCashuUnit.balanceToMsat_le_capacity (h.capacity hpos)
  rw [validateStreamingRouteCashuPaymentClaim_eq_ok]
  refine ⟨h.named, h.channel, hsignature, h.funded, cashuUnit, hparsed, hpaid, hcapacity, ?_⟩
  rw [h.unit, h.signed, h.channel]

theorem routed (h : Created request result cashuUnit) {policy : StreamingRoutePolicy} {d : UInt64}
    (hdue : request.paidMsat = policy.amountDueMsat d) :
    (policy.routingDecision d result.paidMsat).state = .freeProbe ∨
      (policy.routingDecision d result.paidMsat).state = .paid := by
  have hcovers : policy.amountDueMsat d ≤ result.paidMsat := hdue ▸ h.covers
  simp only [StreamingRoutePolicy.routingDecision]
  split
  · exact Or.inl rfl
  · exact Or.inr rfl

theorem ordered {other : StreamingRouteCashuPaymentRequest}
    {result' : StreamingRouteCashuPaymentResult} {cashuUnit' : StreamingRouteCashuUnit}
    (h : Created request result cashuUnit) (h' : Created other result' cashuUnit')
    (hunit : result.unit = result'.unit) (hle : request.paidMsat ≤ other.paidMsat) :
    result.payment.balance ≤ result'.payment.balance := by
  have heq : cashuUnit = cashuUnit' :=
    StreamingRouteCashuUnit.asStr_inj (by rw [← h.unit, ← h'.unit, hunit])
  rw [h.signed, h'.signed, h.balance, h'.balance, ← heq]
  exact StreamingRouteCashuUnit.balanceFromMsat_mono hle

end Created

/-- What buyer and seller agree on when a payment has been signed for a request. -/
structure PaymentAgreed (request : StreamingRouteCashuPaymentRequest)
    (result : StreamingRouteCashuPaymentResult) : Prop where
  covers : request.paidMsat ≤ result.paidMsat
  tight : result.paidMsat.toNat < request.paidMsat.toNat + 1000
  least : ∃ cashuUnit, StreamingRouteCashuUnit.parse request.unit = .ok cashuUnit ∧
    result.unit = cashuUnit.asStr ∧ result.payment.balance = result.balance ∧
    ∀ b < result.balance, cashuUnit.balanceToMsat b < request.paidMsat
  claim : validateStreamingRouteCashuPaymentClaim result.payment request.channelId result.unit
    result.paidMsat request.capacitySat result.includeFunding = .ok {
      channelId := trim request.channelId
      unit := result.unit
      balance := result.balance
      paidMsat := result.paidMsat
      capacityMsat := request.capacitySat.saturatingMul 1000
      hasFunding := result.payment.hasFunding }
  routed : ∀ (policy : StreamingRoutePolicy) d, request.paidMsat = policy.amountDueMsat d →
    (policy.routingDecision d result.paidMsat).state = .freeProbe ∨
      (policy.routingDecision d result.paidMsat).state = .paid
  ordered : ∀ signer other result',
    createStreamingRouteCashuPayment signer other = .ok result' → result.unit = result'.unit →
    request.paidMsat ≤ other.paidMsat → result.payment.balance ≤ result'.payment.balance

theorem createStreamingRouteCashuPayment_agreed
    (h : createStreamingRouteCashuPayment signer request = .ok result)
    (hsignature : isBlank result.payment.signature = false) : PaymentAgreed request result := by
  obtain ⟨cashuUnit, hcreated⟩ := created_of_createStreamingRouteCashuPayment h
  have hordered : ∀ signer other result',
      createStreamingRouteCashuPayment signer other = .ok result' → result.unit = result'.unit →
      request.paidMsat ≤ other.paidMsat → result.payment.balance ≤ result'.payment.balance := by
    intro signer' other result' hother hunit hle
    obtain ⟨_, hcreated'⟩ := created_of_createStreamingRouteCashuPayment hother
    exact hcreated.ordered hcreated' hunit hle
  exact
    { covers := hcreated.covers
      tight := hcreated.tight
      least := ⟨cashuUnit, hcreated.parsed, hcreated.unit, hcreated.signed, fun _ => hcreated.least⟩
      claim := hcreated.claim hsignature
      routed := fun _ _ => hcreated.routed
      ordered := hordered }

def echoSigner : CashuSpilmanPaymentSigner where
  signCashuSpilmanPayment channelId balance includeFunding :=
    let data := if includeFunding then some Json.null else none
    .ok ⟨channelId, balance, "signature", data, data⟩

theorem createStreamingRouteCashuPayment_agreed_sat :
    PaymentAgreed ⟨.channelOpen, " channel-1 ", "sat", 1501, 0, 2⟩
      ⟨⟨"channel-1", 2, "signature", some .null, some .null⟩, "sat", 2, 2000, true⟩ :=
  @createStreamingRouteCashuPayment_agreed echoSigner _ _ rfl (by decide)

/-- The balance covers the claim and is within the capacity, in the naturals. -/
structure ClaimCovered (payment : CashuSpilmanPayment) (expectedChannelId unit : String)
    (claimedPaidMsat capacitySat : UInt64) (requireFunding : Bool) : Prop where
  exact : ∃ cashuUnit, StreamingRouteCashuUnit.parse unit = .ok cashuUnit ∧
    claimedPaidMsat.toNat = payment.balance.toNat * cashuUnit.scale ∧
    (0 < capacitySat.toNat →
      payment.balance.toNat * cashuUnit.scale ≤ capacitySat.toNat * 1000)
  channel : trim payment.channelId = trim expectedChannelId
  signed : isBlank payment.signature = false
  funded : requireFunding → payment.hasFunding

/-- A balance in sats whose millisats do not fit, claimed as the most that does, where the
capacity does not fit either or is not given. -/
structure SaturatedClaim (payment : CashuSpilmanPayment) (expectedChannelId unit : String)
    (claimedPaidMsat capacitySat : UInt64) (requireFunding : Bool) : Prop where
  named : isBlank expectedChannelId = false
  channel : trim payment.channelId = trim expectedChannelId
  signed : isBlank payment.signature = false
  funded : requireFunding → payment.hasFunding
  sats : StreamingRouteCashuUnit.parse unit = .ok .sat
  overflows : 2 ^ 64 ≤ payment.balance.toNat * 1000
  claimed : claimedPaidMsat.toNat = 2 ^ 64 - 1
  capacity : capacitySat.toNat = 0 ∨ 2 ^ 64 ≤ capacitySat.toNat * 1000

theorem SaturatedClaim.accepted (h : SaturatedClaim payment expectedChannelId unit
    claimedPaidMsat capacitySat requireFunding) :
    ∃ validation, validateStreamingRouteCashuPaymentClaim payment expectedChannelId unit
      claimedPaidMsat capacitySat requireFunding = .ok validation := by
  have hoverflows := h.overflows
  have hclaimed := h.claimed
  have hcapacity := h.capacity
  have hthousand : (1000 : UInt64).toNat = 1000 := rfl
  have hzero : (0 : UInt64).toNat = 0 := rfl
  have hpaid : StreamingRouteCashuUnit.sat.balanceToMsat payment.balance = claimedPaidMsat := by
    rw [← UInt64.toNat_inj, StreamingRouteCashuUnit.toNat_balanceToMsat,
      StreamingRouteCashuUnit.scale]
    omega
  have hwithin : 0 < capacitySat.saturatingMul 1000 →
      claimedPaidMsat ≤ capacitySat.saturatingMul 1000 := by
    rw [UInt64.lt_iff_toNat_lt, UInt64.le_iff_toNat_le, UInt64.toNat_saturatingMul, hthousand,
      hzero]
    omega
  exact ⟨_, validateStreamingRouteCashuPaymentClaim_eq_ok.mpr
    ⟨h.named, h.channel, h.signed, h.funded, .sat, h.sats, hpaid, hwithin, rfl⟩⟩

theorem SaturatedClaim.not_covered (h : SaturatedClaim payment expectedChannelId unit
    claimedPaidMsat capacitySat requireFunding) :
    ¬ClaimCovered payment expectedChannelId unit claimedPaidMsat capacitySat requireFunding := by
  intro hcovered
  have hoverflows := h.overflows
  have hclaimed := h.claimed
  obtain ⟨cashuUnit, hunit, hexact, -⟩ := hcovered.exact
  rw [h.sats, Except.ok.injEq] at hunit
  rw [← hunit, StreamingRouteCashuUnit.scale] at hexact
  omega

theorem claimCovered_of_accepted {validation : StreamingRouteCashuPaymentClaimValidation}
    (h : validateStreamingRouteCashuPaymentClaim payment expectedChannelId unit claimedPaidMsat
      capacitySat requireFunding = .ok validation)
    (hsaturated : ¬SaturatedClaim payment expectedChannelId unit claimedPaidMsat capacitySat
      requireFunding) :
    ClaimCovered payment expectedChannelId unit claimedPaidMsat capacitySat requireFunding := by
  rw [validateStreamingRouteCashuPaymentClaim_eq_ok] at h
  obtain ⟨hnamed, hchannel, hsigned, hfunded, cashuUnit, hunit, hpaid, hcapacity, -⟩ := h
  have hthousand : (1000 : UInt64).toNat = 1000 := rfl
  have hzero : (0 : UInt64).toNat = 0 := rfl
  rw [← UInt64.toNat_inj, StreamingRouteCashuUnit.toNat_balanceToMsat] at hpaid
  rw [UInt64.lt_iff_toNat_lt, UInt64.le_iff_toNat_le, UInt64.toNat_saturatingMul, hthousand,
    hzero] at hcapacity
  have hfits : payment.balance.toNat * cashuUnit.scale < 2 ^ 64 := by
    by_contra hover
    cases cashuUnit with
    | sat =>
      simp only [StreamingRouteCashuUnit.scale] at hover hpaid
      exact hsaturated
        { named := hnamed
          channel := hchannel
          signed := hsigned
          funded := hfunded
          sats := hunit
          overflows := by omega
          claimed := by omega
          capacity := by omega }
    | msat =>
      have hbalance := payment.balance.toNat_lt
      simp only [StreamingRouteCashuUnit.scale] at hover
      omega
  exact
    { exact := ⟨cashuUnit, hunit, by omega, by omega⟩
      channel := hchannel
      signed := hsigned
      funded := hfunded }

theorem accepted_claimCovered_iff (payment : CashuSpilmanPayment)
    (expectedChannelId unit : String) (claimedPaidMsat capacitySat : UInt64)
    (requireFunding : Bool) :
    (∀ validation, validateStreamingRouteCashuPaymentClaim payment expectedChannelId unit
        claimedPaidMsat capacitySat requireFunding = .ok validation →
      ClaimCovered payment expectedChannelId unit claimedPaidMsat capacitySat requireFunding) ↔
    ¬SaturatedClaim payment expectedChannelId unit claimedPaidMsat capacitySat
      requireFunding := by
  constructor
  · intro h hsaturated
    obtain ⟨validation, haccepted⟩ := hsaturated.accepted
    exact hsaturated.not_covered (h validation haccepted)
  · intro hsaturated validation haccepted
    exact claimCovered_of_accepted haccepted hsaturated

theorem saturated_claim_accepted :
    ¬∀ validation, validateStreamingRouteCashuPaymentClaim
        ⟨"channel-1", 18446744073709551615, "signature", none, none⟩ "channel-1" "sat"
        18446744073709551615 9223372036854775808 false = .ok validation →
      ClaimCovered ⟨"channel-1", 18446744073709551615, "signature", none, none⟩ "channel-1" "sat"
        18446744073709551615 9223372036854775808 false := by
  intro h
  have hsaturated : SaturatedClaim
      ⟨"channel-1", 18446744073709551615, "signature", none, none⟩ "channel-1" "sat"
      18446744073709551615 9223372036854775808 false :=
    { named := by decide
      channel := rfl
      signed := by decide
      funded := by decide
      sats := by decide
      overflows := by decide
      claimed := by decide
      capacity := by decide }
  obtain ⟨validation, haccepted⟩ := hsaturated.accepted
  exact hsaturated.not_covered (h validation haccepted)

end

end CashuService
