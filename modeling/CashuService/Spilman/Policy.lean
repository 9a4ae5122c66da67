import CashuService.Base.Rounding
set_option autoImplicit false

namespace CashuService

/-! `spilman.rs`: what a metered route costs, and whether a seller goes on routing. -/

inductive StreamingRouteMeter where
  | milliseconds | bytes | packets
  deriving DecidableEq, Repr

structure StreamingRoutePolicy where
  meter : StreamingRouteMeter
  priceMsat : UInt64
  perUnits : UInt64
  maxChannelCapacitySat : UInt64
  channelExpirySecs : UInt64
  freeProbeUnits : UInt64
  graceUnits : UInt64
  deriving DecidableEq, Repr

inductive StreamingRouteAccessState where
  | freeProbe | paid | grace | suspended
  deriving DecidableEq, Repr

structure StreamingRouteDecision where
  state : StreamingRouteAccessState
  allowRouting : Bool
  deliveredUnits : UInt64
  paidMsat : UInt64
  amountDueMsat : UInt64
  enforcedAmountDueMsat : UInt64
  unpaidMsat : UInt64
  freeProbeRemainingUnits : UInt64
  graceRemainingUnits : UInt64
  deriving DecidableEq, Repr

namespace StreamingRoutePolicy

variable (self : StreamingRoutePolicy)

def amountDueMsat (deliveredUnits : UInt64) : UInt64 :=
  let billable := deliveredUnits.saturatingSub self.freeProbeUnits
  if billable = 0 ∨ self.priceMsat = 0 then 0
  else
    let perUnits := (max self.perUnits 1).toU128
    let total := billable.toU128 * self.priceMsat.toU128
    (total.divCeil perUnits).toU64

def routingDecision (deliveredUnits paidMsat : UInt64) : StreamingRouteDecision :=
  let amountDueMsat := self.amountDueMsat deliveredUnits
  let graceLimitUnits := self.freeProbeUnits.saturatingAdd self.graceUnits
  let enforcedUnits := deliveredUnits.saturatingSub self.graceUnits
  let enforcedAmountDueMsat := self.amountDueMsat enforcedUnits
  let allowRouting := decide (deliveredUnits ≤ graceLimitUnits ∨ enforcedAmountDueMsat ≤ paidMsat)
  { state :=
      if deliveredUnits ≤ self.freeProbeUnits then .freeProbe
      else if amountDueMsat ≤ paidMsat then .paid
      else if allowRouting then .grace
      else .suspended
    allowRouting := allowRouting
    deliveredUnits := deliveredUnits
    paidMsat := paidMsat
    amountDueMsat := amountDueMsat
    enforcedAmountDueMsat := enforcedAmountDueMsat
    unpaidMsat := amountDueMsat.saturatingSub paidMsat
    freeProbeRemainingUnits := self.freeProbeUnits.saturatingSub deliveredUnits
    graceRemainingUnits := graceLimitUnits.saturatingSub deliveredUnits }

def isBalanceSufficient (deliveredUnits paidMsat : UInt64) : Bool :=
  (self.routingDecision deliveredUnits paidMsat).allowRouting

def price (units : Nat) : Nat := (units * self.priceMsat.toNat) ⌈/⌉ max self.perUnits.toNat 1

def due (units : Nat) : Nat := self.price (units - self.freeProbeUnits.toNat)

variable {self} {d d' p : UInt64} {units more : Nat}

theorem price_mono (h : units ≤ more) : self.price units ≤ self.price more :=
  Nat.ceilDiv_mono (Nat.mul_le_mul_right _ h)

theorem price_add_le : self.price (units + more) ≤ self.price units + self.price more := by
  simp only [price, Nat.add_mul]
  exact Nat.add_ceilDiv_le _ _ _

theorem due_mono (h : units ≤ more) : self.due units ≤ self.due more :=
  price_mono (Nat.sub_le_sub_right h _)

theorem toNat_amountDueMsat (self : StreamingRoutePolicy) (d : UInt64) :
    (self.amountDueMsat d).toNat = self.due d.toNat % 2 ^ 64 := by
  have hper : (max self.perUnits 1).toNat = max self.perUnits.toNat 1 := by
    change (if self.perUnits ≤ 1 then (1 : UInt64) else self.perUnits).toNat = _
    have hone : (1 : UInt64).toNat = 1 := rfl
    split
    · rename_i h
      rw [UInt64.le_iff_toNat_le] at h
      omega
    · rename_i h
      rw [UInt64.le_iff_toNat_le] at h
      omega
  have hpos : 0 < (max self.perUnits 1).toNat := by
    rw [hper]
    omega
  simp only [amountDueMsat, due, price]
  split
  · rename_i hzero
    have hproduct : (d.toNat - self.freeProbeUnits.toNat) * self.priceMsat.toNat = 0 := by
      cases hzero with
      | inl h => simp [← UInt64.toNat_saturatingSub, h]
      | inr h => simp [h]
    rw [hproduct, zero_ceilDiv]
    rfl
  · rw [BitVec.toNat_toU64, BitVec.toNat_mul_divCeil _ _ hpos, hper, UInt64.toNat_saturatingSub]

theorem toNat_amountDueMsat_of_fits (h : self.due d.toNat < 2 ^ 64) :
    (self.amountDueMsat d).toNat = self.due d.toNat := by
  rw [toNat_amountDueMsat, Nat.mod_eq_of_lt h]

/-- Where what is due does not fit, the bill is right only by the luck of its lower bits. -/
theorem amountDueMsat_ge_iff (self : StreamingRoutePolicy) (d : UInt64) :
    min (2 ^ 64 - 1) (self.due d.toNat) ≤ (self.amountDueMsat d).toNat ↔
      self.due d.toNat < 2 ^ 64 ∨ self.due d.toNat % 2 ^ 64 = 2 ^ 64 - 1 := by
  rw [toNat_amountDueMsat]
  omega

theorem price_with_le {q : UInt64} (h : q ≤ self.priceMsat) (units : Nat) :
    ({ self with priceMsat := q } : StreamingRoutePolicy).price units ≤ self.price units :=
  Nat.ceilDiv_mono (Nat.mul_le_mul_left _ (UInt64.le_iff_toNat_le.mp h))

theorem amountDueMsat_le_of_due_le {other : StreamingRoutePolicy}
    (hd : min (2 ^ 64 - 1) (self.due d.toNat) ≤ (self.amountDueMsat d).toNat)
    (hle : other.due d'.toNat ≤ self.due d.toNat) :
    other.amountDueMsat d' ≤ self.amountDueMsat d := by
  have hsmall := (other.amountDueMsat d').toNat_lt
  have hmod := Nat.mod_le (other.due d'.toNat) (2 ^ 64)
  rw [UInt64.le_iff_toNat_le, toNat_amountDueMsat other]
  omega

/-- The bill for a usage is never too small, and grows with the usage and with the price. -/
structure NeverUnderBills (policy : StreamingRoutePolicy) (d : UInt64) : Prop where
  covers : min (2 ^ 64 - 1) (policy.due d.toNat) ≤ (policy.amountDueMsat d).toNat
  exact : policy.due d.toNat < 2 ^ 64 → (policy.amountDueMsat d).toNat = policy.due d.toNat
  usage : ∀ d' ≤ d, policy.amountDueMsat d' ≤ policy.amountDueMsat d
  price : ∀ q ≤ policy.priceMsat,
    ({ policy with priceMsat := q } : StreamingRoutePolicy).amountDueMsat d ≤ policy.amountDueMsat d
  enforced : ∀ paid, (policy.routingDecision d paid).enforcedAmountDueMsat ≤
    (policy.routingDecision d paid).amountDueMsat

theorem neverUnderBills_iff (self : StreamingRoutePolicy) (d : UInt64) :
    NeverUnderBills self d ↔
      self.due d.toNat < 2 ^ 64 ∨ self.due d.toNat % 2 ^ 64 = 2 ^ 64 - 1 := by
  constructor
  · intro h
    exact (amountDueMsat_ge_iff self d).mp h.covers
  · intro h
    have hcovers := (amountDueMsat_ge_iff self d).mpr h
    have husage : ∀ d' ≤ d, self.amountDueMsat d' ≤ self.amountDueMsat d := fun d' hle =>
      amountDueMsat_le_of_due_le hcovers (due_mono (UInt64.le_iff_toNat_le.mp hle))
    have hgrace : d.saturatingSub self.graceUnits ≤ d := by
      rw [UInt64.le_iff_toNat_le, UInt64.toNat_saturatingSub]
      omega
    exact
      { covers := hcovers
        exact := toNat_amountDueMsat_of_fits
        usage := husage
        price := fun q hq => amountDueMsat_le_of_due_le hcovers (price_with_le hq _)
        enforced := fun _ => husage _ hgrace }

theorem under_billing :
    ¬ NeverUnderBills ⟨.packets, 9223372036854775808, 1, 0, 0, 0, 0⟩ 2 := by
  intro h
  exact absurd h.covers (by decide)

@[simp] theorem price_zero : self.price 0 = 0 := by
  simp [price]

theorem toNat_enforcedAmountDueMsat (h : self.due d.toNat < 2 ^ 64) :
    (self.routingDecision d p).enforcedAmountDueMsat.toNat =
      self.price (d.toNat - self.freeProbeUnits.toNat - self.graceUnits.toNat) := by
  have hunits : (d.saturatingSub self.graceUnits).toNat = d.toNat - self.graceUnits.toNat :=
    UInt64.toNat_saturatingSub _ _
  have hfits : self.due (d.saturatingSub self.graceUnits).toNat < 2 ^ 64 :=
    lt_of_le_of_lt (due_mono (by omega)) h
  simp only [routingDecision]
  rw [toNat_amountDueMsat_of_fits hfits, due, hunits, Nat.sub_right_comm]

/-- Within the limit of the grace units nothing is enforced, so the balance test agrees. -/
theorem allowRouting_iff (h : self.due d.toNat < 2 ^ 64) :
    (self.routingDecision d p).allowRouting = true ↔
      self.price (d.toNat - self.freeProbeUnits.toNat - self.graceUnits.toNat) ≤ p.toNat := by
  have henforced := toNat_enforcedAmountDueMsat (p := p) h
  simp only [routingDecision] at henforced ⊢
  rw [decide_eq_true_iff, UInt64.le_iff_toNat_le, UInt64.le_iff_toNat_le, henforced,
    UInt64.toNat_saturatingAdd]
  constructor
  · rintro (hlimit | hpaid)
    · have hzero : d.toNat - self.freeProbeUnits.toNat - self.graceUnits.toNat = 0 := by omega
      simp [hzero]
    · exact hpaid
  · exact Or.inr

theorem price_enforced_le_due :
    self.price (d.toNat - self.freeProbeUnits.toNat - self.graceUnits.toNat) ≤
      self.due d.toNat :=
  price_mono (Nat.sub_le _ _)

theorem due_le_add :
    self.due d.toNat ≤
      self.price (d.toNat - self.freeProbeUnits.toNat - self.graceUnits.toNat) +
        self.price self.graceUnits.toNat := by
  calc self.due d.toNat
    _ ≤ self.price (d.toNat - self.freeProbeUnits.toNat - self.graceUnits.toNat +
          self.graceUnits.toNat) := price_mono (by omega)
    _ ≤ _ := price_add_le

theorem allowRouting_iff_state (h : self.due d.toNat < 2 ^ 64) :
    (self.routingDecision d p).allowRouting = true ↔
      (self.routingDecision d p).state ≠ .suspended := by
  have hallow := allowRouting_iff (p := p) h
  have hdue := toNat_amountDueMsat_of_fits h
  have hless := @price_enforced_le_due self d
  simp only [routingDecision] at hallow ⊢
  split
  · rename_i hfree
    rw [UInt64.le_iff_toNat_le] at hfree
    have hzero : d.toNat - self.freeProbeUnits.toNat - self.graceUnits.toNat = 0 := by omega
    rw [hzero, price_zero] at hallow
    simp [hallow.mpr (Nat.zero_le _)]
  · split
    · rename_i hpaid
      rw [UInt64.le_iff_toNat_le] at hpaid
      simp [hallow.mpr (by omega)]
    · split
      · rename_i hgrace
        simp [hgrace]
      · rename_i hsuspended
        simp [hsuspended]

theorem unpaidMsat_le (h : self.due d.toNat < 2 ^ 64)
    (hallow : (self.routingDecision d p).allowRouting = true) :
    (self.routingDecision d p).unpaidMsat.toNat ≤ self.price self.graceUnits.toNat := by
  have hpaid := (allowRouting_iff h).mp hallow
  have hsum := @due_le_add self d
  simp only [routingDecision]
  rw [UInt64.toNat_saturatingSub, toNat_amountDueMsat_of_fits h]
  omega

/-- What a decision says, against the price of the usage. -/
structure Coherent (policy : StreamingRoutePolicy) (d p : UInt64) : Prop where
  covered : (policy.routingDecision d p).allowRouting = true ↔
    policy.price (d.toNat - policy.freeProbeUnits.toNat - policy.graceUnits.toNat) ≤ p.toNat
  stated : (policy.routingDecision d p).allowRouting = true ↔
    (policy.routingDecision d p).state ≠ .suspended
  risk : (policy.routingDecision d p).allowRouting = true →
    (policy.routingDecision d p).unpaidMsat.toNat ≤ policy.price policy.graceUnits.toNat
  keeps : (policy.routingDecision d p).allowRouting = true →
    ∀ d' ≤ d, ∀ p' ≥ p, (policy.routingDecision d' p').allowRouting = true

theorem routingDecision_coherent (self : StreamingRoutePolicy) (d p : UInt64)
    (h : self.due d.toNat < 2 ^ 64) : Coherent self d p := by
  have hkeeps : (self.routingDecision d p).allowRouting = true →
      ∀ d' ≤ d, ∀ p' ≥ p, (self.routingDecision d' p').allowRouting = true := by
    intro hallow d' hd p' hp
    rw [UInt64.le_iff_toNat_le] at hd
    have hpaid := (allowRouting_iff h).mp hallow
    have hfits : self.due d'.toNat < 2 ^ 64 := lt_of_le_of_lt (due_mono hd) h
    rw [allowRouting_iff hfits]
    calc self.price (d'.toNat - self.freeProbeUnits.toNat - self.graceUnits.toNat)
      _ ≤ self.price (d.toNat - self.freeProbeUnits.toNat - self.graceUnits.toNat) :=
          price_mono (by omega)
      _ ≤ p.toNat := hpaid
      _ ≤ p'.toNat := UInt64.le_iff_toNat_le.mp hp
  exact
    { covered := allowRouting_iff h
      stated := allowRouting_iff_state h
      risk := unpaidMsat_le h
      keeps := hkeeps }

theorem routingDecision_coherent_bytes :
    Coherent ⟨.bytes, 25, 10, 100, 600, 100, 20⟩ 130 25 :=
  routingDecision_coherent _ _ _ (by decide)

end StreamingRoutePolicy
end CashuService
