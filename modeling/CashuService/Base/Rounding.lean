import CashuService.Base.RustStd
set_option autoImplicit false

/-! Division that rounds up, and the arithmetic of the Rust standard library that saturates. -/

namespace Nat

theorem ceilDiv_of_mod_eq_zero {a b : Nat} (h : a % b = 0) : a ⌈/⌉ b = a / b := by
  obtain ⟨c, rfl⟩ := Nat.dvd_of_mod_eq_zero h
  cases b with
  | zero => simp
  | succ b =>
    have hb : 0 < b + 1 := Nat.succ_pos b
    rw [Nat.mul_div_cancel_left c hb]
    exact smul_ceilDiv hb c

theorem div_lt_of_mod_ne_zero {a b : Nat} (h : a % b ≠ 0) : a / b < a := by
  have hone : b ≠ 1 := by
    intro hb
    rw [hb, Nat.mod_one] at h
    contradiction
  have hpos : a ≠ 0 := by
    intro ha
    rw [ha, Nat.zero_mod] at h
    contradiction
  cases b with
  | zero => simpa using Nat.pos_of_ne_zero hpos
  | succ b => exact Nat.div_lt_self (Nat.pos_of_ne_zero hpos) (by omega)

theorem ceilDiv_of_mod_ne_zero {a b : Nat} (hb : 0 < b) (h : a % b ≠ 0) :
    a ⌈/⌉ b = a / b + 1 := by
  have hsum := Nat.div_add_mod a b
  have hlt := Nat.mod_lt a hb
  apply Nat.le_antisymm
  · rw [ceilDiv_le_iff_le_mul hb, Nat.mul_add]
    omega
  · rw [Nat.succ_le_iff, ← Nat.not_le, ceilDiv_le_iff_le_mul hb]
    omega

theorem ceilDiv_mono {a b c : Nat} (h : a ≤ b) : a ⌈/⌉ c ≤ b ⌈/⌉ c :=
  Nat.div_le_div_right (by omega)

theorem add_ceilDiv_le (a b c : Nat) : (a + b) ⌈/⌉ c ≤ a ⌈/⌉ c + b ⌈/⌉ c := by
  cases c with
  | zero => simp
  | succ c =>
    have hc : 0 < c + 1 := Nat.succ_pos c
    have ha := (ceilDiv_le_iff_le_mul hc).mp (le_refl (a ⌈/⌉ (c + 1)))
    have hb := (ceilDiv_le_iff_le_mul hc).mp (le_refl (b ⌈/⌉ (c + 1)))
    rw [ceilDiv_le_iff_le_mul hc, Nat.mul_add]
    omega

theorem le_mul_ceilDiv {a b : Nat} (hb : 0 < b) : a ≤ b * (a ⌈/⌉ b) :=
  (ceilDiv_le_iff_le_mul hb).mp (le_refl _)

theorem mul_ceilDiv_lt {a b : Nat} (hb : 0 < b) : b * (a ⌈/⌉ b) < a + b := by
  have h := Nat.div_mul_le_self (a + b - 1) b
  rw [Nat.ceilDiv_eq_add_pred_div, Nat.mul_comm]
  omega

theorem mul_lt_of_lt_ceilDiv {a b c : Nat} (hb : 0 < b) (h : c < a ⌈/⌉ b) : b * c < a := by
  rw [← Nat.not_le, ← ceilDiv_le_iff_le_mul hb]
  omega

end Nat

namespace UInt64

def saturatingSub (a b : UInt64) : UInt64 := (a.checkedSub b).getD 0

def divCeil (a b : UInt64) : UInt64 := if a % b = 0 then a / b else a / b + 1

def toU128 (a : UInt64) : BitVec 128 := a.toBitVec.setWidth 128

@[simp] theorem toNat_saturatingSub (a b : UInt64) :
    (a.saturatingSub b).toNat = a.toNat - b.toNat := by
  unfold saturatingSub
  cases h : a.checkedSub b with
  | some c =>
    have hc := checkedSub_eq_some.mp h
    simp only [Option.getD_some]
    omega
  | none =>
    unfold checkedSub at h
    split at h
    · contradiction
    · simp only [Option.getD_none, UInt64.toNat_zero]
      omega

theorem saturatingAdd_eq {a b c : UInt64} (h : c.toNat = a.toNat + b.toNat) :
    a.saturatingAdd b = c := by
  rw [saturatingAdd, checkedAdd_eq_some.mpr h, Option.getD_some]

@[simp] theorem toNat_saturatingAdd (a b : UInt64) :
    (a.saturatingAdd b).toNat = min (a.toNat + b.toNat) (2 ^ 64 - 1) := by
  have hmax : (UInt64.ofNat (2 ^ 64 - 1)).toNat = 2 ^ 64 - 1 := rfl
  unfold saturatingAdd
  cases h : a.checkedAdd b with
  | some c =>
    have hc := checkedAdd_eq_some.mp h
    have hlt := c.toNat_lt
    simp only [Option.getD_some]
    omega
  | none =>
    have hover := checkedAdd_eq_none.mp h
    simp only [Option.getD_none, hmax]
    omega

@[simp] theorem toNat_saturatingMul (a b : UInt64) :
    (a.saturatingMul b).toNat = min (a.toNat * b.toNat) (2 ^ 64 - 1) := by
  have hmax : (UInt64.ofNat (2 ^ 64 - 1)).toNat = 2 ^ 64 - 1 := rfl
  unfold saturatingMul
  cases h : a.checkedMul b with
  | some c =>
    have hc := checkedMul_eq_some.mp h
    have hlt := c.toNat_lt
    simp only [Option.getD_some]
    omega
  | none =>
    unfold checkedMul at h
    split at h
    · contradiction
    · simp only [Option.getD_none, hmax]
      omega

theorem toNat_divCeil (a : UInt64) {b : UInt64} (hb : 0 < b.toNat) :
    (a.divCeil b).toNat = a.toNat ⌈/⌉ b.toNat := by
  have hmod : a % b = 0 ↔ a.toNat % b.toNat = 0 := by
    rw [← UInt64.toNat_inj, UInt64.toNat_mod]
    rfl
  unfold divCeil
  split
  · rename_i h
    rw [UInt64.toNat_div, Nat.ceilDiv_of_mod_eq_zero (hmod.mp h)]
  · rename_i h
    have hrest : a.toNat % b.toNat ≠ 0 := mt hmod.mpr h
    have hless := Nat.div_lt_of_mod_ne_zero hrest
    have hlt := a.toNat_lt
    have hone : (1 : UInt64).toNat = 1 := rfl
    rw [UInt64.toNat_add, UInt64.toNat_div, hone, Nat.mod_eq_of_lt (by omega),
      Nat.ceilDiv_of_mod_ne_zero hb hrest]

theorem toNat_toU128 (a : UInt64) : a.toU128.toNat = a.toNat :=
  BitVec.toNat_setWidth_of_le (by decide)

end UInt64

namespace BitVec

def divCeil (a b : BitVec 128) : BitVec 128 := if a % b = 0 then a / b else a / b + 1

def toU64 (a : BitVec 128) : UInt64 := .ofBitVec (a.setWidth 64)

theorem toNat_toU64 (a : BitVec 128) : a.toU64.toNat = a.toNat % 2 ^ 64 :=
  BitVec.toNat_setWidth 64 a

theorem toNat_divCeil (a : BitVec 128) {b : BitVec 128} (hb : 0 < b.toNat) :
    (a.divCeil b).toNat = a.toNat ⌈/⌉ b.toNat := by
  have hmod : a % b = 0 ↔ a.toNat % b.toNat = 0 := by
    rw [← BitVec.toNat_inj, BitVec.toNat_umod]
    rfl
  unfold divCeil
  split
  · rename_i h
    rw [BitVec.toNat_udiv, Nat.ceilDiv_of_mod_eq_zero (hmod.mp h)]
  · rename_i h
    have hrest : a.toNat % b.toNat ≠ 0 := mt hmod.mpr h
    have hless := Nat.div_lt_of_mod_ne_zero hrest
    have hlt := a.isLt
    have hone : (1 : BitVec 128).toNat = 1 := rfl
    rw [BitVec.toNat_add, BitVec.toNat_udiv, hone, Nat.mod_eq_of_lt (by omega),
      Nat.ceilDiv_of_mod_ne_zero hb hrest]

theorem toNat_mul_divCeil (a b : UInt64) {c : UInt64} (hc : 0 < c.toNat) :
    ((a.toU128 * b.toU128).divCeil c.toU128).toNat = (a.toNat * b.toNat) ⌈/⌉ c.toNat := by
  have ha := a.toNat_lt
  have hb := b.toNat_lt
  have hprod : a.toNat * b.toNat < 2 ^ 128 := by
    calc a.toNat * b.toNat ≤ a.toNat * 2 ^ 64 := Nat.mul_le_mul_left _ (by omega)
      _ < 2 ^ 64 * 2 ^ 64 := Nat.mul_lt_mul_of_pos_right ha (by decide)
      _ = 2 ^ 128 := by decide
  rw [toNat_divCeil _ (by rwa [UInt64.toNat_toU128]), BitVec.toNat_mul, UInt64.toNat_toU128,
    UInt64.toNat_toU128, UInt64.toNat_toU128, Nat.mod_eq_of_lt hprod]

end BitVec
