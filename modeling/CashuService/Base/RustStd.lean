import Mathlib
set_option autoImplicit false

/-! The arithmetic and text functions of the Rust standard library that the code calls. -/

namespace UInt64

def checkedAdd (a b : UInt64) : Option UInt64 :=
  if a.toNat + b.toNat < 2 ^ 64 then some (a + b) else none

def checkedSub (a b : UInt64) : Option UInt64 :=
  if b.toNat ≤ a.toNat then some (a - b) else none

def checkedMul (a b : UInt64) : Option UInt64 :=
  if a.toNat * b.toNat < 2 ^ 64 then some (a * b) else none

def saturatingAdd (a b : UInt64) : UInt64 := (a.checkedAdd b).getD (UInt64.ofNat (2 ^ 64 - 1))

def saturatingMul (a b : UInt64) : UInt64 := (a.checkedMul b).getD (UInt64.ofNat (2 ^ 64 - 1))

theorem checkedAdd_eq_some {a b c : UInt64} :
    a.checkedAdd b = some c ↔ c.toNat = a.toNat + b.toNat := by
  have hc := c.toNat_lt
  have hab : (a + b).toNat = (a.toNat + b.toNat) % 2 ^ 64 := UInt64.toNat_add a b
  unfold checkedAdd
  split
  · rw [Option.some.injEq, ← UInt64.toNat_inj, hab]; omega
  · simp only [reduceCtorEq, false_iff]; omega

theorem checkedAdd_eq_none {a b : UInt64} :
    a.checkedAdd b = none ↔ 2 ^ 64 ≤ a.toNat + b.toNat := by
  unfold checkedAdd
  split <;> simp <;> omega

theorem checkedAdd_of_fits {a b : UInt64} (h : a.toNat + b.toNat < 2 ^ 64) :
    a.checkedAdd b = some (a + b) := if_pos h

theorem eq_add_of_checkedAdd {a b c : UInt64} (h : a.checkedAdd b = some c) : c = a + b := by
  unfold checkedAdd at h
  split at h
  · exact (Option.some.inj h).symm
  · contradiction

theorem checkedSub_eq_some {a b c : UInt64} :
    a.checkedSub b = some c ↔ c.toNat + b.toNat = a.toNat := by
  unfold checkedSub
  split
  · rename_i h
    have hab : (a - b).toNat = a.toNat - b.toNat :=
      UInt64.toNat_sub_of_le a b (UInt64.le_iff_toNat_le.mpr h)
    rw [Option.some.injEq, ← UInt64.toNat_inj, hab]
    omega
  · simp only [reduceCtorEq, false_iff]; omega

theorem checkedMul_eq_some {a b c : UInt64} :
    a.checkedMul b = some c ↔ c.toNat = a.toNat * b.toNat := by
  have hc := c.toNat_lt
  have hab : (a * b).toNat = a.toNat * b.toNat % 2 ^ 64 := UInt64.toNat_mul a b
  unfold checkedMul
  split
  · rename_i h
    rw [Option.some.injEq, ← UInt64.toNat_inj, hab, Nat.mod_eq_of_lt h, eq_comm]
  · simp only [reduceCtorEq, false_iff]; omega

theorem toNat_sub_add {a b : UInt64} (h : ¬a < b) : (a - b).toNat + b.toNat = a.toNat := by
  have hle : b ≤ a := UInt64.not_lt.mp h
  rw [UInt64.toNat_sub_of_le _ _ hle]
  exact Nat.sub_add_cancel (UInt64.le_iff_toNat_le.mp hle)

theorem toNat_min_eq (a b : UInt64) : (min a b).toNat = min a.toNat b.toNat := by
  change (if a ≤ b then a else b).toNat = if a.toNat ≤ b.toNat then a.toNat else b.toNat
  simp only [UInt64.le_iff_toNat_le]
  split <;> rfl

def toBeBytes (a : UInt64) : List UInt8 :=
  [56, 48, 40, 32, 24, 16, 8, 0].map fun shift => UInt8.ofNat (a.toNat / 2 ^ shift)

/-- `u64::from_be_bytes` of a slice, which has to have the length of a `u64`. -/
def ofBeBytes (bytes : List UInt8) : Option UInt64 :=
  if bytes.length = 8 then
    some (UInt64.ofNat (bytes.foldl (fun n byte => n * 2 ^ 8 + byte.toNat) 0))
  else none

theorem ofBeBytes_toBeBytes (a : UInt64) : ofBeBytes (toBeBytes a) = some a := by
  have ha := a.toNat_lt
  simp only [ofBeBytes, toBeBytes, List.map_cons, List.map_nil, List.length_cons, List.length_nil,
    List.foldl_cons, List.foldl_nil, UInt8.toNat_ofNat', if_true, Option.some.injEq]
  apply UInt64.toNat_inj.mp
  rw [UInt64.toNat_ofNat']
  omega

theorem toBeBytes_inj {a b : UInt64} : toBeBytes a = toBeBytes b ↔ a = b := by
  constructor
  · intro h
    have hbytes := congrArg ofBeBytes h
    rwa [ofBeBytes_toBeBytes, ofBeBytes_toBeBytes, Option.some.injEq] at hbytes
  · intro h
    rw [h]

end UInt64

namespace CashuService

def bytes (s : String) : List UInt8 := s.toUTF8.data.toList

def hexEncode (bytes : List UInt8) : String :=
  String.ofList (bytes.flatMap fun byte => [Nat.digitChar (byte.toNat / 16),
    Nat.digitChar (byte.toNat % 16)])

/-- The Unicode property `White_Space`, which decides what `str::trim` removes. -/
def isWhiteSpace (c : Char) : Bool :=
  let n := c.toNat
  (9 ≤ n && n ≤ 13) || n == 0x20 || n == 0x85 || n == 0xA0 || n == 0x1680 ||
    (0x2000 ≤ n && n ≤ 0x200A) || n == 0x2028 || n == 0x2029 || n == 0x202F ||
    n == 0x205F || n == 0x3000

def trim (s : String) : String :=
  String.ofList ((s.toList.dropWhile isWhiteSpace).reverse.dropWhile isWhiteSpace).reverse

def isBlank (s : String) : Bool := (trim s).toList.isEmpty

theorem isBlank_of_mem {s : String} {c : Char} (hmem : c ∈ s.toList)
    (hc : isWhiteSpace c = false) : isBlank s = false := by
  rw [← List.takeWhile_append_dropWhile (p := isWhiteSpace) (l := s.toList)] at hmem
  have hdrop : c ∈ s.toList.dropWhile isWhiteSpace := by
    rcases List.mem_append.mp hmem with htake | hdrop
    · rw [List.mem_takeWhile_imp htake] at hc
      cases hc
    · exact hdrop
  by_contra hblank
  simp only [isBlank, trim, String.toList_ofList, Bool.not_eq_false, List.isEmpty_iff,
    List.reverse_eq_nil_iff, List.dropWhile_eq_nil_iff] at hblank
  rw [hblank c (List.mem_reverse.mpr hdrop)] at hc
  cases hc

end CashuService
