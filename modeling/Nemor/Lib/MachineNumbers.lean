import Mathlib.Algebra.GroupWithZero.Nat
import Mathlib.Algebra.Order.Ring.Rat
import Mathlib.Tactic.Common

/-!
# Machine numbers

The integer and floating-point operations with a behaviour of their own: saturating and
checked operations of 64-bit integers, and the IEEE comparisons of binary64 values.
-/

namespace MachineNumbers

/-! ## §1 Signed 64-bit integers -/

/-- Subtraction that stops at the bounds of the type. -/
def saturatingSub (a b : Int64) : Int64 := Int64.ofIntClamp (a.toInt - b.toInt)

/-- Checked conversion from an unsigned integer of any width. -/
def tryFromNat (n : ℕ) : Option Int64 :=
  if n < 2 ^ 63 then some (Int64.ofNat n) else none

/-- The difference of two non-negative numbers never saturates. -/
theorem toInt_saturatingSub {a b : Int64} (ha : 0 ≤ a.toInt) (hb : 0 ≤ b.toInt) :
    (saturatingSub a b).toInt = a.toInt - b.toInt := by
  refine Int64.toInt_ofIntClamp ?_ ?_
  · have hmin : Int64.minValue.toInt = -2 ^ 63 := by decide
    have hlt := Int64.toInt_lt b
    omega
  · have hmax := Int64.toInt_le a
    omega

/-- Subtracting something smaller can saturate at the upper bound only. -/
theorem toInt_saturatingSub_of_le {a b : Int64} (h : b.toInt ≤ a.toInt) :
    (saturatingSub a b).toInt = min (a.toInt - b.toInt) (2 ^ 63 - 1) := by
  have hmin : Int64.minValue.toInt = -2 ^ 63 := by decide
  have hmax : Int64.maxValue.toInt = 2 ^ 63 - 1 := by decide
  by_cases hle : a.toInt - b.toInt ≤ 2 ^ 63 - 1
  · rw [saturatingSub, Int64.toInt_ofIntClamp (by omega) (by omega)]
    omega
  · have hclamp : saturatingSub a b = Int64.maxValue := by
      unfold saturatingSub Int64.ofIntClamp
      rw [dif_pos (by omega), dif_neg (by omega)]
    rw [hclamp, hmax]
    omega

theorem toInt_tryFromNat_getD (n : ℕ) :
    ((tryFromNat n).getD Int64.maxValue).toInt = min (n : ℤ) (2 ^ 63 - 1) := by
  unfold tryFromNat
  split
  · next h =>
    rw [Option.getD_some, Int64.toInt_ofNat_of_lt h]
    omega
  · next h =>
    have hmax : Int64.maxValue.toInt = 2 ^ 63 - 1 := by decide
    rw [Option.getD_none, hmax]
    omega

/-! ## §2 Unsigned 64-bit integers -/

namespace U64

/-- `u64::saturating_add`. -/
def saturatingAdd (a b : UInt64) : UInt64 := .ofNat (min (a.toNat + b.toNat) (2 ^ 64 - 1))

/-- `u64::saturating_sub`. -/
def saturatingSub (a b : UInt64) : UInt64 := .ofNat (a.toNat - b.toNat)

/-- `u64::saturating_mul`. -/
def saturatingMul (a b : UInt64) : UInt64 := .ofNat (min (a.toNat * b.toNat) (2 ^ 64 - 1))

/-- Addition that fails when the sum does not fit. -/
def add (a b : UInt64) : Option UInt64 :=
  if a.toNat + b.toNat < 2 ^ 64 then some (.ofNat (a.toNat + b.toNat)) else none

/-- The value moved into the bounds. There is none when the bounds are the wrong way round. -/
def clamp (x low high : UInt64) : Option UInt64 :=
  if low ≤ high then some (if x < low then low else if high < x then high else x) else none

@[simp] theorem toNat_saturatingAdd (a b : UInt64) :
    (saturatingAdd a b).toNat = min (a.toNat + b.toNat) (2 ^ 64 - 1) :=
  UInt64.toNat_ofNat_of_lt' (Nat.lt_of_le_of_lt (Nat.min_le_right _ _) (by decide))

@[simp] theorem toNat_saturatingSub (a b : UInt64) :
    (saturatingSub a b).toNat = a.toNat - b.toNat :=
  UInt64.toNat_ofNat_of_lt' (Nat.lt_of_le_of_lt (Nat.sub_le _ _) a.toNat_lt)

@[simp] theorem toNat_saturatingMul (a b : UInt64) :
    (saturatingMul a b).toNat = min (a.toNat * b.toNat) (2 ^ 64 - 1) :=
  UInt64.toNat_ofNat_of_lt' (Nat.lt_of_le_of_lt (Nat.min_le_right _ _) (by decide))

theorem toNat_max (a b : UInt64) : (max a b).toNat = max a.toNat b.toNat := by
  change (if a ≤ b then b else a).toNat = _
  simp only [UInt64.le_iff_toNat_le]
  split_ifs <;> omega

theorem toNat_min (a b : UInt64) : (min a b).toNat = min a.toNat b.toNat := by
  change (if a ≤ b then a else b).toNat = _
  simp only [UInt64.le_iff_toNat_le]
  split_ifs <;> omega

/-- Rounding down to a multiple stays in the type. -/
theorem toNat_div_mul (a b : UInt64) : (a / b * b).toNat = a.toNat / b.toNat * b.toNat := by
  rw [UInt64.toNat_mul, UInt64.toNat_div]
  exact Nat.mod_eq_of_lt (Nat.lt_of_le_of_lt (Nat.div_mul_le_self _ _) a.toNat_lt)

theorem add_eq_some {a b c : UInt64} (h : a.toNat + b.toNat < 2 ^ 64) :
    add a b = some c ↔ c.toNat = a.toNat + b.toNat := by
  simp only [add, if_pos h, Option.some.injEq, ← UInt64.toNat_inj]
  rw [UInt64.toNat_ofNat_of_lt' h]
  exact eq_comm

/-- The sum of a list. It fails as soon as a partial sum does not fit. -/
def sum (l : List UInt64) : Option UInt64 := l.foldlM add 0

theorem foldlM_add {l : List UInt64} {start : UInt64}
    (h : start.toNat + (l.map UInt64.toNat).sum < 2 ^ 64) :
    ∃ total, l.foldlM add start = some total ∧
      total.toNat = start.toNat + (l.map UInt64.toNat).sum := by
  induction l generalizing start with
  | nil => exact ⟨start, rfl, by simp⟩
  | cons a rest ih =>
    simp only [List.map_cons, List.sum_cons] at h ⊢
    have hfits : start.toNat + a.toNat < 2 ^ 64 := by omega
    have hnext : add start a = some (.ofNat (start.toNat + a.toNat)) := if_pos hfits
    have htoNat := (add_eq_some hfits).1 hnext
    obtain ⟨total, htotal, heq⟩ := @ih (.ofNat (start.toNat + a.toNat)) (by rw [htoNat]; omega)
    exact ⟨total, by simpa [hnext] using htotal, by rw [heq, htoNat]; omega⟩

/-- A sum that fits is the sum. -/
theorem sum_of_lt {l : List UInt64} (h : (l.map UInt64.toNat).sum < 2 ^ 64) :
    ∃ total, sum l = some total ∧ total.toNat = (l.map UInt64.toNat).sum := by
  have hsum := @foldlM_add l 0 (by simpa using h)
  simpa [sum] using hsum

/-- A saturating sum stops at the largest value. -/
theorem toNat_foldl_saturatingAdd (l : List UInt64) (start : UInt64) :
    (l.foldl saturatingAdd start).toNat =
      min (start.toNat + (l.map UInt64.toNat).sum) (2 ^ 64 - 1) := by
  induction l generalizing start with
  | nil =>
    have hlt := start.toNat_lt
    simp only [List.foldl_nil, List.map_nil, List.sum_nil]
    omega
  | cons a rest ih =>
    simp only [List.foldl_cons, List.map_cons, List.sum_cons, ih, toNat_saturatingAdd]
    omega

/-- The number in 32 bits, if it fits. -/
def tryU32 (n : UInt64) : Option UInt32 := if n.toNat < 2 ^ 32 then some n.toUInt32 else none

@[simp] theorem tryU32_toUInt64 (n : UInt32) : tryU32 n.toUInt64 = some n := by
  simp [tryU32, n.toNat_lt]

/-- Ordered bounds give a value between them. -/
theorem clamp_of_le (x : UInt64) {low high : UInt64} (h : low.toNat ≤ high.toNat) :
    ∃ y, clamp x low high = some y ∧ y.toNat = max low.toNat (min x.toNat high.toNat) := by
  refine ⟨_, if_pos (UInt64.le_iff_toNat_le.2 h), ?_⟩
  simp only [UInt64.lt_iff_toNat_lt]
  split_ifs <;> omega

end U64

/-! ## §3 Binary64 comparisons -/

/-- A binary64 value as comparisons see it. The two zeros compare equal and are one value
    here; finite values are taken as the rationals they denote. -/
inductive F64 where
  | nan
  | negInf
  | finite (q : ℚ)
  | posInf
  deriving DecidableEq

namespace F64

/-- `is_finite`. -/
def isFinite : F64 → Bool
  | .finite _ => true
  | _ => false

/-- IEEE `≤`: false as soon as one side is not a number. -/
def le : F64 → F64 → Bool
  | .nan, _ | _, .nan => false
  | .negInf, _ | _, .posInf => true
  | .finite p, .finite q => p ≤ q
  | _, _ => false

theorem le_trans {a b c : F64} (hab : a.le b = true) (hbc : b.le c = true) :
    a.le c = true := by
  cases a <;> cases b <;> cases c <;> simp_all [le]
  exact hab.trans hbc

/-- The same value, or a smaller one: what a comparison of measurements means when one of
    them can be not a number. -/
def NoHigher (a b : F64) : Prop := a = b ∨ a.le b = true

theorem NoHigher.le_trans {a b c : F64} (hab : a.NoHigher b) (hbc : b.le c = true) :
    a.le c = true := by
  rcases hab with rfl | hab
  · exact hbc
  · exact F64.le_trans hab hbc

theorem le_trans_noHigher {a b c : F64} (hab : a.le b = true) (hbc : b.NoHigher c) :
    a.le c = true := by
  rcases hbc with rfl | hbc
  · exact hab
  · exact le_trans hab hbc

/-- IEEE `<`: false as soon as one side is not a number. -/
def lt : F64 → F64 → Bool
  | .nan, _ | _, .nan => false
  | .negInf, .negInf | .posInf, _ | _, .negInf => false
  | .finite p, .finite q => p < q
  | _, _ => true

/-- Every 8-bit integer is a binary64 value. -/
def ofU8 (n : UInt8) : F64 := .finite n.toNat

/-- A number rounded to 53 significant bits, ties to the even one. -/
def roundToEven (n : ℕ) : ℕ :=
  let unit := 2 ^ (n.log2 - 52)
  let rest := n % unit
  if unit < 2 * rest ∨ (unit = 2 * rest ∧ n / unit % 2 = 1) then n - rest + unit else n - rest

/-- The binary64 value next to a 64-bit integer. -/
def ofU64 (n : UInt64) : F64 := .finite (roundToEven n.toNat)

end F64

end MachineNumbers
