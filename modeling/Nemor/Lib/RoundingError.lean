import Mathlib.Algebra.Order.Field.Power
import Nemor.Lib.Binary64

/-!
# Rounding several times

Each rounding of a binary64 computation moves a value by a small factor. How far a computed value
is from the exact one is counted in roundings, and the operations on positive values add the
counts up. The values have to stay in a range where nothing underflows; zero is exact.
-/

namespace MachineNumbers.F64

/-- Every 32-bit integer is a binary64 value. -/
def ofU32 (n : UInt32) : F64 := .finite n.toNat

/-- Half of a unit in the last place of one. -/
def roundoff : ℚ := 1 / 2 ^ 53

/-- One value is the other up to a number of roundings. -/
def Within (k : ℕ) (x y : ℚ) : Prop :=
  (1 - roundoff) ^ k * y ≤ x ∧ (1 - roundoff) ^ k * x ≤ y

/-! ## Counting roundings -/

section Within

variable {k l : ℕ} {x y z c : ℚ}

theorem factor_nonneg (k : ℕ) : 0 ≤ (1 - roundoff) ^ k := by
  have : (0 : ℚ) ≤ 1 - roundoff := by norm_num [roundoff]
  positivity

theorem Within.trans (h : Within k x y) (h' : Within l y z) : Within (k + l) x z := by
  constructor
  · calc (1 - roundoff) ^ (k + l) * z = (1 - roundoff) ^ k * ((1 - roundoff) ^ l * z) := by ring
      _ ≤ (1 - roundoff) ^ k * y := mul_le_mul_of_nonneg_left h'.1 (factor_nonneg k)
      _ ≤ x := h.1
  · calc (1 - roundoff) ^ (k + l) * x = (1 - roundoff) ^ l * ((1 - roundoff) ^ k * x) := by ring
      _ ≤ (1 - roundoff) ^ l * y := mul_le_mul_of_nonneg_left h.2 (factor_nonneg l)
      _ ≤ z := h'.2

theorem Within.mul_right (h : Within k x y) (hc : 0 ≤ c) : Within k (x * c) (y * c) := by
  constructor
  · calc (1 - roundoff) ^ k * (y * c) = (1 - roundoff) ^ k * y * c := by ring
      _ ≤ x * c := mul_le_mul_of_nonneg_right h.1 hc
  · calc (1 - roundoff) ^ k * (x * c) = (1 - roundoff) ^ k * x * c := by ring
      _ ≤ y * c := mul_le_mul_of_nonneg_right h.2 hc

/-- A quotient takes the roundings of both sides. -/
theorem Within.div {a b : ℚ} (h : Within k x y) (h' : Within l a b) (hx : 0 ≤ x) (hy : 0 ≤ y)
    (ha : 0 < a) (hb : 0 < b) : Within (k + l) (x / a) (y / b) := by
  have hcross {x y a b : ℚ} (hx : 0 ≤ x) (ha : 0 < a) (hb : 0 < b)
      (hxy : (1 - roundoff) ^ k * y ≤ x) (hab : (1 - roundoff) ^ l * a ≤ b) :
      (1 - roundoff) ^ (k + l) * (y / b) ≤ x / a := by
    rw [← mul_div_assoc, div_le_div_iff₀ hb ha]
    calc (1 - roundoff) ^ (k + l) * y * a
        = (1 - roundoff) ^ k * y * ((1 - roundoff) ^ l * a) := by ring
      _ ≤ x * ((1 - roundoff) ^ l * a) :=
        mul_le_mul_of_nonneg_right hxy (mul_nonneg (factor_nonneg l) ha.le)
      _ ≤ x * b := mul_le_mul_of_nonneg_left hab hx
  exact ⟨hcross hx ha hb h.1 h'.2, hcross hy hb ha h.2 h'.1⟩

end Within

/-! ## One rounding -/

/-- Zero, or positive and far from both ends of the exponents. -/
def InRange (low high : ℕ) (q : ℚ) : Prop := q = 0 ∨ 1 / 2 ^ low ≤ q ∧ q ≤ 2 ^ high

theorem InRange.nonneg {low high : ℕ} {q : ℚ} (h : InRange low high q) : 0 ≤ q := by
  rcases h with rfl | ⟨h, -⟩
  · exact le_rfl
  · exact LE.le.trans (by positivity) h

/-- The last place of a number that is not subnormal is a small part of it. -/
theorem quantum_le {q : ℚ} (h : 1 / 2 ^ 1022 ≤ q) : quantum q ≤ q / 2 ^ 52 := by
  have hpos : 0 < q := lt_of_lt_of_le (by positivity) h
  have hbelow : (2 : ℚ) ^ Int.log 2 q ≤ q := by
    exact_mod_cast Int.zpow_log_le_self (by decide) hpos
  have hlow : (-1022 : ℤ) ≤ Int.log 2 q := by
    rw [← Int.zpow_le_iff_le_log (by decide) hpos]
    refine (le_of_eq ?_).trans h
    rw [zpow_neg, one_div]
    norm_cast
  have hexponent : quantumExponent q = Int.log 2 q - 52 := by
    rw [quantumExponent, abs_of_pos hpos]
    omega
  have hsplit : (2 : ℚ) ^ (Int.log 2 q - 52) = 2 ^ Int.log 2 q / 2 ^ 52 := by
    rw [zpow_sub₀ (by decide)]
    norm_cast
  rw [quantum, hexponent, hsplit]
  exact div_le_div_of_nonneg_right hbelow (by positivity)

theorem nearest_zero : nearest 0 = 0 := @nearest_of_grid 0 0 (by simp)

/-- **One rounding counts as one.** -/
theorem within_nearest {low high : ℕ} {q : ℚ} (h : InRange low high q) (hlow : low ≤ 1022) :
    Within 1 (nearest q) q := by
  rcases h with rfl | ⟨h, -⟩
  · simp [Within, nearest_zero]
  · have hnormal : (1 : ℚ) / 2 ^ 1022 ≤ q := by
      refine LE.le.trans ?_ h
      exact one_div_le_one_div_of_le (by positivity) (pow_le_pow_right₀ (by norm_num) hlow)
    have hpos : 0 < q := lt_of_lt_of_le (by positivity) h
    have herror := abs_le.1 (nearest_error q)
    have hquantum := quantum_le hnormal
    have hhalf : quantum q / 2 ≤ roundoff * q := by
      have : roundoff * q = q / 2 ^ 52 / 2 := by
        rw [roundoff]
        ring
      linarith
    constructor
    · rw [pow_one]
      linarith
    · have hsquare : (1 - roundoff) * ((1 + roundoff) * q) ≤ q := by
        have : 0 ≤ roundoff * roundoff * q := by
          have : (0 : ℚ) ≤ roundoff := by norm_num [roundoff]
          positivity
        linarith
      have hupper : nearest q ≤ (1 + roundoff) * q := by linarith
      rw [pow_one]
      refine (mul_le_mul_of_nonneg_left hupper ?_).trans hsquare
      norm_num [roundoff]

/-! ## Ranges -/

section Range

variable {low high : ℕ} {q : ℚ}

theorem InRange.nearest (h : InRange low high q) (hlow : low ≤ 1022) :
    InRange (low + 1) (high + 1) (F64.nearest q) := by
  have hnear := within_nearest h hlow
  rcases h with rfl | ⟨h, hhigh⟩
  · exact .inl nearest_zero
  · have hhalf : (1 : ℚ) / 2 ≤ 1 - roundoff := by norm_num [roundoff]
    have hpos : 0 < q := lt_of_lt_of_le (by positivity) h
    simp only [Within, pow_one] at hnear
    refine .inr ⟨?_, ?_⟩
    · calc (1 : ℚ) / 2 ^ (low + 1) = 1 / 2 * (1 / 2 ^ low) := by rw [pow_succ]; field_simp
        _ ≤ 1 / 2 * q := mul_le_mul_of_nonneg_left h (by norm_num)
        _ ≤ (1 - roundoff) * q := mul_le_mul_of_nonneg_right hhalf hpos.le
        _ ≤ F64.nearest q := hnear.1
    · have hnonneg := nearest_nonneg hpos.le
      have htwice : 1 / 2 * F64.nearest q ≤ q :=
        (mul_le_mul_of_nonneg_right hhalf hnonneg).trans hnear.2
      calc F64.nearest q ≤ 2 * q := by linarith
        _ ≤ 2 * 2 ^ high := mul_le_mul_of_nonneg_left hhigh (by norm_num)
        _ = 2 ^ (high + 1) := by rw [pow_succ]; ring

/-- Nothing in the range is rounded to zero. -/
theorem InRange.nearest_pos (h : InRange low high q) (hlow : low ≤ 1022) (hq : 0 < q) :
    0 < F64.nearest q := by
  have hbelow := (within_nearest h hlow).1
  rw [pow_one] at hbelow
  have hfactor : (0 : ℚ) < 1 - roundoff := by norm_num [roundoff]
  exact (mul_pos hfactor hq).trans_le hbelow

theorem inRange_natCast {n w : ℕ} (h : n ≤ 2 ^ w) : InRange 0 w n := by
  rcases Nat.eq_zero_or_pos n with rfl | hpos
  · exact .inl (by simp)
  · exact .inr ⟨by simpa using (by exact_mod_cast hpos : (1 : ℚ) ≤ n), by exact_mod_cast h⟩

theorem InRange.mul_natCast (h : InRange low high q) {c w : ℕ} (hc : c ≤ 2 ^ w) :
    InRange low (high + w) (q * c) := by
  rcases h with rfl | ⟨h, hhigh⟩
  · exact .inl (zero_mul _)
  rcases Nat.eq_zero_or_pos c with rfl | hpos
  · exact .inl (by simp)
  have hq : 0 < q := lt_of_lt_of_le (by positivity) h
  have hone : (1 : ℚ) ≤ c := by exact_mod_cast hpos
  have hc' : (c : ℚ) ≤ 2 ^ w := by exact_mod_cast hc
  refine .inr ⟨h.trans (le_mul_of_one_le_right hq.le hone), ?_⟩
  rw [pow_add]
  exact mul_le_mul hhigh hc' (Nat.cast_nonneg c) (by positivity)

theorem InRange.div (h : InRange low high q) {a b : ℕ} {d : ℚ} (hlow : 1 / 2 ^ a ≤ d)
    (hhigh : d ≤ 2 ^ b) : InRange (low + b) (high + a) (q / d) := by
  have hd : 0 < d := lt_of_lt_of_le (by positivity) hlow
  rcases h with rfl | ⟨h, hq⟩
  · exact .inl (zero_div _)
  · refine .inr ⟨?_, ?_⟩
    · rw [pow_add, ← div_div]
      exact div_le_div₀ (lt_of_lt_of_le (by positivity) h).le h hd hhigh
    · rw [div_le_iff₀ hd]
      calc q ≤ 2 ^ high := hq
        _ = 2 ^ (high + a) * (1 / 2 ^ a) := by rw [pow_add]; field_simp
        _ ≤ 2 ^ (high + a) * d := mul_le_mul_of_nonneg_left hlow (by positivity)

/-- In a range far from the overflow bound a value has a finite one next to it. -/
theorem InRange.ofRat_eq (h : InRange low high q) (hhigh : high ≤ 200) :
    ofRat q = .finite (F64.nearest q) := by
  refine ofRat_of_le h.nonneg ?_
  rcases h with rfl | ⟨-, hle⟩
  · positivity
  · exact hle.trans (pow_le_pow_right₀ (by norm_num) hhigh)

end Range

end MachineNumbers.F64
