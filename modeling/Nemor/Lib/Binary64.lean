import Mathlib.Data.Int.Log
import Mathlib.Data.Rat.Floor
import Mathlib.Tactic.Linarith
import Mathlib.Tactic.Positivity
import Mathlib.Tactic.FieldSimp
import Mathlib.Tactic.NormNum
import Nemor.Lib.MachineNumbers

/-!
# Binary64 rounding

Round to nearest, ties to even, of a rational number: the significand has 53 bits, the
exponent stops at the subnormal range below and at infinity above.

The rounding never moves a number across a value of its own binary grid
(`le_nearest_of_grid`, `nearest_le_of_grid`). Monotonicity and the exactness of
representable values both come from there.
-/

namespace MachineNumbers

namespace F64

/-! ## §1 The grid -/

/-- The exponent of the last place of a number. -/
def quantumExponent (q : ℚ) : ℤ := max (Int.log 2 |q| - 52) (-1074)

/-- The unit in the last place. -/
def quantum (q : ℚ) : ℚ := 2 ^ quantumExponent q

/-- The nearest integer, ties to the even one. -/
def halfEven (q : ℚ) : ℤ :=
  if 1 < 2 * (q - ⌊q⌋) ∨ (2 * (q - ⌊q⌋) = 1 ∧ ⌊q⌋ % 2 = 1) then ⌊q⌋ + 1 else ⌊q⌋

/-- A number rounded to 53 significant bits, with unbounded range above. -/
def nearest (q : ℚ) : ℚ := halfEven (q / quantum q) * quantum q

theorem quantum_pos (q : ℚ) : 0 < quantum q := by
  exact zpow_pos (by decide) _

theorem le_halfEven {q : ℚ} {k : ℤ} (h : k ≤ q) : k ≤ halfEven q := by
  have hfloor : k ≤ ⌊q⌋ := Int.le_floor.2 h
  unfold halfEven
  split_ifs <;> omega

theorem halfEven_le {q : ℚ} {k : ℤ} (h : q ≤ k) : halfEven q ≤ k := by
  have hfloor : ⌊q⌋ ≤ k := by exact_mod_cast (Int.floor_le q).trans h
  unfold halfEven
  split_ifs with hup
  · -- the floor is not `k` itself, because something was cut off
    rcases eq_or_lt_of_le hfloor with heq | hlt
    · have hq : q ≤ ⌊q⌋ := by rw [heq]; exact h
      rcases hup with hup | hup <;> linarith
    · omega
  · exact hfloor

theorem halfEven_error (q : ℚ) : |halfEven q - q| ≤ 1 / 2 := by
  have hle := Int.floor_le q
  have hlt := Int.lt_floor_add_one q
  unfold halfEven
  rw [abs_le]
  split_ifs with hup
  · push_cast
    constructor
    · linarith
    · rcases hup with hup | hup <;> linarith
  · rw [not_or] at hup
    constructor <;> linarith

theorem halfEven_mono {p q : ℚ} (h : p ≤ q) : halfEven p ≤ halfEven q := by
  rcases eq_or_lt_of_le (Int.floor_mono h) with heq | hlt
  · -- the same floor: the fraction has grown
    unfold halfEven
    rw [heq]
    split_ifs with hp hq
    · exact le_refl _
    · exfalso
      refine hq ?_
      rcases hp with hp | ⟨hp, hodd⟩
      · left
        linarith
      · rcases eq_or_lt_of_le h with rfl | hlt
        · exact Or.inr ⟨hp, hodd⟩
        · left
          linarith
    · omega
    · exact le_refl _
  · have hp : halfEven p ≤ ⌊p⌋ + 1 := by
      unfold halfEven
      split_ifs <;> omega
    have hq : ⌊q⌋ ≤ halfEven q := le_halfEven (Int.floor_le q)
    omega

/-! ## §2 Rounding stays inside the grid -/

theorem le_nearest_of_grid {q : ℚ} {k : ℤ} (h : k * quantum q ≤ q) :
    k * quantum q ≤ nearest q := by
  have hpos := quantum_pos q
  have hk : (k : ℚ) ≤ q / quantum q := (le_div_iff₀ hpos).2 h
  have hint : (k : ℚ) ≤ halfEven (q / quantum q) := by exact_mod_cast le_halfEven hk
  exact mul_le_mul_of_nonneg_right hint hpos.le

theorem nearest_le_of_grid {q : ℚ} {k : ℤ} (h : q ≤ k * quantum q) :
    nearest q ≤ k * quantum q := by
  have hpos := quantum_pos q
  have hk : q / quantum q ≤ k := (div_le_iff₀ hpos).2 h
  have hint : (halfEven (q / quantum q) : ℚ) ≤ k := by exact_mod_cast halfEven_le hk
  exact mul_le_mul_of_nonneg_right hint hpos.le

/-- The error is at most half a unit in the last place. -/
theorem nearest_error (q : ℚ) : |nearest q - q| ≤ quantum q / 2 := by
  have hpos := quantum_pos q
  have herr := halfEven_error (q / quantum q)
  have hsplit : nearest q - q = (halfEven (q / quantum q) - q / quantum q) * quantum q := by
    unfold nearest
    field_simp
  rw [hsplit, abs_mul, abs_of_pos hpos]
  linarith [mul_le_mul_of_nonneg_right herr hpos.le]

/-- A power of two not below the last place is a value of the grid. -/
theorem exists_mul_quantum {q : ℚ} {m e : ℤ} (h : quantumExponent q ≤ e) :
    ∃ k : ℤ, (m : ℚ) * 2 ^ e = k * quantum q := by
  obtain ⟨d, hd⟩ := Int.le.dest h
  refine ⟨m * 2 ^ d, ?_⟩
  have hsplit : (2 : ℚ) ^ e = 2 ^ d * quantum q := by
    rw [quantum, ← hd, zpow_add₀ (by decide), zpow_natCast, mul_comm]
  rw [hsplit]
  push_cast
  ring

/-- A value of its own grid is not changed by rounding. -/
theorem nearest_of_grid {q : ℚ} {k : ℤ} (h : q = k * quantum q) : nearest q = q := by
  apply le_antisymm
  · have hle := nearest_le_of_grid h.le
    rwa [← h] at hle
  · have hle := le_nearest_of_grid h.ge
    rwa [← h] at hle

theorem quantumExponent_le {q : ℚ} {e : ℤ} (hq : q ≠ 0) (h : |q| < 2 ^ (53 + e))
    (he : -1074 ≤ e) : quantumExponent q ≤ e := by
  have hpos : 0 < |q| := abs_pos.2 hq
  have hlt : |q| < ((2 : ℕ) : ℚ) ^ (53 + e) := by exact_mod_cast h
  have hlog := (Int.lt_zpow_iff_log_lt (by decide) hpos).1 hlt
  exact max_le (by omega) he

/-- A number with at most 53 significant bits and no smaller than the subnormals allow is
    not changed by rounding. -/
theorem nearest_of_lt {m e : ℤ} (hm : |m| < 2 ^ 53) (he : -1074 ≤ e) :
    nearest (m * (2 : ℚ) ^ e) = m * (2 : ℚ) ^ e := by
  rcases eq_or_ne m 0 with rfl | hne
  · have hzero : nearest 0 = 0 := @nearest_of_grid 0 0 (by simp)
    simpa using hzero
  · have hpow : (0 : ℚ) < 2 ^ e := zpow_pos (by decide) e
    have hlt : |m * (2 : ℚ) ^ e| < 2 ^ (53 + e) := by
      have hbound : |(m : ℚ)| < 2 ^ 53 := by exact_mod_cast hm
      rw [abs_mul, abs_of_pos hpow, zpow_add₀ (by decide)]
      exact mul_lt_mul_of_pos_right hbound hpow
    have hexp := quantumExponent_le (mul_ne_zero (by exact_mod_cast hne) hpow.ne') hlt he
    obtain ⟨k, hk⟩ := @exists_mul_quantum _ m e hexp
    exact nearest_of_grid hk

/-- The same with the next power of two. -/
theorem nearest_exact {m : ℕ} {e : ℤ} (hm : m ≤ 2 ^ 53) (he : -1074 ≤ e) :
    nearest (m * (2 : ℚ) ^ e) = m * (2 : ℚ) ^ e := by
  rcases eq_or_lt_of_le hm with rfl | hlt
  · have hpow : ((2 ^ 53 : ℕ) : ℚ) * 2 ^ e = ((1 : ℤ) : ℚ) * 2 ^ (53 + e) := by
      rw [zpow_add₀ (by decide), Int.cast_one, one_mul]
      norm_cast
    rw [hpow]
    exact nearest_of_lt (by decide) (by omega)
  · have hexact := @nearest_of_lt m e (by rw [Nat.abs_cast]; exact_mod_cast hlt) he
    simpa using hexact

/-! ## §3 Monotonicity -/

theorem quantumExponent_mono {p q : ℚ} (hp : 0 < p) (h : p ≤ q) :
    quantumExponent p ≤ quantumExponent q := by
  have hlog : Int.log 2 |p| ≤ Int.log 2 |q| := by
    rw [abs_of_pos hp, abs_of_pos (hp.trans_le h)]
    exact Int.log_mono_right hp h
  unfold quantumExponent
  omega

theorem nearest_nonneg {q : ℚ} (h : 0 ≤ q) : 0 ≤ nearest q := by
  have hle := @le_nearest_of_grid q 0 (by simpa using h)
  simpa using hle

/-- Between two numbers with different grids lies a power of two of both grids. -/
theorem exists_between_grids {p q : ℚ} (hp : 0 < p) (h : p ≤ q)
    (hlt : quantumExponent p < quantumExponent q) :
    ∃ b : ℚ, p ≤ b ∧ b ≤ q ∧
      (∃ k : ℤ, b = k * quantum p) ∧ ∃ k : ℤ, b = k * quantum q := by
  have hq : 0 < q := hp.trans_le h
  have hlog : Int.log 2 p < Int.log 2 q ∧ quantumExponent q = Int.log 2 q - 52 := by
    simp only [quantumExponent, abs_of_pos hp, abs_of_pos hq] at hlt ⊢
    omega
  refine ⟨2 ^ Int.log 2 q, ?_, ?_, ?_, ?_⟩
  · have hupper := @Int.lt_zpow_succ_log_self ℚ _ _ _ _ 2 (by decide) p
    have hstep : (2 : ℚ) ^ (Int.log 2 p + 1) ≤ 2 ^ Int.log 2 q :=
      zpow_le_zpow_right₀ (by decide) (by omega)
    exact (le_of_lt (by exact_mod_cast hupper)).trans hstep
  · exact_mod_cast @Int.zpow_log_le_self ℚ _ _ _ _ 2 q (by decide) hq
  · obtain ⟨k, hk⟩ := @exists_mul_quantum p 1 (Int.log 2 q) (by omega)
    exact ⟨k, by simpa using hk⟩
  · obtain ⟨k, hk⟩ := @exists_mul_quantum q 1 (Int.log 2 q) (by omega)
    exact ⟨k, by simpa using hk⟩

theorem nearest_mono {p q : ℚ} (hp : 0 ≤ p) (h : p ≤ q) : nearest p ≤ nearest q := by
  rcases eq_or_lt_of_le hp with rfl | hp
  · have hzero : nearest 0 = 0 := @nearest_of_grid 0 0 (by simp)
    rw [hzero]
    exact nearest_nonneg h
  · rcases eq_or_lt_of_le (quantumExponent_mono hp h) with heq | hlt
    · have hquantum : quantum p = quantum q := by rw [quantum, heq, quantum]
      have hpos := quantum_pos q
      unfold nearest
      rw [hquantum]
      have hint : (halfEven (p / quantum q) : ℚ) ≤ halfEven (q / quantum q) := by
        exact_mod_cast halfEven_mono ((div_le_div_iff_of_pos_right hpos).2 h)
      exact mul_le_mul_of_nonneg_right hint hpos.le
    · obtain ⟨b, hpb, hbq, ⟨k, hk⟩, l, hl⟩ := exists_between_grids hp h hlt
      calc nearest p ≤ b := by rw [hk] at hpb ⊢; exact nearest_le_of_grid hpb
        _ ≤ nearest q := by rw [hl] at hbq ⊢; exact le_nearest_of_grid hbq

/-- What lies half a unit in the last place below a number lies below the rounded one. -/
theorem lt_nearest {g q : ℚ} {e : ℤ} (hq : 0 < q) (hlt : q < 2 ^ (53 + e)) (he : -1074 ≤ e)
    (h : g + 2 ^ e / 2 < q) : g < nearest q := by
  have hexp := quantumExponent_le hq.ne' (by rwa [abs_of_pos hq]) he
  have hquantum : quantum q ≤ 2 ^ e := zpow_le_zpow_right₀ (by decide) hexp
  have herr := (abs_le.1 (nearest_error q)).1
  linarith

/-! ## §4 Integers -/

theorem nearest_natCast {n : ℕ} (h : n ≤ 2 ^ 53) : nearest n = n := by
  have hexact := @nearest_exact n 0 h (by decide)
  simpa using hexact

/-- Above an exact integer, rounding stays above it. -/
theorem succ_le_nearest {k n : ℕ} (hk : k < 2 ^ 53) (h : k < n) :
    ((k + 1 : ℕ) : ℚ) ≤ nearest n := by
  rw [← nearest_natCast (show k + 1 ≤ 2 ^ 53 from hk)]
  exact nearest_mono (Nat.cast_nonneg _) (by exact_mod_cast h)

/-- Division of an exact integer by a power of two is exact. -/
theorem nearest_div_two_pow {m j : ℕ} (hm : m ≤ 2 ^ 53) (hj : j ≤ 1000) :
    nearest (m / (2 ^ j : ℕ)) = m / (2 ^ j : ℕ) := by
  have hexact := @nearest_exact m (-j) hm (by omega)
  rw [zpow_neg, zpow_natCast, ← div_eq_mul_inv] at hexact
  exact_mod_cast hexact

theorem quantumExponent_natCast {n : ℕ} (h : 52 ≤ n.log2) :
    quantumExponent n = ((n.log2 - 52 : ℕ) : ℤ) := by
  have hlog : Int.log 2 |(n : ℚ)| = (n.log2 : ℤ) := by
    rw [Nat.abs_cast, Int.log_natCast, Nat.log2_eq_log_two]
  unfold quantumExponent
  omega

/-- Half-even rounding of a quotient, read off quotient and remainder. -/
theorem halfEven_natCast_div {n unit : ℕ} (h : 0 < unit) :
    halfEven (n / unit) =
      if unit < 2 * (n % unit) ∨ (unit = 2 * (n % unit) ∧ n / unit % 2 = 1) then
        ((n / unit : ℕ) : ℤ) + 1
      else ((n / unit : ℕ) : ℤ) := by
  have hpos : (0 : ℚ) < unit := by exact_mod_cast h
  have hfloor : ⌊(n : ℚ) / unit⌋ = ((n / unit : ℕ) : ℤ) := by
    rw [Rat.floor_natCast_div_natCast]
    push_cast
    rfl
  have hdiv : (n : ℚ) = unit * (n / unit : ℕ) + (n % unit : ℕ) := by
    exact_mod_cast (Nat.div_add_mod n unit).symm
  have hrest : 2 * ((n : ℚ) / unit - ((n / unit : ℕ) : ℤ)) = (2 * (n % unit) : ℕ) / unit := by
    rw [Int.cast_natCast, eq_div_iff hpos.ne', mul_assoc, sub_mul, div_mul_cancel₀ _ hpos.ne',
      Nat.cast_mul, Nat.cast_ofNat]
    linarith
  have hup : 1 < 2 * ((n : ℚ) / unit - ((n / unit : ℕ) : ℤ)) ↔ unit < 2 * (n % unit) := by
    rw [hrest, one_lt_div hpos, Nat.cast_lt]
  have htie : 2 * ((n : ℚ) / unit - ((n / unit : ℕ) : ℤ)) = 1 ↔ unit = 2 * (n % unit) := by
    rw [hrest, div_eq_one_iff_eq hpos.ne', Nat.cast_inj, eq_comm]
  have hodd : ((n / unit : ℕ) : ℤ) % 2 = 1 ↔ n / unit % 2 = 1 := by omega
  unfold halfEven
  rw [hfloor]
  simp only [hup, htie, hodd]

/-- Rounding in the integers agrees with rounding in the rationals. -/
theorem roundToEven_cast (n : ℕ) : (roundToEven n : ℚ) = nearest n := by
  rcases Nat.lt_or_ge n.log2 52 with hsmall | hlarge
  · have hunit : n.log2 - 52 = 0 := by omega
    have hround : roundToEven n = n := by simp [roundToEven, hunit, Nat.mod_one]
    have hlt : n < 2 ^ 53 := by
      rcases eq_or_ne n 0 with rfl | hne
      · decide
      · exact (Nat.log2_lt hne).1 (by omega)
    rw [hround, nearest_natCast hlt.le]
  · have hquantum : quantum n = ((2 ^ (n.log2 - 52) : ℕ) : ℚ) := by
      rw [quantum, quantumExponent_natCast hlarge, zpow_natCast]
      push_cast
      rfl
    have hpos : 0 < 2 ^ (n.log2 - 52) := Nat.two_pow_pos _
    unfold nearest
    rw [hquantum]
    unfold roundToEven
    generalize 2 ^ (n.log2 - 52) = unit at hpos
    rw [halfEven_natCast_div hpos]
    have hlower : n - n % unit = unit * (n / unit) := by
      have hdiv := Nat.div_add_mod n unit
      omega
    dsimp only
    rw [hlower]
    generalize n / unit = lower
    split_ifs
    · push_cast
      ring
    · push_cast
      ring

/-! ## §5 Operations with positive constants -/

/-- The binary64 value next to a rational number. -/
def ofRat (q : ℚ) : F64 :=
  if |nearest q| < 2 ^ 1024 then .finite (nearest q) else if q < 0 then .negInf else .posInf

/-- The quotient by a positive constant that is itself a binary64 value. -/
def div : F64 → ℕ → F64
  | .finite q, c => ofRat (q / c)
  | a, _ => a

/-- The product with a positive constant that is itself a binary64 value. -/
def mul : F64 → ℕ → F64
  | .finite q, c => ofRat (q * c)
  | a, _ => a

theorem nearest_le_of_le {q : ℚ} (h : 0 ≤ q) (hle : q ≤ 2 ^ 200) : nearest q ≤ 2 ^ 200 := by
  have hpow : nearest (2 ^ 200) = 2 ^ 200 := by
    have hexact := @nearest_exact 1 200 (by decide) (by decide)
    have hcast : (2 : ℚ) ^ (200 : ℤ) = 2 ^ 200 := by exact_mod_cast rfl
    simpa [hcast] using hexact
  rw [← hpow]
  exact nearest_mono h hle

/-- A number far from the overflow bound has a finite value next to it. -/
theorem ofRat_of_le {q : ℚ} (h : 0 ≤ q) (hle : q ≤ 2 ^ 200) : ofRat q = .finite (nearest q) := by
  have hlt : (2 : ℚ) ^ 200 < 2 ^ 1024 := pow_lt_pow_right₀ (by decide) (by decide)
  rw [ofRat, if_pos]
  rw [abs_of_nonneg (nearest_nonneg h)]
  exact (nearest_le_of_le h hle).trans_lt hlt

theorem ofU64_eq (n : UInt64) : ofU64 n = .finite (nearest n.toNat) := by
  rw [ofU64, roundToEven_cast]

theorem div_le_of_le {q : ℚ} {c : ℕ} (h : 0 ≤ q) (hle : q ≤ 2 ^ 200) (hc : 0 < c) :
    q / c ≤ 2 ^ 200 :=
  (div_le_self h (by exact_mod_cast hc)).trans hle

theorem div_finite {q : ℚ} {c : ℕ} (h : 0 ≤ q) (hle : q ≤ 2 ^ 200) (hc : 0 < c) :
    (finite q).div c = .finite (nearest (q / c)) := by
  exact ofRat_of_le (div_nonneg h (Nat.cast_nonneg c)) (div_le_of_le h hle hc)

theorem natCast_le_of_lt (n : UInt64) : (n.toNat : ℚ) ≤ 2 ^ 200 := by
  have hlt : (n.toNat : ℚ) < 2 ^ 64 := by exact_mod_cast n.toNat_lt
  have hpow : (2 : ℚ) ^ 64 ≤ 2 ^ 200 := pow_le_pow_right₀ (by decide) (by decide)
  exact hlt.le.trans hpow

/-- A quotient of a 64-bit integer, rounded twice. -/
theorem ofU64_div (n : UInt64) {c : ℕ} (hc : 0 < c) :
    (ofU64 n).div c = .finite (nearest (nearest n.toNat / c)) := by
  have hnonneg : (0 : ℚ) ≤ n.toNat := Nat.cast_nonneg _
  have hle := natCast_le_of_lt n
  rw [ofU64_eq, div_finite (nearest_nonneg hnonneg) (nearest_le_of_le hnonneg hle) hc]

/-- The same with a second division. -/
theorem ofU64_div_div (n : UInt64) {c d : ℕ} (hc : 0 < c) (hd : 0 < d) :
    ((ofU64 n).div c).div d = .finite (nearest (nearest (nearest n.toNat / c) / d)) := by
  have hnonneg : (0 : ℚ) ≤ nearest n.toNat := nearest_nonneg (Nat.cast_nonneg _)
  have hle := nearest_le_of_le (Nat.cast_nonneg _) (natCast_le_of_lt n)
  have hquot : 0 ≤ nearest n.toNat / c := div_nonneg hnonneg (Nat.cast_nonneg c)
  rw [ofU64_div n hc, div_finite (nearest_nonneg hquot) _ hd]
  exact nearest_le_of_le hquot (div_le_of_le hnonneg hle hc)

/-! ## §6 Operations between values -/

/-- IEEE addition. -/
protected def add : F64 → F64 → F64
  | .nan, _ | _, .nan => .nan
  | .posInf, .negInf | .negInf, .posInf => .nan
  | .posInf, _ | _, .posInf => .posInf
  | .negInf, _ | _, .negInf => .negInf
  | .finite p, .finite q => ofRat (p + q)

/-- The negative. -/
protected def neg : F64 → F64
  | .nan => .nan
  | .negInf => .posInf
  | .finite q => .finite (-q)
  | .posInf => .negInf

/-- IEEE subtraction. -/
protected def sub (a b : F64) : F64 := a.add b.neg

/-- The square root, rounded to 53 significant bits. The root of a binary64 value is never half way
    between two others. -/
def sqrt : F64 → F64
  | .nan | .negInf => .nan
  | .posInf => .posInf
  | .finite q =>
    if q < 0 then .nan
    else
      let unit : ℚ := 2 ^ (Int.log 2 q / 2 - 52)
      let square := q / unit ^ 2
      let root := Nat.sqrt ⌊square⌋₊
      .finite ((if square ≤ (root + 1 / 2) ^ 2 then root else root + 1) * unit)

/-- `f64::max`: what is not a number gives way. -/
protected def max (a b : F64) : F64 :=
  if a = .nan then b else if b = .nan then a else if a.le b then b else a

/-- `f64::min`. -/
protected def min (a b : F64) : F64 :=
  if a = .nan then b else if b = .nan then a else if a.le b then a else b

/-- The sign of a number, 0 for what is not a number. -/
def sign : F64 → ℤ
  | .nan => 0
  | .negInf => -1
  | .finite q => if q < 0 then -1 else if q = 0 then 0 else 1
  | .posInf => 1

/-- An infinity with a sign, nothing without one. -/
def infinite (sign : ℤ) : F64 :=
  if sign = 0 then .nan else if sign < 0 then .negInf else .posInf

/-- IEEE multiplication. -/
def times : F64 → F64 → F64
  | .nan, _ | _, .nan => .nan
  | .finite p, .finite q => ofRat (p * q)
  | a, b => infinite (a.sign * b.sign)

/-- IEEE division; a zero divisor is the positive zero. -/
def quotient : F64 → F64 → F64
  | .nan, _ | _, .nan => .nan
  | .finite p, .finite q => if q = 0 then infinite (F64.finite p).sign else ofRat (p / q)
  | .finite _, _ => .finite 0
  | a, .finite q => infinite (a.sign * if q < 0 then -1 else 1)
  | _, _ => .nan

/-- A number with two decimals, ties to the even digit. -/
def fixedTwo : F64 → String
  | .nan => "NaN"
  | .negInf => "-inf"
  | .posInf => "inf"
  | .finite q =>
    let hundredths := (halfEven (|q| * 100)).toNat
    (if q < 0 then "-" else "") ++ toString (hundredths / 100) ++ "." ++
      toString (hundredths / 10 % 10) ++ toString (hundredths % 10)

end F64

end MachineNumbers
