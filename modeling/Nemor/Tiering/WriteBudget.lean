import Mathlib.Data.List.Forall2
import Nemor.Lib.Binary64

/-!
# Tiering: the write budget

`WriteBudget.evaluate` adds up the bytes written inside four windows that end now and compares
three of the sums, as binary64 rates, with the limits of the budget: one of MiB per second,
which bounds the last second and the last minute, and one of GiB per day.

A sample dated after the evaluation time has age zero and lies inside every window.
-/

namespace Nemor.Tiering

open MachineNumbers

/-- Bytes that were written, and whether it is known by whom. -/
structure WriteSample where
  timestampNs : UInt64
  bytes : UInt64
  attributable : Bool
  deriving DecidableEq

/-- How much may be written. -/
structure WriteBudget where
  maxMibPerSecond : UInt64
  dailyBudgetGib : UInt64

/-- Whether more may be written, with the figures. -/
structure BudgetDecision where
  allowed : Bool
  instantaneousMibPerSecond : F64
  rollingMinuteMibPerSecond : F64
  rollingHourGib : F64
  dailyGib : F64
  annualTb : F64
  reasons : List String
  deriving DecidableEq

/-! ## §1 The sums of the windows -/

/-- Whether a sample is at most as old as the window. -/
def insideWindow (nowNs windowNs : UInt64) (sample : WriteSample) : Bool :=
  U64.saturatingSub nowNs sample.timestampNs ≤ windowNs

/-- The bytes of the samples in a window, saturating. -/
def windowBytes (samples : List WriteSample) (nowNs windowNs : UInt64) : UInt64 :=
  ((samples.filter (insideWindow nowNs windowNs)).map WriteSample.bytes).foldl
    U64.saturatingAdd 0

/-- The bytes of the samples that are no older than the window, as one exact number. -/
def exactBytes (samples : List WriteSample) (nowNs windowNs : UInt64) : ℕ :=
  ((samples.filter fun sample => nowNs.toNat ≤ sample.timestampNs.toNat + windowNs.toNat).map
    fun sample => sample.bytes.toNat).sum

theorem insideWindow_eq (nowNs windowNs : UInt64) (sample : WriteSample) :
    insideWindow nowNs windowNs sample =
      decide (nowNs.toNat ≤ sample.timestampNs.toNat + windowNs.toNat) := by
  simp only [insideWindow, UInt64.le_iff_toNat_le, U64.toNat_saturatingSub, decide_eq_decide]
  omega

theorem toNat_windowBytes (samples : List WriteSample) (nowNs windowNs : UInt64) :
    (windowBytes samples nowNs windowNs).toNat =
      min (exactBytes samples nowNs windowNs) (2 ^ 64 - 1) := by
  simp [windowBytes, exactBytes, U64.toNat_foldl_saturatingAdd, Function.comp_def,
    funext (insideWindow_eq nowNs windowNs)]

/-! ## §2 The decision -/

/-- A second, in nanoseconds. -/
def second : UInt64 := 1000000000
/-- A minute, in nanoseconds. -/
def minute : UInt64 := 60000000000
/-- An hour, in nanoseconds. -/
def hour : UInt64 := 3600000000000
/-- A day, in nanoseconds. -/
def day : UInt64 := 86400000000000

/-- A mebibyte. -/
def mib : ℕ := 1048576
/-- A gibibyte. -/
def gib : ℕ := 1073741824

/-- A reason, if the rate is above the limit. -/
def exceeded (rate : F64) (limit : UInt64) (reason : String) : List String :=
  if (F64.ofU64 limit).lt rate then [reason] else []

/-- `WriteBudget::evaluate`. The rolling hour is reported and limits nothing. -/
def WriteBudget.evaluate (budget : WriteBudget) (samples : List WriteSample) (nowNs : UInt64) :
    BudgetDecision :=
  let bytes := windowBytes samples nowNs
  let instantaneous := (F64.ofU64 (bytes second)).div mib
  let rollingMinute := ((F64.ofU64 (bytes minute)).div mib).div 60
  let rollingHour := (F64.ofU64 (bytes hour)).div gib
  let daily := (F64.ofU64 (bytes day)).div gib
  let annualTb := ((F64.ofU64 (bytes day)).mul 365).div 1000000000000
  let reasons :=
    exceeded instantaneous budget.maxMibPerSecond "instantaneous_write_budget_exceeded" ++
    exceeded rollingMinute budget.maxMibPerSecond "rolling_minute_write_budget_exceeded" ++
    exceeded daily budget.dailyBudgetGib "daily_write_budget_exceeded"
  { allowed := reasons.isEmpty
    instantaneousMibPerSecond := instantaneous
    rollingMinuteMibPerSecond := rollingMinute
    rollingHourGib := rollingHour
    dailyGib := daily
    annualTb := annualTb
    reasons := reasons }

/-! ## §3 Rates and limits -/

open F64 (nearest)

@[simp] theorem exceeded_eq_nil (rate : ℚ) (limit : UInt64) (reason : String) :
    exceeded (.finite rate) limit reason = [] ↔ rate ≤ nearest limit.toNat := by
  simp [exceeded, F64.ofU64_eq, F64.lt]

/-- The rates, rounded at every step, are at most the rounded limits. -/
def WriteBudget.WithinRounded (budget : WriteBudget) (samples : List WriteSample)
    (nowNs : UInt64) : Prop :=
  nearest (nearest (windowBytes samples nowNs second).toNat / mib) ≤
    nearest budget.maxMibPerSecond.toNat ∧
  nearest (nearest (nearest (windowBytes samples nowNs minute).toNat / mib) / (60 : ℕ)) ≤
    nearest budget.maxMibPerSecond.toNat ∧
  nearest (nearest (windowBytes samples nowNs day).toNat / gib) ≤
    nearest budget.dailyBudgetGib.toNat

theorem WriteBudget.evaluate_allowed (budget : WriteBudget) (samples : List WriteSample)
    (nowNs : UInt64) :
    (budget.evaluate samples nowNs).allowed = true ↔ budget.WithinRounded samples nowNs := by
  have hmib : 0 < mib := by decide
  have hgib : 0 < gib := by decide
  have hsixty : 0 < 60 := by decide
  simp only [evaluate, List.isEmpty_iff, List.append_eq_nil_iff, and_assoc]
  rw [F64.ofU64_div_div _ hmib hsixty]
  simp only [F64.ofU64_div _ hmib, F64.ofU64_div _ hgib, exceeded_eq_nil, WithinRounded]

/-- A quotient by a power of two exceeds a small limit exactly when the dividend does. -/
theorem nearest_div_le {n limit j : ℕ} (hj : j ≤ 1000) (h : 2 ^ j * limit < 2 ^ 53) :
    nearest (nearest n / (2 ^ j : ℕ)) ≤ nearest limit ↔ n ≤ 2 ^ j * limit := by
  have hpow : (0 : ℚ) < (2 ^ j : ℕ) := by exact_mod_cast Nat.two_pow_pos j
  have hlimit : limit ≤ 2 ^ 53 := by
    have hle := Nat.le_mul_of_pos_left limit (Nat.two_pow_pos j)
    omega
  constructor
  · intro hle
    by_contra hover
    -- the quotient of the next dividend after the bound is represented, and too large
    have hround := F64.succ_le_nearest h (not_le.1 hover)
    have hquot : ((2 ^ j * limit + 1 : ℕ) : ℚ) / (2 ^ j : ℕ) ≤ limit :=
      calc ((2 ^ j * limit + 1 : ℕ) : ℚ) / (2 ^ j : ℕ)
          = nearest ((2 ^ j * limit + 1 : ℕ) / (2 ^ j : ℕ)) :=
            (F64.nearest_div_two_pow h hj).symm
        _ ≤ nearest (nearest n / (2 ^ j : ℕ)) :=
            F64.nearest_mono (div_nonneg (Nat.cast_nonneg _) hpow.le)
              ((div_le_div_iff_of_pos_right hpow).2 hround)
        _ ≤ nearest limit := hle
        _ = limit := F64.nearest_natCast hlimit
    rw [div_le_iff₀ hpow] at hquot
    have hnat : 2 ^ j * limit + 1 ≤ limit * 2 ^ j := by exact_mod_cast hquot
    rw [Nat.mul_comm] at hnat
    omega
  · intro hle
    have hquot : (n : ℚ) / (2 ^ j : ℕ) ≤ limit := by
      rw [div_le_iff₀ hpow, mul_comm]
      exact_mod_cast hle
    rw [F64.nearest_natCast (show n ≤ 2 ^ 53 by omega)]
    exact F64.nearest_mono (div_nonneg (Nat.cast_nonneg _) hpow.le) hquot

/-- The rate of a minute, which takes a second division, exceeds a small limit exactly when
    the bytes do. -/
theorem nearest_div_div_le {n limit : ℕ} (h : 60 * mib * limit < 2 ^ 53) :
    nearest (nearest (nearest n / mib) / (60 : ℕ)) ≤ nearest limit ↔
      n ≤ 60 * mib * limit := by
  have hmib : (mib : ℚ) = 1048576 := by norm_num [mib]
  have hpow : mib = 2 ^ 20 := rfl
  have hexact : ∀ {m : ℕ}, m ≤ 2 ^ 53 → nearest (m / mib) = m / mib := fun hm => by
    rw [hpow]
    exact F64.nearest_div_two_pow hm (by decide)
  have hlimit : limit < 2 ^ 28 := by
    have hvalue : 60 * mib = 62914560 := rfl
    rw [hvalue] at h
    omega
  constructor
  · intro hle
    by_contra hover
    have hround := F64.succ_le_nearest h (not_le.1 hover)
    have hfirst : ((60 * mib * limit + 1 : ℕ) : ℚ) / mib ≤ nearest (nearest n / mib) := by
      rw [← hexact h]
      exact F64.nearest_mono (by positivity) (by rw [hmib]; linarith)
    -- the quotient lies further above the limit than rounding can move it
    have habove : (limit : ℚ) < nearest (((60 * mib * limit + 1 : ℕ) : ℚ) / mib / (60 : ℕ)) := by
      have hvalue : ((60 * mib * limit + 1 : ℕ) : ℚ) / mib / (60 : ℕ) = limit + 1 / 62914560 := by
        push_cast
        rw [hmib]
        ring
      have hsmall : (limit : ℚ) + 1 ≤ 2 ^ 28 := by exact_mod_cast hlimit
      rw [hvalue]
      refine F64.lt_nearest (e := -25) (by positivity) ?_ (by decide) ?_
      · norm_num at hsmall ⊢
        linarith
      · norm_num
    have hmono : nearest (((60 * mib * limit + 1 : ℕ) : ℚ) / mib / (60 : ℕ)) ≤
        nearest (nearest (nearest n / mib) / (60 : ℕ)) :=
      F64.nearest_mono (by positivity) (by push_cast at hfirst ⊢; linarith)
    rw [F64.nearest_natCast (show limit ≤ 2 ^ 53 by omega)] at hle
    exact absurd (habove.trans_le (hmono.trans hle)) (lt_irrefl _)
  · intro hle
    have hquot : (n : ℚ) / mib / (60 : ℕ) ≤ limit := by
      have hcast : (n : ℚ) ≤ 60 * mib * limit := by exact_mod_cast hle
      rw [hmib] at hcast ⊢
      push_cast
      linarith
    have hn : n ≤ 2 ^ 53 := by omega
    rw [F64.nearest_natCast hn, hexact hn]
    exact F64.nearest_mono (by positivity) hquot

/-! ## §4 Growing lists of samples -/

/-- A sample of the same time with no fewer bytes. -/
def WriteSample.NoSmaller (sample grown : WriteSample) : Prop :=
  sample.timestampNs = grown.timestampNs ∧ sample.bytes ≤ grown.bytes

variable {samples grown : List WriteSample}

theorem exactBytes_mono (h : List.SublistForall₂ WriteSample.NoSmaller samples grown)
    (nowNs windowNs : UInt64) :
    exactBytes samples nowNs windowNs ≤ exactBytes grown nowNs windowNs := by
  induction h with
  | nil => simp [exactBytes]
  | @cons sample larger samples grown hgrown _ ih =>
    obtain ⟨htime, hbytes⟩ := hgrown
    have hnat := UInt64.le_iff_toNat_le.1 hbytes
    simp only [exactBytes, List.filter_cons, htime] at ih ⊢
    split
    · simp only [List.map_cons, List.sum_cons]
      omega
    · exact ih
  | @cons_right added samples grown _ ih =>
    simp only [exactBytes, List.filter_cons] at ih ⊢
    split
    · simp only [List.map_cons, List.sum_cons]
      omega
    · exact ih

theorem windowBytes_mono (h : List.SublistForall₂ WriteSample.NoSmaller samples grown)
    (nowNs windowNs : UInt64) :
    (windowBytes samples nowNs windowNs).toNat ≤ (windowBytes grown nowNs windowNs).toNat := by
  have hexact := exactBytes_mono h nowNs windowNs
  simp only [toNat_windowBytes]
  omega

theorem nearest_quotient_mono {p q : ℚ} (c : ℕ) (hp : 0 ≤ p) (h : p ≤ q) :
    nearest (p / c) ≤ nearest (q / c) :=
  F64.nearest_mono (div_nonneg hp (Nat.cast_nonneg c))
    (div_le_div_of_nonneg_right h (Nat.cast_nonneg c))

/-- More bytes are not allowed where fewer were not. -/
theorem WriteBudget.allowed_of_grown {budget : WriteBudget} {nowNs : UInt64}
    (h : List.SublistForall₂ WriteSample.NoSmaller samples grown)
    (hallowed : (budget.evaluate grown nowNs).allowed = true) :
    (budget.evaluate samples nowNs).allowed = true := by
  have hround : ∀ windowNs, nearest (windowBytes samples nowNs windowNs).toNat ≤
      nearest (windowBytes grown nowNs windowNs).toNat := fun windowNs =>
    F64.nearest_mono (Nat.cast_nonneg _) (by exact_mod_cast windowBytes_mono h nowNs windowNs)
  have hnonneg : ∀ windowNs, 0 ≤ nearest (windowBytes samples nowNs windowNs).toNat :=
    fun windowNs => F64.nearest_nonneg (Nat.cast_nonneg _)
  obtain ⟨hsecond, hminute, hday⟩ := (evaluate_allowed budget grown nowNs).1 hallowed
  have hrate := nearest_quotient_mono mib (hnonneg minute) (hround minute)
  have hrateNonneg := F64.nearest_nonneg (div_nonneg (hnonneg minute) (Nat.cast_nonneg mib))
  rw [evaluate_allowed]
  constructor
  · exact (nearest_quotient_mono mib (hnonneg second) (hround second)).trans hsecond
  constructor
  · exact (nearest_quotient_mono 60 hrateNonneg hrate).trans hminute
  · exact (nearest_quotient_mono gib (hnonneg day) (hround day)).trans hday

/-! ## §5 Soundness of the budget -/

/-- The bytes inside the windows are within the limits. -/
def WriteBudget.Within (budget : WriteBudget) (samples : List WriteSample) (nowNs : UInt64) :
    Prop :=
  exactBytes samples nowNs second ≤ mib * budget.maxMibPerSecond.toNat ∧
  exactBytes samples nowNs minute ≤ 60 * mib * budget.maxMibPerSecond.toNat ∧
  exactBytes samples nowNs day ≤ gib * budget.dailyBudgetGib.toNat

instance (budget : WriteBudget) (samples : List WriteSample) (nowNs : UInt64) :
    Decidable (budget.Within samples nowNs) :=
  inferInstanceAs (Decidable (_ ∧ _ ∧ _))

/-- The decision of a budget whose limits are binary64 integers as byte counts is the exact
    one. -/
theorem WriteBudget.allowed_iff_within {budget : WriteBudget}
    (hmax : 60 * mib * budget.maxMibPerSecond.toNat < 2 ^ 53)
    (hdaily : gib * budget.dailyBudgetGib.toNat < 2 ^ 53) (samples : List WriteSample)
    (nowNs : UInt64) :
    (budget.evaluate samples nowNs).allowed = true ↔ budget.Within samples nowNs := by
  have hmib : mib = 2 ^ 20 := rfl
  have hgib : gib = 2 ^ 30 := rfl
  have hsecond : 2 ^ 20 * budget.maxMibPerSecond.toNat < 2 ^ 53 := by
    rw [hmib] at hmax
    omega
  have hexact : ∀ {windowNs limit}, limit < 2 ^ 53 →
      ((windowBytes samples nowNs windowNs).toNat ≤ limit ↔
        exactBytes samples nowNs windowNs ≤ limit) := fun hlimit => by
    rw [toNat_windowBytes]
    omega
  rw [evaluate_allowed, WithinRounded, nearest_div_div_le hmax, hexact hmax]
  rw [hgib] at hdaily
  rw [hmib, hgib, nearest_div_le (by decide) hsecond, nearest_div_le (by decide) hdaily,
    hexact hsecond, hexact hdaily]
  rfl

/-- The decision compares rounded rates. For small limits it is the exact comparison of the
    bytes inside the windows, and whatever the limits, a refused list of samples stays refused
    when it grows. -/
theorem WriteBudget.evaluate_sound (budget : WriteBudget) (samples : List WriteSample)
    (nowNs : UInt64) :
    ((budget.evaluate samples nowNs).allowed = true ↔ budget.WithinRounded samples nowNs) ∧
    (60 * mib * budget.maxMibPerSecond.toNat < 2 ^ 53 ∧
        gib * budget.dailyBudgetGib.toNat < 2 ^ 53 →
      ((budget.evaluate samples nowNs).allowed = true ↔ budget.Within samples nowNs)) ∧
    ∀ grown, List.SublistForall₂ WriteSample.NoSmaller samples grown →
      (budget.evaluate samples nowNs).allowed = false →
      (budget.evaluate grown nowNs).allowed = false := by
  refine ⟨evaluate_allowed budget samples nowNs, ?_, ?_⟩
  · rintro ⟨hmax, hdaily⟩
    exact allowed_iff_within hmax hdaily samples nowNs
  · intro grown hgrown hrefused
    by_contra hallowed
    rw [Bool.not_eq_false] at hallowed
    rw [allowed_of_grown hgrown hallowed] at hrefused
    contradiction

/-- Two limits of the exact reading: a sample dated after the evaluation time counts although
    it lies inside no window, and a day of `2^53 + 1` bytes rounds down to its limit. -/
theorem WriteBudget.futureSample_refused :
    ¬ (((⟨1, 1⟩ : WriteBudget).evaluate [⟨1000, 2097152, true⟩] 0).allowed = true ↔
        (⟨1, 1⟩ : WriteBudget).Within
          ([⟨1000, 2097152, true⟩].filter fun sample => sample.timestampNs ≤ 0) 0) ∧
    ¬ (((⟨1, 8388608⟩ : WriteBudget).evaluate [⟨0, 9007199254740993, true⟩]
          120000000000).allowed = true ↔
        (⟨1, 8388608⟩ : WriteBudget).Within
          ([⟨0, 9007199254740993, true⟩].filter fun sample => sample.timestampNs ≤ 120000000000)
          120000000000) := by
  decide +kernel

end Nemor.Tiering
