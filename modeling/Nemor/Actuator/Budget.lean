import Nemor.Common.Config

/-!
# Actuator: memory budgets

The protection of a foreground group (`memory.low`) and the ceiling of a background group
(`memory.high`) are percentages of the RAM, clamped between configured bounds. A clamp whose
bounds are the wrong way round panics: it is the validation of the configuration that orders
them.
-/

namespace Nemor.Actuator

open MachineNumbers U64 Common

/-! ## §1 The budgets -/

/-- A percentage of a total. -/
def percent (total : UInt64) (value : UInt8) : UInt64 :=
  saturatingMul total value.toUInt64 / 100

/-- `none` is the panic of the clamp. -/
def memoryLowBytes (totalRam workload : UInt64) (config : CgroupsConfig) : Option UInt64 :=
  let min := percent totalRam config.foregroundMinPercent
  let max := percent totalRam config.foregroundMaxPercent
  let headroom := percent totalRam config.minimumHeadroomPercent
  clamp (saturatingAdd workload headroom) min max

/-- `none` is the panic of the clamp. -/
def memoryHighBytes (totalRam protectedLow : UInt64) (config : CgroupsConfig) : Option UInt64 :=
  let min := percent totalRam config.backgroundHighMinPercent
  let max := percent totalRam config.backgroundHighMaxPercent
  let headroom := percent totalRam config.minimumHeadroomPercent
  clamp (saturatingSub (saturatingSub totalRam protectedLow) headroom) min max

/-! ## §2 Percentages -/

/-- The whole bytes in a percentage of the RAM. -/
def exactPercent (total : UInt64) (value : UInt8) : ℕ := total.toNat * value.toNat / 100

theorem toNat_percent (total : UInt64) (value : UInt8) :
    (percent total value).toNat = min (total.toNat * value.toNat) (2 ^ 64 - 1) / 100 := by
  simp [percent]

/-- The saturating product only makes a percentage smaller. -/
theorem percent_le_exact (total : UInt64) (value : UInt8) :
    (percent total value).toNat ≤ exactPercent total value := by
  rw [toNat_percent, exactPercent]
  omega

/-- A product that fits makes it exact. -/
theorem percent_eq_exact {total : UInt64} {value : UInt8}
    (h : total.toNat * value.toNat < 2 ^ 64) :
    (percent total value).toNat = exactPercent total value := by
  rw [toNat_percent, exactPercent, Nat.min_eq_left (by omega)]

theorem percent_mono (total : UInt64) {value value' : UInt8} (h : value ≤ value') :
    (percent total value).toNat ≤ (percent total value').toNat := by
  have hmul : total.toNat * value.toNat ≤ total.toNat * value'.toNat :=
    Nat.mul_le_mul_left _ (UInt8.le_iff_toNat_le.1 h)
  rw [toNat_percent, toNat_percent]
  omega

/-- Shares that add up to at most a hundred percent fit into the RAM. -/
theorem exactPercent_add_le (total : UInt64) {value value' : UInt8}
    (h : value.toNat + value'.toNat ≤ 100) :
    exactPercent total value + exactPercent total value' ≤ total.toNat := by
  have hmul : total.toNat * value.toNat + total.toNat * value'.toNat ≤ total.toNat * 100 := by
    rw [← Nat.mul_add]
    exact Nat.mul_le_mul_left _ h
  unfold exactPercent
  omega

/-! ## §3 Soundness of the budgets -/

/-- What the two budgets of a machine with `total` bytes are to satisfy. -/
structure SoundBudget (config : CgroupsConfig) (total : UInt64) (low high : UInt64 → UInt64) :
    Prop where
  low_returns : ∀ workload, memoryLowBytes total workload config = some (low workload)
  high_returns : ∀ protectedLow, memoryHighBytes total protectedLow config =
    some (high protectedLow)
  low_ge_min : ∀ workload, percent total config.foregroundMinPercent ≤ low workload
  low_ge_exactMin : total.toNat * config.foregroundMinPercent.toNat < 2 ^ 64 →
    ∀ workload, exactPercent total config.foregroundMinPercent ≤ (low workload).toNat
  low_le_max : ∀ workload, low workload ≤ percent total config.foregroundMaxPercent
  low_le_exactMax : ∀ workload,
    (low workload).toNat ≤ exactPercent total config.foregroundMaxPercent
  low_headroom : ∀ workload,
    (low workload).toNat + exactPercent total config.minimumHeadroomPercent ≤ total.toNat
  low_mono : ∀ workload workload', workload ≤ workload' → low workload ≤ low workload'
  high_antitone : ∀ protectedLow protectedLow', protectedLow ≤ protectedLow' →
    high protectedLow' ≤ high protectedLow
  fits : ∀ workload, high (low workload) = percent total config.backgroundHighMinPercent ∨
    (low workload).toNat + (high (low workload)).toNat +
      (percent total config.minimumHeadroomPercent).toNat ≤ total.toNat

section Ordered

variable {config : CgroupsConfig} (h : config.Ordered) (total : UInt64)
include h

/-- The ordered bounds let the clamp of `memory.low` return. -/
theorem memoryLowBytes_eq (workload : UInt64) :
    ∃ low, memoryLowBytes total workload config = some low ∧
      low.toNat = max (percent total config.foregroundMinPercent).toNat
        (min (saturatingAdd workload (percent total config.minimumHeadroomPercent)).toNat
          (percent total config.foregroundMaxPercent).toNat) :=
  clamp_of_le _ (percent_mono total h.foreground)

/-- The ordered bounds let the clamp of `memory.high` return. -/
theorem memoryHighBytes_eq (protectedLow : UInt64) :
    ∃ high, memoryHighBytes total protectedLow config = some high ∧
      high.toNat = max (percent total config.backgroundHighMinPercent).toNat
        (min (total.toNat - protectedLow.toNat -
            (percent total config.minimumHeadroomPercent).toNat)
          (percent total config.backgroundHighMaxPercent).toNat) := by
  obtain ⟨high, hhigh, htoNat⟩ := clamp_of_le
    (saturatingSub (saturatingSub total protectedLow)
      (percent total config.minimumHeadroomPercent)) (percent_mono total h.background)
  exact ⟨high, hhigh, by simpa using htoNat⟩

theorem soundBudget_of_ordered : ∃ low high, SoundBudget config total low high := by
  choose low hlow hlow_eq using memoryLowBytes_eq h total
  choose high hhigh hhigh_eq using memoryHighBytes_eq h total
  have hmin_le := percent_mono total h.foreground
  have hlow_le : ∀ workload,
      (low workload).toNat ≤ (percent total config.foregroundMaxPercent).toNat := by
    intro workload
    rw [hlow_eq]
    omega
  have hlow_exact : ∀ workload,
      (low workload).toNat ≤ exactPercent total config.foregroundMaxPercent :=
    fun workload => (hlow_le workload).trans (percent_le_exact _ _)
  refine ⟨low, high, ⟨hlow, hhigh, ?_, ?_, ?_, hlow_exact, ?_, ?_, ?_, ?_⟩⟩
  · intro workload
    rw [UInt64.le_iff_toNat_le, hlow_eq]
    exact Nat.le_max_left _ _
  · intro hfits workload
    rw [← percent_eq_exact hfits, hlow_eq]
    exact Nat.le_max_left _ _
  · intro workload
    exact UInt64.le_iff_toNat_le.2 (hlow_le workload)
  · intro workload
    have hshares := exactPercent_add_le total h.headroom
    have hle := hlow_exact workload
    omega
  · intro workload workload' hle
    rw [UInt64.le_iff_toNat_le] at hle ⊢
    rw [hlow_eq, hlow_eq, toNat_saturatingAdd, toNat_saturatingAdd]
    omega
  · intro protectedLow protectedLow' hle
    rw [UInt64.le_iff_toNat_le] at hle ⊢
    rw [hhigh_eq, hhigh_eq]
    omega
  · intro workload
    rw [← UInt64.toNat_inj, hhigh_eq]
    -- above its floor the ceiling is at most what the low and the headroom leave
    omega

end Ordered

/-- **The budgets are sound** under every accepted configuration, for every machine, workload
    and protected amount. -/
theorem memoryBudget_sound {config : Config} (h : config.validate = .ok ()) (total : UInt64) :
    ∃ low high, SoundBudget config.cgroups total low high :=
  soundBudget_of_ordered (Config.validate_cgroups h) total

/-- The shipped configuration on a machine of 32 GiB. -/
theorem memoryBudget_sound_shipped :
    shippedConfig.validate = .ok () ∧
    ∃ low high, SoundBudget shippedConfig.cgroups 34359738368 low high :=
  ⟨validate_shippedConfig, memoryBudget_sound validate_shippedConfig _⟩

/-- On the largest machine the products saturate: the least protection is one percent of the
    RAM where five are configured. -/
theorem memoryLow_below_minimum :
    shippedConfig.validate = .ok () ∧
    ∃ low, memoryLowBytes 0xFFFFFFFFFFFFFFFF 0 shippedConfig.cgroups = some low ∧
      low.toNat < exactPercent 0xFFFFFFFFFFFFFFFF shippedConfig.cgroups.foregroundMinPercent :=
  ⟨validate_shippedConfig, _, rfl, by decide +kernel⟩

end Nemor.Actuator
