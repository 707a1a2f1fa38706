import Nemor.Lib.Fallible
import Nemor.Lib.UnixPath
import Nemor.Policy.Input

/-!
# Configuration and its validation

`Config.validate` is the check every configuration passes before any part of the daemon sees
it. The sections hold the fields that it reads, and it is split along them, in the order in
which it goes through them.
-/

namespace Nemor.Common

open MachineNumbers Fallible UnixPath

/-! ## §1 Sections -/

/-- The section `general`. -/
structure GeneralConfig where
  mode : String
  sampleIntervalMs : UInt64
  databasePath : PathBuf
  allowAutomaticActions : Bool

/-- The section `cgroups`: shares of memory, and what may be touched. -/
structure CgroupsConfig where
  foregroundMinPercent : UInt8
  foregroundMaxPercent : UInt8
  backgroundHighMinPercent : UInt8
  backgroundHighMaxPercent : UInt8
  minimumHeadroomPercent : UInt8
  allowedIdentities : List String

/-- The section `telemetry`: intervals, budgets and retention. -/
structure TelemetryConfig where
  processSampleIntervalMs : UInt64
  smapsRollupIntervalMs : UInt64
  smapsRollupBudget : UInt64
  retentionDays : UInt64
  retentionIntervalMs : UInt64
  sqliteBatchSize : UInt64

/-- The section `classification`. -/
structure ClassificationConfig where
  intervalMs : UInt64
  minimumConfidence : F64
  confirmationSamples : UInt32
  browserHeavyProcessCount : UInt64
  browserHeavyMemoryPercent : F64
  virtualizationMemoryPercent : F64
  gamingBackgroundMemoryPercent : F64
  protectedExecutables : List String
  criticalExecutables : List String
  gameExecutables : List String

/-- The section `safety`: bounds that other sections have to keep. -/
structure SafetyConfig where
  maxCpuOverheadPercent : F64
  maxIoWriteMibPerSecond : UInt64

/-- The section `policy`. -/
structure PolicyConfig where
  evaluationIntervalMs : UInt64
  decisionHeartbeatSeconds : UInt64

/-- The section `compression`. -/
structure CompressionConfig where
  backend : String
  activeProfile : String
  maxZramPercentRam : UInt8
  safeHeadroomPercent : UInt8
  benchmarkMaxBytes : UInt64
  maxCpuOverheadPercent : F64
  minCapacityGainPercent : F64

/-- The section `tiering`. -/
structure TieringConfig where
  preferredBackend : String
  supportedStorageProfiles : List String
  maxSwapfilePercentDisk : UInt8
  maxWriteMibPerSecond : UInt64
  dailyWriteBudgetGib : UInt64
  benchmarkMaxBytes : UInt64
  zswapPoolMinPercent : UInt8
  zswapPoolMaxPercent : UInt8
  ratedTbw : Option F64
  comparisonEnabled : Bool
  comparisonMaxLatencyRegressionPercent : UInt8
  comparisonMinUsefulBenefitPercent : UInt8
  comparisonAcceptedConfidence : Option String

/-- The section `ksm`, which cannot be enabled. -/
structure KsmConfig where
  enabled : Bool
  liveApply : Bool
  profiles : List String
  minObservationSeconds : UInt64
  minMergeableBytes : UInt64
  maxCpuOverheadPercent : F64
  inefficiencyWindows : UInt32
  cooldownSeconds : UInt64
  scannerPagesToScanMin : UInt64
  scannerPagesToScanMax : UInt64
  scannerSleepMillisecsMin : UInt64
  validationMaxSeconds : UInt64
  validationMaxBytes : UInt64

/-- The section `damon`, which cannot be enabled either. -/
structure DamonConfig where
  enabled : Bool
  mode : String
  allowMonitorSession : Bool
  preferredOperation : String
  sampleUs : UInt64
  aggrUs : UInt64
  updateUs : UInt64
  minRegions : UInt32
  maxRegions : UInt32
  maxCpuOverheadPercent : F64
  maxSessionSeconds : UInt64
  maxSamplesPerSession : UInt64
  retentionDays : UInt64
  exportMaxBytes : UInt64
  maxActionBytes : UInt64

/-- The section `damos`, for plans only. -/
structure DamosConfig where
  enabled : Bool
  liveApply : Bool
  minCompleteColdWindows : UInt32
  refaultWindowSeconds : UInt64
  blacklistSeconds : UInt64
  maxTotalAppliedBytes : UInt64
  applyIntervalUs : UInt64

/-- A parsed configuration. Nothing is checked yet. -/
structure Config where
  general : GeneralConfig
  cgroups : CgroupsConfig
  telemetry : TelemetryConfig
  classification : ClassificationConfig
  safety : SafetyConfig
  pressure : Policy.PressureConfig
  policy : PolicyConfig
  compression : CompressionConfig
  tiering : TieringConfig
  ksm : KsmConfig
  damon : DamonConfig
  damos : DamosConfig

/-- The field that is refused, and why. -/
inductive ConfigError where
  | validation (field message : String)
  deriving DecidableEq

open ConfigError

/-! ## §2 Checks -/

/-- A number from 0 to 100. NaN is none. -/
def validatePercentage (field : String) (value : F64) : Except ConfigError Unit :=
  refuse (¬ (value.isFinite = true ∧ F64.le (.finite 0) value = true ∧
      value.le (.finite 100) = true))
    (validation field "must be between 0 and 100 inclusive")

/-- One entry of a loop over percentage fields. -/
def validatePercentageEntry (entry : String × F64) : Except ConfigError Unit :=
  validatePercentage entry.1 entry.2

/-- A digit of a lower-case digest. -/
def isLowerHexDigit (c : Char) : Bool := isHexDigit c && !('A' ≤ c && c ≤ 'F')

/-- The characters of an executable's base name. -/
def isBasenameChar (c : Char) : Bool := c.isAlphanum || "._+-".toList.contains c

/-- An identity is a digest in lower case. -/
def validateIdentity (identity : String) : Except ConfigError Unit :=
  refuse (identity.utf8ByteSize ≠ 64 ∨ ¬ identity.toList.all isLowerHexDigit = true)
    (validation "cgroups.allowed_identities" "entries must be lowercase SHA-256 identities")

/-- The base name of an executable, without any path. -/
def validateExecutable (field value : String) : Except ConfigError Unit :=
  refuse (value = "" ∨ 255 < value.utf8ByteSize ∨
      value.toList.any (fun c => c == '/' || c == '\\') = true ∨
      ¬ value.toList.all isBasenameChar = true)
    (validation field "entries must be executable basenames without paths or patterns")

/-- One list of executables. -/
def validateExecutables (entry : String × List String) : Except ConfigError Unit :=
  entry.2.forM (validateExecutable entry.1)

/-- The check of a percentage that is a byte. -/
def validateAtMost100 (entry : String × UInt8) : Except ConfigError Unit :=
  refuse (100 < entry.2) (validation entry.1 "must be between 0 and 100")

/-- A finite rate that is not negative. -/
def validateRateThreshold (entry : String × F64) : Except ConfigError Unit :=
  refuse (entry.2.isFinite = false ∨ entry.2.lt (.finite 0) = true)
    (validation entry.1 "must be finite and non-negative")

/-! ## §3 Validation, section by section -/

/-- Only observing is allowed, and no automatic action. -/
def validateMode (config : GeneralConfig) : Except ConfigError Unit := do
  refuse (config.mode ≠ "observe")
    (validation "general.mode" "must be exactly `observe` during Phase 3")
  refuse (config.allowAutomaticActions = true)
    (validation "general.allow_automatic_actions" "must be false during Phase 3")

/-- The shares of memory are percentages in their order; whatever names a target is well formed. -/
def validateCgroups (config : CgroupsConfig) : Except ConfigError Unit := do
  [("cgroups.foreground_min_percent", F64.ofU8 config.foregroundMinPercent),
    ("cgroups.foreground_max_percent", F64.ofU8 config.foregroundMaxPercent),
    ("cgroups.background_high_min_percent", F64.ofU8 config.backgroundHighMinPercent),
    ("cgroups.background_high_max_percent", F64.ofU8 config.backgroundHighMaxPercent),
    ("cgroups.minimum_headroom_percent", F64.ofU8 config.minimumHeadroomPercent)].forM
      validatePercentageEntry
  refuse (config.foregroundMaxPercent < config.foregroundMinPercent)
    (validation "cgroups.foreground_min_percent" "must not exceed cgroups.foreground_max_percent")
  refuse (config.backgroundHighMaxPercent < config.backgroundHighMinPercent)
    (validation "cgroups.background_high_min_percent"
      "must not exceed cgroups.background_high_max_percent")
  -- the sum is taken in 16 bits: it cannot wrap
  refuse (100 < config.foregroundMaxPercent.toNat + config.minimumHeadroomPercent.toNat)
    (validation "cgroups.minimum_headroom_percent"
      "foreground maximum plus headroom must not exceed 100 percent")
  config.allowedIdentities.forM validateIdentity

/-- There is a path. -/
def validateDatabasePath (config : GeneralConfig) : Except ConfigError Unit :=
  refuse (config.databasePath.text = "") (validation "general.database_path" "must not be empty")

/-- The thresholds of a comparison are percentages. -/
def validateComparison (config : TieringConfig) : Except ConfigError Unit := do
  [("tiering.comparison_max_latency_regression_percent",
      config.comparisonMaxLatencyRegressionPercent),
    ("tiering.comparison_min_useful_benefit_percent",
      config.comparisonMinUsefulBenefitPercent)].forM validateAtMost100
  refuse (config.comparisonAcceptedConfidence.any (fun confidence =>
      !(["bounded-physical-device-attributed", "physical-device-host-wide-noisy"].contains
        confidence)) = true)
    (validation "tiering.comparison_accepted_confidence" "unsupported confidence vocabulary")
  refuse (config.comparisonEnabled = true ∧ (config.comparisonMaxLatencyRegressionPercent = 0 ∨
      config.comparisonMinUsefulBenefitPercent = 0 ∨ config.comparisonAcceptedConfidence = none))
    (validation "tiering.comparison_enabled"
      "enabled comparison requires non-zero bounds and accepted confidence")

/-- Not more than ten samples a second. -/
def validateSampleInterval (config : GeneralConfig) : Except ConfigError Unit :=
  refuse (config.sampleIntervalMs < 100)
    (validation "general.sample_interval_ms" "must be at least 100")

/-- The slower interval is not the shorter one; budget, retention and batches are bounded. -/
def validateTelemetry (config : TelemetryConfig) : Except ConfigError Unit := do
  refuse (config.processSampleIntervalMs < 1000)
    (validation "telemetry.process_sample_interval_ms" "must be at least 1000")
  refuse (config.smapsRollupIntervalMs < 5000)
    (validation "telemetry.smaps_rollup_interval_ms" "must be at least 5000")
  refuse (config.smapsRollupIntervalMs < config.processSampleIntervalMs)
    (validation "telemetry.smaps_rollup_interval_ms"
      "must not be shorter than telemetry.process_sample_interval_ms")
  refuse (10000 < config.smapsRollupBudget)
    (validation "telemetry.smaps_rollup_budget" "must not exceed 10000 processes")
  refuse (config.retentionDays < 1 ∨ 3650 < config.retentionDays)
    (validation "telemetry.retention_days" "must be between 1 and 3650")
  refuse (config.retentionIntervalMs < 60000)
    (validation "telemetry.retention_interval_ms" "must be at least 60000")
  refuse (config.sqliteBatchSize < 1 ∨ 10000 < config.sqliteBatchSize)
    (validation "telemetry.sqlite_batch_size" "must be between 1 and 10000")

/-- Not faster than the process telemetry; thresholds in range and plain base names. -/
def validateClassification (config : ClassificationConfig) (telemetry : TelemetryConfig) :
    Except ConfigError Unit := do
  refuse (config.intervalMs < 1000)
    (validation "classification.interval_ms" "must be at least 1000")
  refuse (config.intervalMs < telemetry.processSampleIntervalMs)
    (validation "classification.interval_ms"
      "must not be shorter than telemetry.process_sample_interval_ms")
  refuse (config.minimumConfidence.isFinite = false ∨
      ¬ (F64.le (.finite (1 / 2)) config.minimumConfidence = true ∧
        config.minimumConfidence.le (.finite 1) = true))
    (validation "classification.minimum_confidence" "must be between 0.5 and 1.0 inclusive")
  refuse (config.confirmationSamples < 1 ∨ 20 < config.confirmationSamples)
    (validation "classification.confirmation_samples" "must be between 1 and 20")
  refuse (config.browserHeavyProcessCount < 1 ∨ 10000 < config.browserHeavyProcessCount)
    (validation "classification.browser_heavy_process_count" "must be between 1 and 10000")
  [("classification.browser_heavy_memory_percent", config.browserHeavyMemoryPercent),
    ("classification.virtualization_memory_percent", config.virtualizationMemoryPercent),
    ("classification.gaming_background_memory_percent",
      config.gamingBackgroundMemoryPercent)].forM validatePercentageEntry
  [("classification.protected_executables", config.protectedExecutables),
    ("classification.critical_executables", config.criticalExecutables),
    ("classification.game_executables", config.gameExecutables)].forM validateExecutables

/-- The CPU overhead is a percentage. -/
def validateSafety (config : SafetyConfig) : Except ConfigError Unit :=
  validatePercentage "safety.max_cpu_overhead_percent" config.maxCpuOverheadPercent

/-- The thresholds are numbers, and those of worse states are lower. -/
def validatePressure (config : Policy.PressureConfig) : Except ConfigError Unit := do
  [("pressure.watch_available_percent", F64.ofU8 config.watchAvailablePercent),
    ("pressure.pressure_available_percent", F64.ofU8 config.pressureAvailablePercent),
    ("pressure.critical_available_percent", F64.ofU8 config.criticalAvailablePercent),
    ("pressure.emergency_available_percent", F64.ofU8 config.emergencyAvailablePercent)].forM
      validatePercentageEntry
  refuse (¬ (config.pressureAvailablePercent < config.watchAvailablePercent ∧
      config.criticalAvailablePercent < config.pressureAvailablePercent ∧
      config.emergencyAvailablePercent < config.criticalAvailablePercent))
    (validation "pressure.watch_available_percent"
      "memory thresholds must satisfy watch > pressure > critical > emergency")
  [("pressure.psi_some_avg10_threshold", config.psiSomeAvg10Threshold),
    ("pressure.psi_full_avg10_threshold", config.psiFullAvg10Threshold),
    ("pressure.emergency_psi_full_avg10_threshold",
      config.emergencyPsiFullAvg10Threshold)].forM validatePercentageEntry
  [("pressure.major_fault_rate_threshold", config.majorFaultRateThreshold),
    ("pressure.swap_in_rate_threshold", config.swapInRateThreshold),
    ("pressure.swap_out_rate_threshold", config.swapOutRateThreshold)].forM
      validateRateThreshold
  refuse (config.emergencyPsiFullAvg10Threshold.le config.psiFullAvg10Threshold = true)
    (validation "pressure.emergency_psi_full_avg10_threshold"
      "must exceed pressure.psi_full_avg10_threshold")

/-- At most one evaluation a second, and a heartbeat. -/
def validatePolicy (config : PolicyConfig) : Except ConfigError Unit := do
  refuse (config.evaluationIntervalMs < 1000)
    (validation "policy.evaluation_interval_ms" "must be at least 1000")
  refuse (config.decisionHeartbeatSeconds = 0)
    (validation "policy.decision_heartbeat_seconds" "must be greater than zero")

/-- The backend is detected; the profile is one of three. -/
def validateCompression (config : CompressionConfig) : Except ConfigError Unit := do
  refuse (config.backend ≠ "detect")
    (validation "compression.backend" "must be exactly `detect` during Phase 5")
  refuse (config.activeProfile ∉ ["safe", "gaming", "capacity"])
    (validation "compression.active_profile" "must be safe, gaming, or capacity")
  [("compression.max_zram_percent_ram", F64.ofU8 config.maxZramPercentRam),
    ("compression.safe_headroom_percent", F64.ofU8 config.safeHeadroomPercent),
    ("compression.max_cpu_overhead_percent", config.maxCpuOverheadPercent),
    ("compression.min_capacity_gain_percent", config.minCapacityGainPercent)].forM
      validatePercentageEntry
  refuse (config.maxZramPercentRam = 0)
    (validation "compression.max_zram_percent_ram" "must be greater than zero")
  refuse (config.benchmarkMaxBytes = 0 ∨ 268435456 < config.benchmarkMaxBytes)
    (validation "compression.benchmark_max_bytes" "must be between 1 and 268435456 bytes")

/-- Known storage profiles, and bounded sizes, rates and budgets. -/
def validateTiering (config : TieringConfig) (safety : SafetyConfig) :
    Except ConfigError Unit := do
  refuse (config.preferredBackend ∉ ["detect", "zram", "zswap_storage_backed"])
    (validation "tiering.preferred_backend" "must be detect, zram, or zswap_storage_backed")
  refuse (config.supportedStorageProfiles = [] ∨
      (∃ profile ∈ config.supportedStorageProfiles, profile ∉ ["sata_ssd", "nvme_ssd"]) ∨
      ¬ config.supportedStorageProfiles.Nodup)
    (validation "tiering.supported_storage_profiles"
      "must contain only explicitly supported sata_ssd or nvme_ssd profiles")
  [("tiering.max_swapfile_percent_disk", F64.ofU8 config.maxSwapfilePercentDisk),
    ("tiering.zswap_pool_min_percent", F64.ofU8 config.zswapPoolMinPercent),
    ("tiering.zswap_pool_max_percent", F64.ofU8 config.zswapPoolMaxPercent)].forM
      validatePercentageEntry
  refuse (config.maxSwapfilePercentDisk = 0)
    (validation "tiering.max_swapfile_percent_disk" "must be greater than zero")
  refuse (config.zswapPoolMinPercent = 0 ∨ config.zswapPoolMaxPercent < config.zswapPoolMinPercent)
    (validation "tiering.zswap_pool_min_percent" "must be non-zero and not exceed the maximum")
  refuse (config.maxWriteMibPerSecond = 0 ∨
      safety.maxIoWriteMibPerSecond < config.maxWriteMibPerSecond)
    (validation "tiering.max_write_mib_per_second"
      "must be non-zero and not exceed the global safety limit")
  refuse (config.dailyWriteBudgetGib = 0)
    (validation "tiering.daily_write_budget_gib" "must be greater than zero")
  refuse (config.benchmarkMaxBytes = 0 ∨ 268435456 < config.benchmarkMaxBytes)
    (validation "tiering.benchmark_max_bytes" "must be between 1 and 268435456")
  refuse (config.ratedTbw.any (fun value => !value.isFinite || value.le (.finite 0)) = true)
    (validation "tiering.rated_tbw" "must be finite and positive when provided")

/-- Disabled, with bounds that are not zero and an overhead below the ceiling. -/
def validateKsm (config : KsmConfig) (safety : SafetyConfig) : Except ConfigError Unit := do
  refuse (config.enabled = true)
    (validation "ksm.enabled" "must remain false in the current implementation")
  refuse (config.liveApply = true)
    (validation "ksm.live_apply" "normal runtime must remain plan-only")
  refuse (config.profiles = [] ∨
      ∃ profile ∈ config.profiles, profile ∉ ["vm", "browser", "electron"])
    (validation "ksm.profiles" "must contain only vm, browser, and electron")
  refuse (config.minObservationSeconds = 0 ∨ config.minMergeableBytes = 0 ∨
      config.inefficiencyWindows = 0 ∨ config.cooldownSeconds = 0 ∨
      config.validationMaxSeconds = 0 ∨ config.validationMaxBytes = 0)
    (validation "ksm" "bounded values must be non-zero")
  refuse (config.maxCpuOverheadPercent.isFinite = false ∨
      config.maxCpuOverheadPercent.le (.finite 0) = true ∨
      safety.maxCpuOverheadPercent.lt config.maxCpuOverheadPercent = true)
    (validation "ksm.max_cpu_overhead_percent"
      "must be positive and at most the global safety ceiling")
  refuse (config.scannerPagesToScanMin = 0 ∨
      config.scannerPagesToScanMax < config.scannerPagesToScanMin ∨
      config.scannerSleepMillisecsMin = 0)
    (validation "ksm.scanner" "invalid scanner bounds")

/-- Disabled, with ordered intervals and bounded sessions. -/
def validateDamon (config : DamonConfig) (safety : SafetyConfig) : Except ConfigError Unit := do
  refuse (config.enabled = true)
    (validation "damon.enabled" "must remain false in the current implementation")
  refuse (config.mode ≠ "monitor_only")
    (validation "damon.mode" "must be exactly `monitor_only` in the current implementation")
  refuse (config.allowMonitorSession = true)
    (validation "damon.allow_monitor_session"
      "normal runtime must not start a monitoring session")
  refuse (config.preferredOperation ≠ "vaddr")
    (validation "damon.preferred_operation" "must be vaddr for Phase 7")
  refuse (config.sampleUs < 100 ∨ config.aggrUs < config.sampleUs ∨
      config.updateUs < config.aggrUs)
    (validation "damon.sample_us" "must satisfy 100 <= sample <= aggregation <= update")
  refuse (config.minRegions = 0 ∨ config.maxRegions < config.minRegions ∨
      100000 < config.maxRegions)
    (validation "damon.min_regions" "invalid region bounds")
  refuse (config.maxCpuOverheadPercent.isFinite = false ∨
      config.maxCpuOverheadPercent.lt (.finite 0) = true ∨
      safety.maxCpuOverheadPercent.lt config.maxCpuOverheadPercent = true)
    (validation "damon.max_cpu_overhead_percent" "must not exceed the global safety ceiling")
  refuse (config.maxSessionSeconds = 0 ∨ 180 < config.maxSessionSeconds ∨
      config.maxSamplesPerSession = 0 ∨ config.retentionDays = 0 ∨ config.exportMaxBytes = 0)
    (validation "damon.max_session_seconds"
      "session, sample, retention, and export bounds must be non-zero and bounded")

/-- Disabled, with at least three cold windows and a bounded total. -/
def validateDamos (config : DamosConfig) (damon : DamonConfig) : Except ConfigError Unit := do
  refuse (config.enabled = true ∨ config.liveApply = true)
    (validation "damos.live_apply"
      "Phase 8 production DAMOS must remain disabled and plan-only")
  refuse (config.minCompleteColdWindows < 3 ∨ config.refaultWindowSeconds = 0 ∨
      config.blacklistSeconds < config.refaultWindowSeconds ∨
      config.maxTotalAppliedBytes = 0 ∨ damon.maxActionBytes < config.maxTotalAppliedBytes ∨
      config.applyIntervalUs = 0)
    (validation "damos" "invalid cold evidence, cooldown, total ceiling, or apply interval")

/-- `Config::validate`: section after section, and the first error is returned. -/
def Config.validate (config : Config) : Except ConfigError Unit := do
  validateMode config.general
  validateCgroups config.cgroups
  validateDatabasePath config.general
  validateComparison config.tiering
  validateSampleInterval config.general
  validateTelemetry config.telemetry
  validateClassification config.classification config.telemetry
  validateSafety config.safety
  validatePressure config.pressure
  validatePolicy config.policy
  validateCompression config.compression
  validateTiering config.tiering config.safety
  validateKsm config.ksm config.safety
  validateDamon config.damon config.safety
  validateDamos config.damos config.damon

/-! ## §4 What an accepted configuration promises -/

/-- The percentages of the cgroup budgets are ordered, and leave room for the headroom. -/
structure CgroupsConfig.Ordered (config : CgroupsConfig) : Prop where
  foreground : config.foregroundMinPercent ≤ config.foregroundMaxPercent
  background : config.backgroundHighMinPercent ≤ config.backgroundHighMaxPercent
  headroom : config.foregroundMaxPercent.toNat + config.minimumHeadroomPercent.toNat ≤ 100

theorem validateCgroups_ordered {config : CgroupsConfig} (h : validateCgroups config = .ok ()) :
    config.Ordered := by
  unfold validateCgroups at h
  obtain ⟨_, _, h⟩ := bind_eq_ok.1 h
  simp only [refuse_bind_eq_ok] at h
  obtain ⟨hforeground, hbackground, hheadroom, _⟩ := h
  exact ⟨UInt8.not_lt.1 hforeground, UInt8.not_lt.1 hbackground, Nat.not_lt.1 hheadroom⟩

theorem Config.validate_cgroups {config : Config} (h : config.validate = .ok ()) :
    config.cgroups.Ordered := by
  unfold Config.validate at h
  obtain ⟨_, _, h⟩ := bind_eq_ok.1 h
  obtain ⟨_, hcgroups, _⟩ := bind_eq_ok.1 h
  exact validateCgroups_ordered hcgroups

/-- A process counts for something only from one half on. -/
theorem validateClassification_minimum {config : ClassificationConfig}
    {telemetry : TelemetryConfig} (h : validateClassification config telemetry = .ok ()) :
    F64.le (.finite (1 / 2)) config.minimumConfidence = true := by
  unfold validateClassification at h
  simp only [refuse_bind_eq_ok] at h
  obtain ⟨-, -, hminimum, -⟩ := h
  rw [not_or, not_not] at hminimum
  exact hminimum.2.1

theorem Config.validate_minimum {config : Config} (h : config.validate = .ok ()) :
    F64.le (.finite (1 / 2)) config.classification.minimumConfidence = true := by
  unfold Config.validate at h
  -- the check of the classification is the seventh
  simp only [bind_eq_ok] at h
  obtain ⟨_, _, _, _, _, _, _, _, _, _, _, _, _, hclassification, _⟩ := h
  exact validateClassification_minimum hclassification

/-- The configuration that is shipped. -/
def shippedConfig : Config where
  general :=
    { mode := "observe", sampleIntervalMs := 1000, databasePath := ⟨"/var/lib/nemor/nemor.db"⟩
      allowAutomaticActions := false }
  cgroups :=
    { foregroundMinPercent := 5, foregroundMaxPercent := 40, backgroundHighMinPercent := 20
      backgroundHighMaxPercent := 80, minimumHeadroomPercent := 10, allowedIdentities := [] }
  telemetry :=
    { processSampleIntervalMs := 5000, smapsRollupIntervalMs := 60000, smapsRollupBudget := 32
      retentionDays := 7, retentionIntervalMs := 3600000, sqliteBatchSize := 512 }
  classification :=
    { intervalMs := 5000, minimumConfidence := .finite (65 / 100), confirmationSamples := 3
      browserHeavyProcessCount := 8, browserHeavyMemoryPercent := .finite 15
      virtualizationMemoryPercent := .finite 10, gamingBackgroundMemoryPercent := .finite 20
      protectedExecutables := [], criticalExecutables := [], gameExecutables := [] }
  safety := { maxCpuOverheadPercent := .finite 5, maxIoWriteMibPerSecond := 100 }
  pressure :=
    { watchAvailablePercent := 20, pressureAvailablePercent := 12
      criticalAvailablePercent := 7, emergencyAvailablePercent := 3
      psiSomeAvg10Threshold := .finite 10, psiFullAvg10Threshold := .finite 2
      emergencyPsiFullAvg10Threshold := .finite 10, majorFaultRateThreshold := .finite 100
      swapInRateThreshold := .finite 128, swapOutRateThreshold := .finite 128
      stateHoldSeconds := 10, recoveryHoldSeconds := 30 }
  policy := { evaluationIntervalMs := 5000, decisionHeartbeatSeconds := 300 }
  compression :=
    { backend := "detect", activeProfile := "safe", maxZramPercentRam := 100
      safeHeadroomPercent := 15, benchmarkMaxBytes := 67108864
      maxCpuOverheadPercent := .finite 2, minCapacityGainPercent := .finite 10 }
  tiering :=
    { preferredBackend := "detect", supportedStorageProfiles := ["nvme_ssd", "sata_ssd"]
      maxSwapfilePercentDisk := 10, maxWriteMibPerSecond := 100, dailyWriteBudgetGib := 64
      benchmarkMaxBytes := 67108864, zswapPoolMinPercent := 5, zswapPoolMaxPercent := 20
      ratedTbw := none, comparisonEnabled := false
      comparisonMaxLatencyRegressionPercent := 10, comparisonMinUsefulBenefitPercent := 5
      comparisonAcceptedConfidence := some "bounded-physical-device-attributed" }
  ksm :=
    { enabled := false, liveApply := false, profiles := ["vm", "browser", "electron"]
      minObservationSeconds := 30, minMergeableBytes := 33554432
      maxCpuOverheadPercent := .finite (8 / 10), inefficiencyWindows := 3, cooldownSeconds := 300
      scannerPagesToScanMin := 50, scannerPagesToScanMax := 1000, scannerSleepMillisecsMin := 10
      validationMaxSeconds := 120, validationMaxBytes := 268435456 }
  damon :=
    { enabled := false, mode := "monitor_only", allowMonitorSession := false
      preferredOperation := "vaddr", sampleUs := 5000, aggrUs := 100000, updateUs := 1000000
      minRegions := 10, maxRegions := 1000, maxCpuOverheadPercent := .finite 1
      maxSessionSeconds := 120, maxSamplesPerSession := 100000, retentionDays := 7
      exportMaxBytes := 67108864, maxActionBytes := 268435456 }
  damos :=
    { enabled := false, liveApply := false, minCompleteColdWindows := 3
      refaultWindowSeconds := 30, blacklistSeconds := 300, maxTotalAppliedBytes := 268435456
      applyIntervalUs := 500000 }

theorem validate_shippedConfig : shippedConfig.validate = .ok () := by
  decide +kernel

end Nemor.Common
