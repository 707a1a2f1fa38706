import Nemor.Capacity.Evidence
import Nemor.Lib.Fallible
import Nemor.Lib.MachineNumbers
import Nemor.Pressure.Worker

/-!
# Plans of a progressive pressure run

A plan fixes the levels of a run, their timing, the limits of the worker and the policies of the
run before anything is executed. §2 is the check that every plan has to pass, §3 what a plan
that has passed it is known to be, §4 the commands that the levels are turned into.
-/

namespace Nemor.Pressure

open Capacity Fallible MachineNumbers Streaming

/-! ## §1 Plans -/

/-- `PRESSURE_SCENARIO`. -/
def pressureScenario : String := "progressive_memory_pressure"

/-- `PRESSURE_SCENARIO_VERSION`. -/
def pressureScenarioVersion : UInt32 := 1

/-- `PRESSURE_PLAN_VERSION`. -/
def pressurePlanVersion : UInt32 := 2

/-- `PRESSURE_HEALTH_POLICY_VERSION`. -/
def pressureHealthPolicyVersion : UInt32 := 1

/-- A plan has at most twelve levels. -/
def maxPressureLevels : ℕ := 12

/-- A run takes at most a quarter of an hour. -/
def maxPressureDurationMs : UInt64 := 15 * 60 * 1000

/-- There is one purpose. -/
inductive PressureComparisonPurpose where
  | pressureFrameworkValidation
  deriving DecidableEq

/-- What has become of a level. -/
inductive PlannedLevelState where
  | planned
  | completedSustainable
  | completedUnsustainable
  | invalidLevelEvidence
  | safetyAbort
  | notExecutedAfterUnsustainable
  | notExecutedAfterInvalid
  | notExecutedAfterSafetyAbort
  deriving DecidableEq

/-- A level: how much is to be touched. -/
structure PlannedPressureLevel where
  levelIndex : UInt64
  targetLogicalBytes : UInt64
  targetTouchedBytes : UInt64
  seed : UInt64
  state : PlannedLevelState
  deriving DecidableEq

/-- How long each part of a level may take. -/
structure PressureWatchdogPolicy where
  heartbeatTimeoutMs : UInt64
  levelTransitionTimeoutMs : UInt64
  levelTimeoutMs : UInt64
  totalTimeoutMs : UInt64

/-- The limits that a sustained level keeps. -/
structure PressureHealthPolicy where
  version : UInt32
  hostPsiFullAvg10Emergency : F64
  cgroupPsiFullAvg10Unsustainable : F64
  hostOomForbidden : Bool
  requestOom : Bool
  zeroLimitsMeanZeroTolerance : Bool

/-- Whether levels are put between two others. -/
inductive RefinementMode where
  | deterministicBracket
  | disabledForFrameworkPilot
  deriving DecidableEq

/-- How far a bracket is narrowed. -/
structure RefinementPolicy where
  mode : RefinementMode
  granularityBytes : UInt64
  maximumRefinements : UInt64

/-- When a run ends before its last level. -/
structure StopPolicy where
  stopAfterFirstUnsustainable : Bool
  stopImmediatelyOnSafetyAbort : Bool
  neverUseSafetyAbortAsCapacityBound : Bool

/-- Of the headroom only the effective maximum is looked at, of the health policy all but the
    limits on faults and traffic. -/
structure ProgressivePressurePlan where
  version : UInt32
  scenario : String
  scenarioVersion : UInt32
  comparisonPurpose : PressureComparisonPurpose
  variants : List BenchmarkVariant
  generatorId : String
  generatorVersion : UInt32
  levels : List PlannedPressureLevel
  holdDurationMs : UInt64
  stabilizationDurationMs : UInt64
  sampleIntervalMs : UInt64
  workerMemoryMaxBytes : UInt64
  watchdog : PressureWatchdogPolicy
  health : PressureHealthPolicy
  stopPolicy : StopPolicy
  refinement : RefinementPolicy
  maximumLevels : UInt64
  maximumTotalDurationMs : UInt64
  effectiveMaximumBytes : UInt64
  systemdTransientScopeRequired : Bool
  exactOwnedWorkerRequired : Bool

/-! ## §2 Validation -/

/-- `u64::checked_mul`. -/
def checkedMul (a b : UInt64) : Option UInt64 :=
  if a.toNat * b.toNat < 2 ^ 64 then some (a * b) else none

/-- `ok_or_else` with a text. -/
def orError {α : Type} (message : String) : Option α → Except String α
  | none => .error message
  | some a => .ok a

theorem orError_eq_ok {α : Type} {message : String} {o : Option α} {a : α} :
    orError message o = .ok a ↔ o = some a := by
  cases o <;> simp [orError]

/-- A percentage outside of `[0, 100]`, or no number. -/
def NotPercent (x : F64) : Prop :=
  x.isFinite = false ∨ x.lt (.finite 0) = true ∨ (F64.finite 100).lt x = true

instance (x : F64) : Decidable (NotPercent x) :=
  inferInstanceAs (Decidable (_ ∨ _ ∨ _))

namespace ProgressivePressurePlan

/-- Another scenario, generator or ownership than that of the checkpoint. -/
def ForeignContract (p : ProgressivePressurePlan) : Prop :=
  p.version ≠ pressurePlanVersion ∨
    p.scenario ≠ pressureScenario ∨
    p.scenarioVersion ≠ pressureScenarioVersion ∨
    p.comparisonPurpose ≠ .pressureFrameworkValidation ∨
    p.variants ≠ [.cachyosBaseline, .nemorObserve] ∨
    p.generatorId ≠ incompressibleGeneratorId ∨
    p.generatorVersion ≠ syntheticGeneratorVersion ∨
    p.systemdTransientScopeRequired = false ∨
    p.exactOwnedWorkerRequired = false

/-- Something of the plan has no bound, or too large a one. -/
def Unbounded (p : ProgressivePressurePlan) : Prop :=
  p.levels = [] ∨
    maxPressureLevels < p.levels.length ∨
    p.maximumLevels.toNat < p.levels.length ∨
    maxPressureLevels < p.maximumLevels.toNat ∨
    p.maximumTotalDurationMs = 0 ∨
    maxPressureDurationMs < p.maximumTotalDurationMs ∨
    p.holdDurationMs = 0 ∨
    p.stabilizationDurationMs = 0 ∨
    p.sampleIntervalMs = 0 ∨
    p.holdDurationMs < p.sampleIntervalMs ∨
    p.watchdog.heartbeatTimeoutMs = 0 ∨
    p.watchdog.levelTransitionTimeoutMs = 0 ∨
    p.watchdog.levelTimeoutMs = 0 ∨
    p.watchdog.totalTimeoutMs = 0 ∨
    p.maximumTotalDurationMs < p.watchdog.totalTimeoutMs ∨
    p.health.version ≠ pressureHealthPolicyVersion ∨
    NotPercent p.health.hostPsiFullAvg10Emergency ∨
    NotPercent p.health.cgroupPsiFullAvg10Unsustainable ∨
    p.health.requestOom = true ∨
    p.health.hostOomForbidden = false ∨
    p.health.zeroLimitsMeanZeroTolerance = false ∨
    p.stopPolicy.stopAfterFirstUnsustainable = false ∨
    p.stopPolicy.stopImmediatelyOnSafetyAbort = false ∨
    p.stopPolicy.neverUseSafetyAbortAsCapacityBound = false ∨
    p.refinement.granularityBytes = 0 ∨
    p.maximumLevels < p.refinement.maximumRefinements ∨
    (p.refinement.mode = .deterministicBracket ∧ p.refinement.maximumRefinements = 0) ∨
    (p.refinement.mode = .disabledForFrameworkPilot ∧ p.refinement.maximumRefinements ≠ 0)

instance (p : ProgressivePressurePlan) : Decidable p.ForeignContract := by
  delta ForeignContract
  infer_instance

instance (p : ProgressivePressurePlan) : Decidable p.Unbounded := by
  delta Unbounded
  infer_instance

/-- How long a level may take from its command to its last heartbeat. -/
def perLevelLifecycle (p : ProgressivePressurePlan) : Option UInt64 :=
  ((checkedAdd p.watchdog.levelTransitionTimeoutMs p.stabilizationDurationMs).bind
    fun value => checkedAdd value p.holdDurationMs).bind
      fun value => checkedAdd value p.watchdog.heartbeatTimeoutMs

/-- A level that is empty, too large, not larger than the one before, already executed or not at
    its place. -/
def Misplaced (p : ProgressivePressurePlan) (expectedIndex : ℕ) (previous : UInt64)
    (indices : List UInt64) (level : PlannedPressureLevel) : Prop :=
  level.targetLogicalBytes = 0 ∨
    level.targetTouchedBytes ≠ level.targetLogicalBytes ∨
    level.targetLogicalBytes ≤ previous ∨
    p.workerMemoryMaxBytes < level.targetTouchedBytes ∨
    p.effectiveMaximumBytes < level.targetTouchedBytes ∨
    level.state ≠ .planned ∨
    level.levelIndex.toNat ≠ expectedIndex ∨
    level.levelIndex ∈ indices

instance (p : ProgressivePressurePlan) (expectedIndex : ℕ) (previous : UInt64)
    (indices : List UInt64) (level : PlannedPressureLevel) :
    Decidable (p.Misplaced expectedIndex previous indices level) := by
  delta Misplaced
  infer_instance

/-- The loop over the levels, with the size before and the indices seen. -/
def validateLevels (p : ProgressivePressurePlan) (expectedIndex : ℕ) (previous : UInt64)
    (indices : List UInt64) : List PlannedPressureLevel → Except String Unit
  | [] => .ok ()
  | level :: rest => do
    refuse (p.Misplaced expectedIndex previous indices level)
      "pressure levels must be unique, increasing, bounded and planned"
    p.validateLevels (expectedIndex + 1) level.targetLogicalBytes (level.levelIndex :: indices) rest

/-- `ProgressivePressurePlan::validate`. -/
def validate (p : ProgressivePressurePlan) : Except String Unit := do
  refuse p.ForeignContract "invalid Checkpoint 3C scenario or ownership contract"
  refuse p.Unbounded "unsafe or unbounded Checkpoint 3C pressure plan"
  let perLevelLifecycle ← orError "level lifecycle overflow" p.perLevelLifecycle
  refuse (p.watchdog.levelTimeoutMs < perLevelLifecycle)
    "level watchdog cannot cover the frozen level lifecycle"
  -- the levels that a refinement may add count too
  let possibleLevelCount ← orError "pressure level count overflow"
    (checkedAdd (UInt64.ofNat p.levels.length) p.refinement.maximumRefinements)
  let plannedDuration ← orError "planned duration overflow"
    (checkedMul possibleLevelCount perLevelLifecycle)
  refuse (p.maximumTotalDurationMs < plannedDuration ∨ p.watchdog.totalTimeoutMs < plannedDuration)
    "planned levels exceed maximum experiment duration"
  refuse (p.workerMemoryMaxBytes = 0 ∨ p.effectiveMaximumBytes < p.workerMemoryMaxBytes)
    "worker MemoryMax exceeds the derived effective headroom"
  p.validateLevels 0 0 [] p.levels

/-! ## §3 Plans that have passed -/

/-- A level at its place, of a size that fits, not executed yet. -/
structure WellPlaced (p : ProgressivePressurePlan) (index : ℕ) (level : PlannedPressureLevel) :
    Prop where
  index : level.levelIndex.toNat = index
  planned : level.state = .planned
  logical : level.targetLogicalBytes = level.targetTouchedBytes
  fits : level.targetTouchedBytes ≤ p.workerMemoryMaxBytes

/-- The sizes grow from `previous` on. -/
def Growing (previous : UInt64) (levels : List PlannedPressureLevel) : Prop :=
  (previous :: levels.map PlannedPressureLevel.targetTouchedBytes).Pairwise (· < ·)

theorem validateLevels_ok {p : ProgressivePressurePlan} {expectedIndex : ℕ} {previous : UInt64}
    {indices : List UInt64} {levels : List PlannedPressureLevel}
    (h : p.validateLevels expectedIndex previous indices levels = .ok ()) :
    (∀ i level, levels[i]? = some level → p.WellPlaced (expectedIndex + i) level) ∧
      Growing previous levels := by
  induction levels generalizing expectedIndex previous indices with
  | nil => exact ⟨fun i level hi => (by cases hi), List.pairwise_singleton _ _⟩
  | cons level rest ih =>
    obtain ⟨hplace, hrest⟩ := refuse_bind_eq_ok.1 h
    obtain ⟨hplaced, hgrowing⟩ := ih hrest
    simp only [Misplaced, not_or, not_not, UInt64.not_le, UInt64.not_lt] at hplace
    -- an index in its place is a new one: the last check adds nothing
    obtain ⟨-, htouched, habove, hfits, -, hplanned, hindex, -⟩ := hplace
    constructor
    · intro i l hi
      cases i with
      | zero =>
        obtain rfl : level = l := Option.some.inj hi
        exact ⟨hindex, hplanned, htouched.symm, hfits⟩
      | succ i =>
        have := hplaced i l hi
        rwa [Nat.add_right_comm, Nat.add_assoc] at this
    · -- the size before is below this one, and this one below all later ones
      rw [← htouched] at habove hgrowing
      obtain ⟨hlater, -⟩ := List.pairwise_cons.1 hgrowing
      refine List.pairwise_cons.2 ⟨fun size hsize => ?_, hgrowing⟩
      rcases List.mem_cons.1 hsize with rfl | hsize
      · exact habove
      · exact UInt64.lt_trans habove (hlater size hsize)

/-- What the check has established, as far as executions rely on it. -/
structure Sound (p : ProgressivePressurePlan) : Prop where
  generatorId : p.generatorId = incompressibleGeneratorId
  generatorVersion : p.generatorVersion = syntheticGeneratorVersion
  nonempty : p.levels ≠ []
  few : p.levels.length ≤ maxPressureLevels
  sampled : p.sampleIntervalMs ≠ 0
  sampledInHold : p.sampleIntervalMs ≤ p.holdDurationMs
  heldInTime : p.holdDurationMs ≤ p.watchdog.levelTimeoutMs
  short : p.holdDurationMs.toNat ≤ maxPressureDurationMs.toNat
  stops : p.stopPolicy.stopAfterFirstUnsustainable = true
  limited : p.workerMemoryMaxBytes ≠ 0
  placed : ∀ i level, p.levels[i]? = some level → p.WellPlaced i level
  growing : Growing 0 p.levels

/-- The hold is a part of the lifecycle of a level. -/
theorem hold_le_of_perLevelLifecycle {p : ProgressivePressurePlan} {lifecycle : UInt64}
    (h : p.perLevelLifecycle = some lifecycle) : p.holdDurationMs ≤ lifecycle := by
  obtain ⟨withHold, h, hlast⟩ := Option.bind_eq_some_iff.1 h
  obtain ⟨start, -, hhold⟩ := Option.bind_eq_some_iff.1 h
  rw [checkedAdd_eq_some] at hlast hhold
  apply UInt64.le_iff_toNat_le.2
  omega

theorem checkedMul_eq_some {a b c : UInt64} (h : checkedMul a b = some c) :
    a.toNat * b.toNat = c.toNat := by
  obtain ⟨hlt, hproduct⟩ := Option.ite_none_right_eq_some.1 h
  rw [← Option.some.inj hproduct, UInt64.toNat_mul, Nat.mod_eq_of_lt hlt]

/-- The duration of all levels covers that of one. -/
theorem le_plannedDuration {p : ProgressivePressurePlan} {count lifecycle duration : UInt64}
    (hnonempty : p.levels ≠ []) (hfew : p.levels.length ≤ maxPressureLevels)
    (hcount : checkedAdd (UInt64.ofNat p.levels.length) p.refinement.maximumRefinements =
      some count)
    (hduration : checkedMul count lifecycle = some duration) : lifecycle ≤ duration := by
  have hlength : 0 < p.levels.length := List.length_pos_iff.2 hnonempty
  have hsmall : p.levels.length < 2 ^ 64 := lt_of_le_of_lt hfew (by decide)
  rw [checkedAdd_eq_some, UInt64.toNat_ofNat_of_lt' hsmall] at hcount
  apply UInt64.le_iff_toNat_le.2
  rw [← checkedMul_eq_some hduration]
  exact Nat.le_mul_of_pos_left _ (by omega)

theorem validate_ok {p : ProgressivePressurePlan} (h : p.validate = .ok ()) : p.Sound := by
  obtain ⟨hcontract, h⟩ := refuse_bind_eq_ok.1 h
  obtain ⟨hbounded, h⟩ := refuse_bind_eq_ok.1 h
  obtain ⟨lifecycle, hlifecycle, h⟩ := bind_eq_ok.1 h
  obtain ⟨hwatchdog, h⟩ := refuse_bind_eq_ok.1 h
  obtain ⟨count, hcount, h⟩ := bind_eq_ok.1 h
  obtain ⟨duration, hduration, h⟩ := bind_eq_ok.1 h
  obtain ⟨htotal, h⟩ := refuse_bind_eq_ok.1 h
  obtain ⟨hmemory, h⟩ := refuse_bind_eq_ok.1 h
  obtain ⟨hplaced, hgrowing⟩ := validateLevels_ok h
  rw [orError_eq_ok] at hlifecycle hcount hduration
  simp only [ForeignContract, not_or, not_not] at hcontract
  obtain ⟨-, -, -, -, -, hgenerator, hgeneratorVersion, -, -⟩ := hcontract
  simp only [Unbounded, not_or, UInt64.not_lt, Nat.not_lt, Bool.not_eq_false] at hbounded
  obtain ⟨hnonempty, hfew, -, -, -, hmaximum, -, -, hsampled, hinterval, -, -, -, -, -, -, -, -, -,
    -, -, hstops, -⟩ := hbounded
  simp only [not_or, UInt64.not_lt] at hwatchdog htotal hmemory
  have hhold := hold_le_of_perLevelLifecycle hlifecycle
  -- one level fits into the whole experiment, which lasts a quarter of an hour at most
  have hshort : p.holdDurationMs ≤ maxPressureDurationMs :=
    UInt64.le_trans hhold (UInt64.le_trans (le_plannedDuration hnonempty hfew hcount hduration)
      (UInt64.le_trans htotal.1 hmaximum))
  exact
    { generatorId := hgenerator
      generatorVersion := hgeneratorVersion
      nonempty := hnonempty
      few := hfew
      sampled := hsampled
      sampledInHold := hinterval
      heldInTime := UInt64.le_trans hhold hwatchdog
      short := UInt64.le_iff_toNat_le.1 hshort
      stops := hstops
      limited := hmemory.1
      placed := fun i level hi => by simpa using hplaced i level hi
      growing := hgrowing }

/-- The size of the level before, none for the first one. -/
def priorTouchedBytes (p : ProgressivePressurePlan) (level : PlannedPressureLevel) : UInt64 :=
  if level.levelIndex = 0 then 0
  -- an index of the plan
  else ((p.levels[(level.levelIndex - 1).toNat]?).map PlannedPressureLevel.targetTouchedBytes).getD 0

/-- Before the first level nothing is touched. -/
theorem Sound.prior_first {p : ProgressivePressurePlan} (h : p.Sound) {level : PlannedPressureLevel}
    (hlevel : p.levels[0]? = some level) : p.priorTouchedBytes level = 0 := by
  have hindex := (h.placed 0 level hlevel).index
  exact if_pos (UInt64.toNat_inj.1 hindex)

theorem Sound.prior_next {p : ProgressivePressurePlan} (h : p.Sound) {i : ℕ}
    {before level : PlannedPressureLevel} (hbefore : p.levels[i]? = some before)
    (hlevel : p.levels[i + 1]? = some level) :
    p.priorTouchedBytes level = before.targetTouchedBytes := by
  have hindex := (h.placed (i + 1) level hlevel).index
  have hne : level.levelIndex ≠ 0 := by
    intro hzero
    rw [hzero] at hindex
    exact absurd hindex (Nat.succ_ne_zero i).symm
  have hone : (1 : UInt64) ≤ level.levelIndex := by
    apply UInt64.le_iff_toNat_le.2
    rw [hindex]
    exact Nat.succ_le_succ (Nat.zero_le i)
  have hprior : (level.levelIndex - 1).toNat = i := by
    rw [UInt64.toNat_sub_of_le _ _ hone, hindex]
    rfl
  rw [priorTouchedBytes, if_neg hne, hprior, hbefore]
  rfl

/-- Every level grows. -/
theorem Sound.prior_lt {p : ProgressivePressurePlan} (h : p.Sound) {i : ℕ}
    {level : PlannedPressureLevel} (hlevel : p.levels[i]? = some level) :
    p.priorTouchedBytes level < level.targetTouchedBytes := by
  obtain ⟨hfirst, hlater⟩ := List.pairwise_cons.1 h.growing
  cases i with
  | zero =>
    rw [h.prior_first hlevel]
    exact hfirst _ (List.mem_map_of_mem (List.mem_of_getElem? hlevel))
  | succ i =>
    obtain ⟨hlt, hat⟩ := List.getElem?_eq_some_iff.1 hlevel
    have hbefore : p.levels[i]? = some p.levels[i] := List.getElem?_eq_getElem (by omega)
    rw [h.prior_next hbefore hlevel, ← hat]
    exact List.pairwise_iff_getElem.1 (List.pairwise_map.1 hlater) i (i + 1) _ hlt (by omega)

end ProgressivePressurePlan

/-! ## §4 Commands -/

/-- The command that takes the worker from `prior` bytes to a level. -/
def levelCommand (experimentId runId : String) (level : PlannedPressureLevel) (prior : UInt64) :
    WorkerLevelCommand where
  protocolVersion := pressureWorkerProtocolVersion
  experimentId := experimentId
  runId := runId
  levelIndex := level.levelIndex
  seed := level.seed
  priorTouchedBytes := prior
  requestedDeltaBytes := level.targetTouchedBytes - prior
  targetTouchedBytes := level.targetTouchedBytes
  generatorId := incompressibleGeneratorId
  generatorVersion := syntheticGeneratorVersion

/-- The command that takes the worker to a level. -/
def commandForLevel (experimentId runId : String) (level : PlannedPressureLevel)
    (priorTouchedBytes : UInt64) : Except String WorkerLevelCommand :=
  if level.targetTouchedBytes < priorTouchedBytes then .error "progressive level cannot shrink"
  else .ok (levelCommand experimentId runId level priorTouchedBytes)

end Nemor.Pressure
