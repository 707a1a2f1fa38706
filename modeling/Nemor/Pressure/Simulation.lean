import Mathlib.Data.List.TakeWhile
import Nemor.Pressure.Evidence

/-!
# Simulated pressure runs

A simulated run goes through the levels of a plan and makes up the record that each outcome would
have left, in place of a worker. Every record has to pass the check of real ones. §2 says when it
does: the simulation counts the whole sample intervals of a hold, the check asks for a sample for
each interval that was begun. §3 is the loop over the levels, §4 what a run then amounts to.
-/

namespace Nemor.Pressure

open Capacity Fallible MachineNumbers

/-! ## §1 The simulation -/

/-- What a simulated level is to show. -/
inductive SimulatedLevelOutcome where
  | sustainable
  | unsustainableHealth (reason : String)
  | safetyAbort (abortClass : SafetyAbortClass)
  | touchedBytesMismatch (actual : UInt64)
  deriving DecidableEq

/-- The name of the class. -/
def SafetyAbortClass.debug : SafetyAbortClass → String
  | .hostPsiEmergency => "HostPsiEmergency"
  | .hostOomDetected => "HostOomDetected"
  | .cgroupOwnershipLost => "CgroupOwnershipLost"
  | .workerIdentityLost => "WorkerIdentityLost"
  | .workerHeartbeatTimeout => "WorkerHeartbeatTimeout"
  | .watchdogTimeout => "WatchdogTimeout"
  | .memoryLimitContractBroken => "MemoryLimitContractBroken"
  | .observerContractBroken => "ObserverContractBroken"
  | .restoreFailure => "RestoreFailure"

/-- The name of the variant. -/
def variantDebug : BenchmarkVariant → String
  | .cachyosBaseline => "CachyosBaseline"
  | .nemorObserve => "NemorObserve"
  | .nemorSafe => "NemorSafe"
  | .nemorGaming => "NemorGaming"
  | .nemorCapacity => "NemorCapacity"
  | .zram => "Zram"
  | .zswap => "Zswap"

namespace SimulatedLevelOutcome

/-- How such a level is classified. -/
def classification : SimulatedLevelOutcome → LevelClassification
  | .sustainable => .sustainable
  | .unsustainableHealth _ => .unsustainableHealth
  | .safetyAbort _ => .safetyAbort
  | .touchedBytesMismatch _ => .invalidLevelEvidence

/-- The reason of an abort, if it is one. -/
def abortClass : SimulatedLevelOutcome → Option SafetyAbortClass
  | .safetyAbort abortClass => some abortClass
  | _ => none

/-- The reason that is recorded. -/
def failureReason : SimulatedLevelOutcome → Option String
  | .sustainable => none
  | .unsustainableHealth reason => some reason
  | .safetyAbort abortClass => some abortClass.debug
  | .touchedBytesMismatch _ => some "worker_level_contract_failure"

/-- How much is touched. -/
def touched (level : PlannedPressureLevel) : SimulatedLevelOutcome → UInt64
  | .touchedBytesMismatch actual => actual
  | _ => level.targetTouchedBytes

end SimulatedLevelOutcome

/-- The gate that an outcome other than a sustainable one fails. -/
def failedGate : Option SafetyAbortClass → HealthGate
  | some .hostPsiEmergency | some .hostOomDetected => .hostPsi
  | some .cgroupOwnershipLost => .cgroupMembership
  | some .workerIdentityLost => .workerIdentity
  | some .workerHeartbeatTimeout => .heartbeatFresh
  | some .watchdogTimeout => .elapsedDuration
  | some .memoryLimitContractBroken => .memoryLimitContract
  | some .observerContractBroken => .observerContract
  | some .restoreFailure => .restoreOwnership
  | none => .workerIntegrity

/-- The name of a simulated run. -/
def simulatedRunId (variant : BenchmarkVariant) (repetitionIndex : UInt64) : String :=
  "simulated-" ++ variantDebug variant ++ "-" ++ toString repetitionIndex

/-- A gate with its simulated result. -/
def simulatedGate (outcome : SimulatedLevelOutcome) (gate : HealthGate) :
    HealthGate × HealthGateResult :=
  let passed := decide (outcome.classification = .sustainable) ||
    decide (gate ≠ failedGate outcome.abortClass)
  (gate,
    { passed := passed
      mandatory := true
      reason := if passed then none else some "simulated outcome" })

section Simulation

variable (plan : ProgressivePressurePlan) (variant : BenchmarkVariant) (repetitionIndex : UInt64)

/-- What the worker would acknowledge. -/
def simulatedAcknowledgement (level : PlannedPressureLevel) (touched : UInt64) :
    WorkerLevelAcknowledgement where
  experimentId := "simulated-3c"
  runId := simulatedRunId variant repetitionIndex
  levelIndex := level.levelIndex
  seed := level.seed
  priorTouchedBytes := plan.priorTouchedBytes level
  requestedDeltaBytes :=
    -- nothing is touched before the first level
    if level.levelIndex = 0 then level.targetTouchedBytes
    else level.targetTouchedBytes - plan.priorTouchedBytes level
  actualTouchedBytes := touched
  workerPid := 4242
  workerStartTicks := 31337
  generatorId := plan.generatorId
  generatorVersion := plan.generatorVersion
  integrityIdentity := "integrity-" ++ toString level.seed ++ "-" ++ toString touched
  acknowledgedMonotonicNs := level.levelIndex * 1000000

/-- The evidence that such a level leaves. -/
def levelEvidence (level : PlannedPressureLevel) (outcome : SimulatedLevelOutcome) :
    LevelEvidence :=
  let touched := outcome.touched level
  let invalid := decide (outcome.classification = .invalidLevelEvidence)
  { version := levelEvidenceVersion
    experimentId := "simulated-3c"
    runId := simulatedRunId variant repetitionIndex
    variant := variant
    repetitionIndex := repetitionIndex
    levelIndex := level.levelIndex
    plannedLogicalBytes := level.targetLogicalBytes
    actualTouchedBytes := touched
    workerAcknowledgement :=
      simulatedAcknowledgement plan variant repetitionIndex level touched
    workerMemoryMaxBytes := plan.workerMemoryMaxBytes
    generatorId := plan.generatorId
    generatorVersion := plan.generatorVersion
    workloadIdentity := "workload-" ++ toString level.seed ++ "-" ++ toString touched
    payloadIntegrityIdentity := "integrity-" ++ toString level.seed ++ "-" ++ toString touched
    startedMonotonicNs := level.levelIndex * 1000000
    endedMonotonicNs :=
      level.levelIndex * 1000000 + (if invalid then 1 else plan.holdDurationMs * 1000000)
    stabilizationCompletedMs := if invalid then 0 else plan.stabilizationDurationMs
    durationMs := if invalid then 0 else plan.holdDurationMs
    -- rounded down, where the check of the record rounds up
    sampleCount := if invalid then 0 else max (plan.holdDurationMs / plan.sampleIntervalMs) 1
    rawSamples := []
    memoryMeanBytes := some (F64.ofU64 touched)
    memoryPeakBytes := some touched
    metrics := [
      .measured "memory_psi_some_total" (.finite 1) "microseconds" .workerCgroup "memory.pressure",
      .unavailable "energy" "joules" .host "powercap" "not available in deterministic simulation"]
    majorFaultDelta := some 0
    swapInBytesDelta := some 0
    swapOutBytesDelta := some 0
    blockWriteBytesDelta := some 0
    watchdogTriggered := decide (outcome.abortClass = some .watchdogTimeout)
    oom := if outcome.abortClass = some .hostOomDetected then 1 else 0
    oomKill := 0
    healthGates := (requiredLevelHealthGates variant).map (simulatedGate outcome)
    classification := outcome.classification
    safetyAbort := outcome.abortClass
    failureReason := outcome.failureReason }

/-- What a run has gathered so far. -/
structure SimulatedProgress where
  evidence : List LevelEvidence
  plannedLevels : List PlannedPressureLevel
  stoppedReason : String

/-- The level in another state. -/
def PlannedPressureLevel.mark (state : PlannedLevelState) (level : PlannedPressureLevel) :
    PlannedPressureLevel :=
  { level with state := state }

/-- The run ends after such a level. -/
def ProgressivePressurePlan.stopsAfter : LevelClassification → Bool
  | .sustainable => false
  | .unsustainableHealth => plan.stopPolicy.stopAfterFirstUnsustainable
  | .invalidLevelEvidence | .safetyAbort => true

/-- The state of the level itself. -/
def completedState : LevelClassification → PlannedLevelState
  | .sustainable => .completedSustainable
  | .unsustainableHealth => .completedUnsustainable
  | .invalidLevelEvidence => .invalidLevelEvidence
  | .safetyAbort => .safetyAbort

/-- The state of the levels after it. -/
def laterState : LevelClassification → PlannedLevelState
  | .unsustainableHealth => .notExecutedAfterUnsustainable
  | .invalidLevelEvidence => .notExecutedAfterInvalid
  | .safetyAbort => .notExecutedAfterSafetyAbort
  -- a sustainable level does not stop
  | .sustainable => .planned

/-- Levels without an outcome are sustainable. -/
def outcomeOf (outcomes : UInt64 → Option SimulatedLevelOutcome) (level : PlannedPressureLevel) :
    SimulatedLevelOutcome :=
  (outcomes level.levelIndex).getD .sustainable

variable (outcomes : UInt64 → Option SimulatedLevelOutcome)

/-- Level after level, until one ends the run. -/
def simulateLevels : List PlannedPressureLevel → SimulatedProgress →
    Except String SimulatedProgress
  | [], progress => .ok progress
  | level :: rest, progress => do
    let result := levelEvidence plan variant repetitionIndex level (outcomeOf outcomes level)
    result.validate level plan
    let executed := progress.plannedLevels.modify level.levelIndex.toNat
      (PlannedPressureLevel.mark (completedState result.classification))
    -- a sustainable level has no reason and keeps the one before
    let stoppedReason := result.failureReason.getD progress.stoppedReason
    if plan.stopsAfter result.classification then
      .ok
        { evidence := progress.evidence ++ [result]
          plannedLevels := executed.take (level.levelIndex.toNat + 1) ++
            (executed.drop (level.levelIndex.toNat + 1)).map
              (PlannedPressureLevel.mark (laterState result.classification))
          stoppedReason := stoppedReason }
    else
      simulateLevels rest
        { evidence := progress.evidence ++ [result]
          plannedLevels := executed
          stoppedReason := stoppedReason }

end Simulation

/-- The evidence of a run. -/
structure ProgressiveRunEvidence where
  experimentId : String
  runId : String
  variant : BenchmarkVariant
  repetitionIndex : UInt64
  plannedLevels : List PlannedPressureLevel
  levels : List LevelEvidence
  highestTestedSustainableBytes : Option UInt64
  lowestTestedUnsustainableBytes : Option UInt64
  refinementEligible : Bool
  invalidLevelEvidence : Bool
  safetyAbort : Option SafetyAbortClass
  stoppedReason : String
  capacity : CapacityResult

/-- There is a bracket to refine. -/
def planRefinementEligible (safetyAbort : Option SafetyAbortClass) (invalidLevelEvidence : Bool) :
    Option UInt64 → Option UInt64 → Bool
  | some lo, some hi => safetyAbort.isNone && !invalidLevelEvidence && decide (lo < hi)
  | _, _ => false

/-- The largest load that was sustained. -/
def highestSustainable (levels : List LevelEvidence) : Option UInt64 :=
  ((levels.filter fun level => level.classification = .sustainable).map
    LevelEvidence.actualTouchedBytes).max?

/-- The smallest load that was not, of those that were reached. -/
def lowestUnsustainable (levels : List LevelEvidence) : Option UInt64 :=
  ((levels.filter fun level => level.classification = .unsustainableHealth ∧
    level.actualTouchedBytes = level.plannedLogicalBytes).map
      LevelEvidence.plannedLogicalBytes).min?

/-- The evidence of a run, from its levels. -/
def summarize (digest : CapacityDigest) (experimentId runId : String) (variant : BenchmarkVariant)
    (repetitionIndex : UInt64) (plannedLevels : List PlannedPressureLevel)
    (levels : List LevelEvidence) (stoppedReason : String) : ProgressiveRunEvidence :=
  let highest := highestSustainable levels
  let lowest := lowestUnsustainable levels
  let safetyAbort := levels.findSome? LevelEvidence.safetyAbort
  let invalid := levels.any fun level => level.classification = .invalidLevelEvidence
  { experimentId := experimentId
    runId := runId
    variant := variant
    repetitionIndex := repetitionIndex
    plannedLevels := plannedLevels
    levels := levels
    highestTestedSustainableBytes := highest
    lowestTestedUnsustainableBytes := lowest
    refinementEligible := planRefinementEligible safetyAbort invalid highest lowest
    invalidLevelEvidence := invalid
    safetyAbort := safetyAbort
    stoppedReason := stoppedReason
    capacity := .fromSummary digest highest lowest false safetyAbort }

/-- `simulate_pressure_run`. -/
def simulatePressureRun (digest : CapacityDigest) (plan : ProgressivePressurePlan)
    (variant : BenchmarkVariant) (repetitionIndex : UInt64)
    (outcomes : UInt64 → Option SimulatedLevelOutcome) : Except String ProgressiveRunEvidence := do
  plan.validate
  let progress ← simulateLevels plan variant repetitionIndex outcomes plan.levels
    { evidence := [], plannedLevels := plan.levels, stoppedReason := "all_planned_levels_completed" }
  .ok (summarize digest "simulated-3c" (simulatedRunId variant repetitionIndex) variant
    repetitionIndex progress.plannedLevels progress.evidence progress.stoppedReason)

/-! ## §2 When a made-up record passes -/

/-- As many samples as intervals begun are as many as whole intervals exactly when the intervals
    fill the hold. -/
theorem div_lt_ceilDiv_iff {hold interval : ℕ} (hpos : 0 < interval) (hle : interval ≤ hold) :
    max (hold / interval) 1 < (hold + (interval - 1)) / interval ↔ ¬ interval ∣ hold := by
  have hone : 1 ≤ hold / interval := (Nat.one_le_div_iff hpos).2 hle
  rw [Nat.max_eq_left hone, Nat.dvd_iff_mod_eq_zero]
  have hsplit := Nat.div_add_mod hold interval
  have hrest := Nat.mod_lt hold hpos
  -- the hold is a number of whole intervals and a rest
  have hsum : hold + (interval - 1) = (hold % interval + (interval - 1)) + interval * (hold / interval) := by
    omega
  rw [hsum, Nat.add_mul_div_left _ _ hpos]
  constructor
  · intro hlt hzero
    have hsmall : (interval - 1) / interval = 0 := Nat.div_eq_of_lt (by omega)
    rw [hzero, Nat.zero_add, hsmall] at hlt
    omega
  · intro hne
    have : 1 ≤ (hold % interval + (interval - 1)) / interval :=
      (Nat.one_le_div_iff hpos).2 (by omega)
    omega

theorem toNat_max (a b : UInt64) : (max a b).toNat = max a.toNat b.toNat := by
  by_cases h : a ≤ b
  · have hmax : max a b = b := if_pos h
    rw [hmax, Nat.max_eq_right (UInt64.le_iff_toNat_le.1 h)]
  · have hmax : max a b = a := if_neg h
    rw [hmax, Nat.max_eq_left]
    exact Nat.le_of_lt (UInt64.lt_iff_toNat_lt.1 (UInt64.not_le.1 h))

section Records

variable {plan : ProgressivePressurePlan} {variant : BenchmarkVariant} {repetitionIndex : UInt64}
  {level : PlannedPressureLevel} {index : ℕ} {outcome : SimulatedLevelOutcome}

/-- The outcome is a mismatch of the touched bytes. -/
def SimulatedLevelOutcome.Mismatch (outcome : SimulatedLevelOutcome) : Prop :=
  outcome.classification = .invalidLevelEvidence

theorem ProgressivePressurePlan.Sound.samples_iff (h : plan.Sound) :
    max (plan.holdDurationMs / plan.sampleIntervalMs) 1 <
        (plan.holdDurationMs + (plan.sampleIntervalMs - 1)) / plan.sampleIntervalMs ↔
      ¬ plan.sampleIntervalMs.toNat ∣ plan.holdDurationMs.toNat := by
  have hpos : 0 < plan.sampleIntervalMs.toNat := by
    apply Nat.pos_of_ne_zero
    intro hzero
    exact h.sampled (UInt64.toNat_inj.1 hzero)
  have hle := UInt64.le_iff_toNat_le.1 h.sampledInHold
  have hshort : plan.holdDurationMs.toNat ≤ 900000 := h.short
  have hone : (1 : UInt64) ≤ plan.sampleIntervalMs := UInt64.le_iff_toNat_le.2 hpos
  -- nothing wraps: a quarter of an hour is far from the end of the register
  have hsum : (plan.holdDurationMs + (plan.sampleIntervalMs - 1)).toNat =
      plan.holdDurationMs.toNat + (plan.sampleIntervalMs.toNat - 1) := by
    rw [UInt64.toNat_add, UInt64.toNat_sub_of_le _ _ hone]
    exact Nat.mod_eq_of_lt (by simp only [UInt64.reduceToNat]; omega)
  rw [← div_lt_ceilDiv_iff hpos hle, UInt64.lt_iff_toNat_lt, toNat_max, UInt64.toNat_div,
    UInt64.toNat_div, hsum]
  rfl

theorem levelEvidence_not_foreign (h : plan.Sound) :
    ¬ (levelEvidence plan variant repetitionIndex level outcome).Foreign level plan := by
  have hduration : ¬ plan.watchdog.levelTimeoutMs <
      (levelEvidence plan variant repetitionIndex level outcome).durationMs := by
    apply UInt64.not_lt.2
    by_cases hmismatch : outcome.Mismatch
    · simp [levelEvidence, show outcome.classification = _ from hmismatch]
    · simpa [levelEvidence, show outcome.classification ≠ _ from hmismatch] using h.heldInTime
  simp only [LevelEvidence.Foreign, not_or]
  refine ⟨?_, ?_, ?_, ?_, ?_, ?_, hduration, ?_, ?_⟩ <;> simp [levelEvidence]

/-- The times of a record: a moment, or the hold, after its start. -/
theorem levelEvidence_elapsed (h : plan.Sound) (hlevel : plan.levels[index]? = some level) :
    (levelEvidence plan variant repetitionIndex level outcome).endedMonotonicNs.toNat =
      (levelEvidence plan variant repetitionIndex level outcome).startedMonotonicNs.toNat +
        (if outcome.classification = .invalidLevelEvidence then 1
          else plan.holdDurationMs.toNat * 1000000) := by
  have hindex := (h.placed index level hlevel).index
  have hcount := (List.getElem?_eq_some_iff.1 hlevel).1
  have hfew : plan.levels.length ≤ 12 := h.few
  have hshort : plan.holdDurationMs.toNat ≤ 900000 := h.short
  -- twelve levels and a quarter of an hour: the products do not wrap
  have hstart : (level.levelIndex * 1000000).toNat = index * 1000000 := by
    rw [UInt64.toNat_mul, hindex]
    exact Nat.mod_eq_of_lt (by simp only [UInt64.reduceToNat]; omega)
  have hhold : (plan.holdDurationMs * 1000000).toNat = plan.holdDurationMs.toNat * 1000000 := by
    rw [UInt64.toNat_mul]
    exact Nat.mod_eq_of_lt (by simp only [UInt64.reduceToNat]; omega)
  by_cases hinvalid : outcome.classification = .invalidLevelEvidence
  · simp only [levelEvidence, hinvalid, decide_true, if_true]
    rw [UInt64.toNat_add, hstart]
    exact Nat.mod_eq_of_lt (by simp only [UInt64.reduceToNat]; omega)
  · simp only [levelEvidence, hinvalid, decide_false, if_false, Bool.false_eq_true]
    rw [UInt64.toNat_add, hstart, hhold]
    exact Nat.mod_eq_of_lt (by omega)

theorem levelEvidence_acknowledged (h : plan.Sound) (hlevel : plan.levels[index]? = some level) :
    (levelEvidence plan variant repetitionIndex level outcome).workerAcknowledgement.validate
      (levelEvidence plan variant repetitionIndex level outcome) level
        (plan.priorTouchedBytes level) = .ok () := by
  have hgrows := UInt64.le_of_lt (h.prior_lt hlevel)
  -- before the first level nothing is touched, so the two branches agree
  have hdelta : (if level.levelIndex = 0 then level.targetTouchedBytes
      else level.targetTouchedBytes - plan.priorTouchedBytes level) =
        level.targetTouchedBytes - plan.priorTouchedBytes level := by
    by_cases hzero : level.levelIndex = 0
    · simp [ProgressivePressurePlan.priorTouchedBytes, hzero]
    · rw [if_neg hzero]
  have hpid : (4242 : UInt32) ≠ 0 := by decide
  have hticks : (31337 : UInt64) ≠ 0 := by decide
  refine passes_of_fields hgrows rfl rfl rfl hdelta hpid hticks _ ?_
  exact ⟨rfl, rfl, rfl, rfl, rfl, UInt64.le_refl _⟩

theorem simulatedGate_keys (gates : List HealthGate) :
    (gates.map (simulatedGate outcome)).map Prod.fst = gates := by
  simp [Function.comp_def, simulatedGate]

theorem levelEvidence_complete :
    ¬ (levelEvidence plan variant repetitionIndex level .sustainable).Incomplete level := by
  simp only [LevelEvidence.Incomplete, not_or]
  refine ⟨not_not.2 (simulatedGate_keys _), ?_, ?_, ?_, ?_, ?_⟩ <;>
    simp [levelEvidence, SimulatedLevelOutcome.touched, SimulatedLevelOutcome.abortClass,
      SimulatedLevelOutcome.classification, simulatedGate]

theorem levelEvidence_classified :
    (levelEvidence plan variant repetitionIndex level outcome).validateClassification level =
      .ok () := by
  unfold LevelEvidence.validateClassification
  refine refuse_bind_eq_ok.2 ⟨?_, refuse_bind_eq_ok.2 ⟨?_, refuse_bind_eq_ok.2
    ⟨?_, refuse_eq_ok.2 ?_⟩⟩⟩
  · rintro ⟨hclass, hincomplete⟩
    cases outcome with
    | sustainable => exact levelEvidence_complete hincomplete
    | _ => cases hclass
  · rintro ⟨hclass, hoff⟩
    cases outcome with
    | unsustainableHealth reason => exact hoff rfl
    | _ => cases hclass
  · rintro ⟨hclass, hnone⟩
    cases outcome with
    | safetyAbort abortClass => cases hnone
    | _ => cases hclass
  · rintro ⟨hclass, hsome⟩
    cases outcome with
    | safetyAbort abortClass => exact hclass rfl
    | _ => exact hsome rfl

/-- The time between start and end of a record. -/
theorem levelEvidence_elapsedNs (h : plan.Sound) (hlevel : plan.levels[index]? = some level) :
    ∃ elapsed, checkedSub
        (levelEvidence plan variant repetitionIndex level outcome).endedMonotonicNs
        (levelEvidence plan variant repetitionIndex level outcome).startedMonotonicNs =
          some elapsed ∧
      elapsed.toNat = if outcome.classification = .invalidLevelEvidence then 1
        else plan.holdDurationMs.toNat * 1000000 := by
  have helapsed := @levelEvidence_elapsed plan variant repetitionIndex level index outcome h hlevel
  have hle : (levelEvidence plan variant repetitionIndex level outcome).startedMonotonicNs ≤
      (levelEvidence plan variant repetitionIndex level outcome).endedMonotonicNs := by
    apply UInt64.le_iff_toNat_le.2
    rw [helapsed]
    exact Nat.le_add_right _ _
  refine ⟨_, if_pos hle, ?_⟩
  rw [UInt64.toNat_sub_of_le _ _ hle, helapsed, Nat.add_sub_cancel_left]

/-- The hold is covered exactly when it is not claimed, or filled by its sample intervals. -/
theorem levelEvidence_covered_iff (h : plan.Sound) (hlevel : plan.levels[index]? = some level) :
    (levelEvidence plan variant repetitionIndex level outcome).validateCoverage plan = .ok () ↔
      outcome.Mismatch ∨ plan.sampleIntervalMs.toNat ∣ plan.holdDurationMs.toNat := by
  obtain ⟨elapsed, hsub, helapsed⟩ :=
    @levelEvidence_elapsedNs plan variant repetitionIndex level index outcome h hlevel
  have hshort : plan.holdDurationMs.toNat ≤ 900000 := h.short
  have hinterval := UInt64.le_iff_toNat_le.1 h.sampledInHold
  have hadd : checkedAdd plan.holdDurationMs (plan.sampleIntervalMs - 1) =
      some (plan.holdDurationMs + (plan.sampleIntervalMs - 1)) := by
    apply if_pos
    have hone : (1 : UInt64) ≤ plan.sampleIntervalMs := by
      apply UInt64.le_iff_toNat_le.2
      exact Nat.pos_of_ne_zero fun hzero => h.sampled (UInt64.toNat_inj.1 hzero)
    rw [UInt64.toNat_sub_of_le _ _ hone]
    omega
  unfold LevelEvidence.validateCoverage
  rw [hsub, hadd]
  simp only [orError, bind, Except.bind]
  by_cases hinvalid : outcome.classification = .invalidLevelEvidence
  · -- a record that claims no hold is not asked for one
    have hclass : ¬ (levelEvidence plan variant repetitionIndex level outcome).classification ≠
        .invalidLevelEvidence := not_not.2 hinvalid
    rw [if_neg hclass, refuse_eq_ok]
    refine iff_of_true ?_ (.inl hinvalid)
    simp [levelEvidence, hinvalid]
  · have hclass : (levelEvidence plan variant repetitionIndex level outcome).classification ≠
        .invalidLevelEvidence := hinvalid
    rw [if_pos hclass, refuse_eq_ok]
    -- the record and the clock both say that the hold took its time: the samples decide
    have hms : elapsed / 1000000 = plan.holdDurationMs := by
      apply UInt64.toNat_inj.1
      rw [UInt64.toNat_div, helapsed, if_neg hinvalid]
      exact Nat.mul_div_cancel _ (by decide)
    have hduration : (levelEvidence plan variant repetitionIndex level outcome).durationMs =
        plan.holdDurationMs := by
      simp [levelEvidence, hinvalid]
    have hsamples : (levelEvidence plan variant repetitionIndex level outcome).sampleCount =
        max (plan.holdDurationMs / plan.sampleIntervalMs) 1 := by
      simp [levelEvidence, hinvalid]
    have hlong : ¬ plan.holdDurationMs <
        plan.holdDurationMs - min plan.sampleIntervalMs plan.holdDurationMs := by
      have hmin : min plan.sampleIntervalMs plan.holdDurationMs = plan.sampleIntervalMs :=
        if_pos h.sampledInHold
      rw [hmin, UInt64.lt_iff_toNat_lt, UInt64.toNat_sub_of_le _ _ h.sampledInHold]
      omega
    have hagrees : ¬ plan.sampleIntervalMs <
        LevelEvidence.absDiff plan.holdDurationMs plan.holdDurationMs := by
      simp [LevelEvidence.absDiff]
    rw [hms, hduration, hsamples, h.samples_iff]
    simp [hlong, hagrees, SimulatedLevelOutcome.Mismatch, hinvalid]

/-- **Made-up records.** The record of a planned level passes its check exactly when it is one of
    a mismatch, or the sample intervals of the plan fill the hold. -/
theorem levelEvidence_valid_iff (h : plan.Sound) (hlevel : plan.levels[index]? = some level) :
    (levelEvidence plan variant repetitionIndex level outcome).validate level plan = .ok () ↔
      outcome.Mismatch ∨ plan.sampleIntervalMs.toNat ∣ plan.holdDurationMs.toNat := by
  have hended : ¬ (levelEvidence plan variant repetitionIndex level outcome).endedMonotonicNs ≤
      (levelEvidence plan variant repetitionIndex level outcome).startedMonotonicNs := by
    have hpos : 0 < plan.holdDurationMs.toNat :=
      Nat.lt_of_lt_of_le
        (Nat.pos_of_ne_zero fun hzero => h.sampled (UInt64.toNat_inj.1 hzero))
        (UInt64.le_iff_toNat_le.1 h.sampledInHold)
    rw [UInt64.le_iff_toNat_le, levelEvidence_elapsed h hlevel]
    split <;> omega
  have hstable : (levelEvidence plan variant repetitionIndex level outcome).validateStabilization
      plan = .ok () := by
    by_cases hinvalid : outcome.classification = .invalidLevelEvidence
    · simp [LevelEvidence.validateStabilization, levelEvidence, hinvalid, refuse]
    · simp [LevelEvidence.validateStabilization, levelEvidence, hinvalid, refuse]
  have hraw : ¬ ((levelEvidence plan variant repetitionIndex level outcome).rawSamples ≠ [] ∧
      (levelEvidence plan variant repetitionIndex level outcome).rawSamples.length ≠
        (levelEvidence plan variant repetitionIndex level outcome).sampleCount.toNat) :=
    fun hnonempty => hnonempty.1 rfl
  rw [← @levelEvidence_covered_iff plan variant repetitionIndex level index outcome h hlevel]
  unfold LevelEvidence.validate
  rw [refuse_bind_eq_ok, bind_eq_ok]
  -- of the checks only the one of the coverage can fail
  constructor
  · rintro ⟨-, -, -, hrest⟩
    rw [refuse_bind_eq_ok, bind_eq_ok] at hrest
    obtain ⟨-, -, -, hrest⟩ := hrest
    rw [refuse_bind_eq_ok, bind_eq_ok] at hrest
    obtain ⟨-, _, hcovered, -⟩ := hrest
    exact hcovered
  · intro hcovered
    refine ⟨levelEvidence_not_foreign h, (), hstable, refuse_bind_eq_ok.2 ⟨hended, bind_eq_ok.2
      ⟨(), levelEvidence_acknowledged h hlevel, refuse_bind_eq_ok.2 ⟨not_not.2 rfl, bind_eq_ok.2
        ⟨(), hcovered, refuse_bind_eq_ok.2 ⟨hraw, levelEvidence_classified⟩⟩⟩⟩⟩⟩

end Records

/-! ## §3 The levels of a run -/

/-- The level is sustainable. -/
def sustains (outcomes : UInt64 → Option SimulatedLevelOutcome) (level : PlannedPressureLevel) :
    Bool :=
  decide ((outcomeOf outcomes level).classification = .sustainable)

/-- The levels up to the first one that is not sustainable, with that one. -/
def executedLevels (outcomes : UInt64 → Option SimulatedLevelOutcome)
    (levels : List PlannedPressureLevel) : List PlannedPressureLevel :=
  levels.takeWhile (sustains outcomes) ++ (levels.dropWhile (sustains outcomes)).take 1

/-- The levels with what became of them: sustainable ones, the first other one, and those after
    it, which are not executed because of it. -/
def markedLevels (outcomes : UInt64 → Option SimulatedLevelOutcome)
    (levels : List PlannedPressureLevel) : List PlannedPressureLevel :=
  (levels.takeWhile (sustains outcomes)).map (.mark .completedSustainable) ++
    match levels.dropWhile (sustains outcomes) with
    | [] => []
    | level :: later =>
      level.mark (completedState (outcomeOf outcomes level).classification) ::
        later.map (.mark (laterState (outcomeOf outcomes level).classification))

section Levels

variable {plan : ProgressivePressurePlan} {variant : BenchmarkVariant} {repetitionIndex : UInt64}
  {outcomes : UInt64 → Option SimulatedLevelOutcome} {level : PlannedPressureLevel}
  {levels rest done : List PlannedPressureLevel} {progress : SimulatedProgress} {index : ℕ}

/-- The record that a level gets. -/
abbrev recordOf (plan : ProgressivePressurePlan) (variant : BenchmarkVariant)
    (repetitionIndex : UInt64) (outcomes : UInt64 → Option SimulatedLevelOutcome)
    (level : PlannedPressureLevel) : LevelEvidence :=
  levelEvidence plan variant repetitionIndex level (outcomeOf outcomes level)

theorem modify_append_cons {α : Type} (f : α → α) (xs : List α) (x : α) (ys : List α) :
    (xs ++ x :: ys).modify xs.length f = xs ++ f x :: ys := by
  induction xs with
  | nil => rfl
  | cons y xs ih => simp [List.modify_succ_cons, ih]

theorem take_append_map_drop {α : Type} (f : α → α) (xs : List α) (x : α) (ys : List α) :
    (xs ++ x :: ys).take (xs.length + 1) ++ ((xs ++ x :: ys).drop (xs.length + 1)).map f =
      xs ++ x :: ys.map f := by
  have hsplit : xs ++ x :: ys = (xs ++ [x]) ++ ys := by simp
  have hlength : (xs ++ [x]).length = xs.length + 1 := by simp
  rw [hsplit, List.take_left' hlength, List.drop_left' hlength]
  simp

/-- A plan that has passed stops after every level that is not sustainable. -/
theorem ProgressivePressurePlan.Sound.stopsAfter_iff (h : plan.Sound)
    {classification : LevelClassification} :
    plan.stopsAfter classification = true ↔ classification ≠ .sustainable := by
  cases classification <;> simp [ProgressivePressurePlan.stopsAfter, h.stops]

/-- A level is recorded and marked, and then the run ends or goes on. -/
theorem simulateLevels_recorded (hindex : level.levelIndex.toNat = done.length)
    (hplanned : progress.plannedLevels = done ++ level :: rest)
    (hvalid : (recordOf plan variant repetitionIndex outcomes level).validate level plan = .ok ()) :
    ∃ reason, simulateLevels plan variant repetitionIndex outcomes (level :: rest) progress =
      if plan.stopsAfter (recordOf plan variant repetitionIndex outcomes level).classification then
        .ok
          { evidence := progress.evidence ++ [recordOf plan variant repetitionIndex outcomes level]
            plannedLevels := done ++
              level.mark (completedState (outcomeOf outcomes level).classification) ::
                rest.map (.mark (laterState (outcomeOf outcomes level).classification))
            stoppedReason := reason }
      else
        simulateLevels plan variant repetitionIndex outcomes rest
          { evidence := progress.evidence ++ [recordOf plan variant repetitionIndex outcomes level]
            plannedLevels := done ++
              level.mark (completedState (outcomeOf outcomes level).classification) :: rest
            stoppedReason := reason } := by
  refine ⟨(recordOf plan variant repetitionIndex outcomes level).failureReason.getD
    progress.stoppedReason, ?_⟩
  rw [simulateLevels, hvalid, hindex, hplanned, modify_append_cons]
  simp only [bind, Except.bind, take_append_map_drop]
  rfl

/-- A sustainable level is recorded and marked, and the run goes on. -/
theorem simulateLevels_sustains (hplan : plan.Sound) (hstays : sustains outcomes level = true)
    (hindex : level.levelIndex.toNat = done.length)
    (hplanned : progress.plannedLevels = done ++ level :: rest)
    (hvalid : (recordOf plan variant repetitionIndex outcomes level).validate level plan = .ok ()) :
    ∃ reason, simulateLevels plan variant repetitionIndex outcomes (level :: rest) progress =
      simulateLevels plan variant repetitionIndex outcomes rest
        { evidence := progress.evidence ++ [recordOf plan variant repetitionIndex outcomes level]
          plannedLevels := done ++ level.mark .completedSustainable :: rest
          stoppedReason := reason } := by
  have hclass : (recordOf plan variant repetitionIndex outcomes level).classification =
      .sustainable := of_decide_eq_true hstays
  have hgoes : ¬ plan.stopsAfter (recordOf plan variant repetitionIndex outcomes
      level).classification = true := by
    rw [hplan.stopsAfter_iff, not_not]
    exact hclass
  obtain ⟨reason, hrun⟩ := simulateLevels_recorded hindex hplanned hvalid
  refine ⟨reason, ?_⟩
  rw [hrun, if_neg hgoes, show (outcomeOf outcomes level).classification = .sustainable from hclass]
  rfl

/-- Any other level is recorded and marked, with all levels after it, and ends the run. -/
theorem simulateLevels_stops (hplan : plan.Sound) (hends : sustains outcomes level = false)
    (hindex : level.levelIndex.toNat = done.length)
    (hplanned : progress.plannedLevels = done ++ level :: rest)
    (hvalid : (recordOf plan variant repetitionIndex outcomes level).validate level plan = .ok ()) :
    ∃ reason, simulateLevels plan variant repetitionIndex outcomes (level :: rest) progress =
      .ok
        { evidence := progress.evidence ++ [recordOf plan variant repetitionIndex outcomes level]
          plannedLevels := done ++
            level.mark (completedState (outcomeOf outcomes level).classification) ::
              rest.map (.mark (laterState (outcomeOf outcomes level).classification))
          stoppedReason := reason } := by
  have hstop : plan.stopsAfter (recordOf plan variant repetitionIndex outcomes
      level).classification = true := by
    rw [hplan.stopsAfter_iff]
    exact of_decide_eq_false hends
  obtain ⟨reason, hrun⟩ := simulateLevels_recorded hindex hplanned hvalid
  exact ⟨reason, by rw [hrun, if_pos hstop]⟩

theorem executedLevels_of_sustains (h : sustains outcomes level = true) :
    executedLevels outcomes (level :: rest) = level :: executedLevels outcomes rest := by
  simp [executedLevels, h]

theorem executedLevels_of_ends (h : sustains outcomes level = false) :
    executedLevels outcomes (level :: rest) = [level] := by
  simp [executedLevels, h]

theorem markedLevels_of_sustains (h : sustains outcomes level = true) :
    markedLevels outcomes (level :: rest) =
      level.mark .completedSustainable :: markedLevels outcomes rest := by
  simp [markedLevels, h]

theorem markedLevels_of_ends (h : sustains outcomes level = false) :
    markedLevels outcomes (level :: rest) =
      level.mark (completedState (outcomeOf outcomes level).classification) ::
        rest.map (.mark (laterState (outcomeOf outcomes level).classification)) := by
  simp [markedLevels, h]

/-- **The loop.** If all records up to the end of the run pass, the run records the executed
    levels and marks all of them. -/
theorem simulateLevels_ok (hplan : plan.Sound) (hlevels : plan.levels.drop index = levels)
    (hdone : done.length = index) (hplanned : progress.plannedLevels = done ++ levels)
    (hvalid : ∀ level ∈ executedLevels outcomes levels,
      (recordOf plan variant repetitionIndex outcomes level).validate level plan = .ok ()) :
    ∃ reason, simulateLevels plan variant repetitionIndex outcomes levels progress =
      .ok
        { evidence := progress.evidence ++
            (executedLevels outcomes levels).map (recordOf plan variant repetitionIndex outcomes)
          plannedLevels := done ++ markedLevels outcomes levels
          stoppedReason := reason } := by
  induction levels generalizing index done progress with
  | nil =>
    refine ⟨progress.stoppedReason, ?_⟩
    simp [simulateLevels, executedLevels, markedLevels, ← hplanned]
  | cons level rest ih =>
    have hat : plan.levels[index]? = some level := Log.getElem?_of_drop hlevels
    have hrest : plan.levels.drop (index + 1) = rest := Log.drop_succ_of_drop hlevels
    have hindex : level.levelIndex.toNat = done.length := by
      rw [hdone]
      exact (hplan.placed index level hat).index
    cases hstays : sustains outcomes level with
    | true =>
      rw [executedLevels_of_sustains hstays] at hvalid ⊢
      obtain ⟨kept, hstep⟩ := simulateLevels_sustains hplan hstays hindex hplanned
        (hvalid level List.mem_cons_self)
      rw [hstep, markedLevels_of_sustains hstays]
      -- the marked level joins the ones that are done
      have hlonger : (done ++ [level.mark .completedSustainable]).length = index + 1 := by
        simp [hdone]
      have hsplit : ({
          evidence := progress.evidence ++ [recordOf plan variant repetitionIndex outcomes level]
          plannedLevels := done ++ level.mark .completedSustainable :: rest
          stoppedReason := kept } : SimulatedProgress).plannedLevels =
          (done ++ [level.mark .completedSustainable]) ++ rest := by
        simp
      obtain ⟨reason, hrun⟩ := ih hrest hlonger hsplit
        (fun l hl => hvalid l (List.mem_cons_of_mem _ hl))
      refine ⟨reason, ?_⟩
      rw [hrun]
      simp
    | false =>
      rw [executedLevels_of_ends hstays] at hvalid ⊢
      rw [markedLevels_of_ends hstays]
      exact simulateLevels_stops hplan hstays hindex hplanned
        (hvalid level (List.mem_singleton_self level))

end Levels

/-! ## §4 What a run amounts to -/

theorem mem_of_max? {values : List UInt64} {a : UInt64} (h : values.max? = some a) : a ∈ values := by
  -- no instance for machine words comes with the library; their `max` is an `if`
  have : Std.MaxEqOr UInt64 := ⟨fun a b => by
    by_cases hle : a ≤ b
    · exact .inr (if_pos hle)
    · exact .inl (if_neg hle)⟩
  exact List.max?_mem h

theorem mem_of_min? {values : List UInt64} {a : UInt64} (h : values.min? = some a) : a ∈ values := by
  have : Std.MinEqOr UInt64 := ⟨fun a b => by
    by_cases hle : a ≤ b
    · exact .inl (if_pos hle)
    · exact .inr (if_neg hle)⟩
  exact List.min?_mem h

/-- What the run says about the plan: the levels up to the first one that is not sustainable are
    recorded, the later ones are marked as not executed for that reason, every sustainable size
    is below every unsustainable one, and the capacity agrees with the records. -/
structure Accounts (digest : CapacityDigest) (plan : ProgressivePressurePlan)
    (variant : BenchmarkVariant) (repetitionIndex : UInt64)
    (outcomes : UInt64 → Option SimulatedLevelOutcome) (run : ProgressiveRunEvidence) : Prop where
  levels : run.levels =
    (executedLevels outcomes plan.levels).map (recordOf plan variant repetitionIndex outcomes)
  planned : run.plannedLevels = markedLevels outcomes plan.levels
  bracket : ∀ lo hi, run.highestTestedSustainableBytes = some lo →
    run.lowestTestedUnsustainableBytes = some hi → lo < hi
  capacity : run.capacity.validate digest run.levels = .ok ()

section Runs

variable {digest : CapacityDigest} {plan : ProgressivePressurePlan} {variant : BenchmarkVariant}
  {repetitionIndex : UInt64} {outcomes : UInt64 → Option SimulatedLevelOutcome}

/-- A level that ends the run is larger than all sustainable ones. -/
theorem ProgressivePressurePlan.Sound.sustained_lt (h : plan.Sound)
    {level stopped : PlannedPressureLevel} (hlevel : level ∈ executedLevels outcomes plan.levels)
    (hstays : sustains outcomes level = true)
    (hstopped : stopped ∈ executedLevels outcomes plan.levels)
    (hends : sustains outcomes stopped = false) :
    level.targetTouchedBytes < stopped.targetTouchedBytes := by
  have hgrowing := (List.pairwise_cons.1 h.growing).2
  rw [List.pairwise_map, ← List.takeWhile_append_dropWhile (p := sustains outcomes) (l := plan.levels)]
    at hgrowing
  -- sustainable levels come before the first other one, and the sizes grow
  obtain ⟨-, -, hcross⟩ := List.pairwise_append.1 hgrowing
  apply hcross
  · rcases List.mem_append.1 hlevel with hmem | hmem
    · exact hmem
    · -- the level after the sustainable ones is not one of them
      cases hdrop : plan.levels.dropWhile (sustains outcomes) with
      | nil =>
        rw [hdrop] at hmem
        cases hmem
      | cons first later =>
        have hfirst := List.head?_dropWhile_not (sustains outcomes) plan.levels
        rw [hdrop] at hmem hfirst
        obtain rfl : level = first := by simpa using hmem
        simp [hstays] at hfirst
  · rcases List.mem_append.1 hstopped with hmem | hmem
    · rw [List.mem_takeWhile_imp hmem] at hends
      cases hends
    · exact List.mem_of_mem_take hmem

/-- The size of the record of an executed level is that of the level, unless it is a mismatch. -/
theorem recordOf_touched {level : PlannedPressureLevel}
    (h : (outcomeOf outcomes level).classification ≠ .invalidLevelEvidence) :
    (recordOf plan variant repetitionIndex outcomes level).actualTouchedBytes =
      level.targetTouchedBytes := by
  unfold recordOf levelEvidence
  revert h
  cases outcomeOf outcomes level with
  | touchedBytesMismatch actual => exact fun h => absurd rfl h
  | _ => exact fun _ => rfl

theorem mem_of_executed {levels : List PlannedPressureLevel} {level : PlannedPressureLevel}
    (h : level ∈ executedLevels outcomes levels) : level ∈ levels := by
  rw [← List.takeWhile_append_dropWhile (p := sustains outcomes) (l := levels)]
  rcases List.mem_append.1 h with hmem | hmem
  · exact List.mem_append_left _ hmem
  · exact List.mem_append_right _ (List.mem_of_mem_take hmem)

theorem outcomeOf_mismatch_iff {level : PlannedPressureLevel} :
    (outcomeOf outcomes level).Mismatch ↔
      ∃ actual, outcomes level.levelIndex = some (.touchedBytesMismatch actual) := by
  unfold outcomeOf SimulatedLevelOutcome.Mismatch
  cases outcomes level.levelIndex with
  | none => exact ⟨fun h => (by cases h), fun ⟨_, h⟩ => (by cases h)⟩
  | some outcome =>
    cases outcome with
    | touchedBytesMismatch actual => exact ⟨fun _ => ⟨actual, rfl⟩, fun _ => rfl⟩
    | _ => exact ⟨fun h => (by cases h), fun ⟨_, h⟩ => (by cases h)⟩

theorem ProgressivePressurePlan.Sound.planned_logical (h : plan.Sound) {level : PlannedPressureLevel}
    (hlevel : level ∈ executedLevels outcomes plan.levels) :
    level.targetLogicalBytes = level.targetTouchedBytes := by
  obtain ⟨i, hi⟩ := List.getElem?_of_mem (mem_of_executed hlevel)
  exact (h.placed i level hi).logical

theorem sustainable_lt_unsustainable (h : plan.Sound) {lo hi : UInt64}
    (hlo : highestSustainable ((executedLevels outcomes plan.levels).map
      (recordOf plan variant repetitionIndex outcomes)) = some lo)
    (hhi : lowestUnsustainable ((executedLevels outcomes plan.levels).map
      (recordOf plan variant repetitionIndex outcomes)) = some hi) : lo < hi := by
  obtain ⟨record, hrecord, rfl⟩ := List.mem_map.1 (mem_of_max? hlo)
  obtain ⟨other, hother, rfl⟩ := List.mem_map.1 (mem_of_min? hhi)
  obtain ⟨hmem, hclass⟩ := List.mem_filter.1 hrecord
  obtain ⟨hmem', hclass'⟩ := List.mem_filter.1 hother
  obtain ⟨level, hlevel, rfl⟩ := List.mem_map.1 hmem
  obtain ⟨stopped, hstopped, rfl⟩ := List.mem_map.1 hmem'
  have hsustained : (outcomeOf outcomes level).classification = .sustainable :=
    of_decide_eq_true hclass
  have hunsustained : (outcomeOf outcomes stopped).classification = .unsustainableHealth :=
    (of_decide_eq_true hclass').1
  have hlt := h.sustained_lt hlevel (decide_eq_true hsustained) hstopped
    (decide_eq_false (by rw [hunsustained]; exact fun h => (by cases h)))
  rw [recordOf_touched (by rw [hsustained]; exact fun h => (by cases h))]
  rw [← h.planned_logical hstopped] at hlt
  exact hlt

/-- The capacity of a summary agrees with the records: a sustainable record is on its target. -/
theorem summarize_capacity (h : plan.Sound) (experimentId runId : String)
    (plannedLevels : List PlannedPressureLevel) (reason : String) :
    (summarize digest experimentId runId variant repetitionIndex plannedLevels
      ((executedLevels outcomes plan.levels).map (recordOf plan variant repetitionIndex outcomes))
        reason).capacity.validate digest
      ((executedLevels outcomes plan.levels).map
        (recordOf plan variant repetitionIndex outcomes)) = .ok () := by
  have hfilter : ((executedLevels outcomes plan.levels).map
        (recordOf plan variant repetitionIndex outcomes)).filter
          (fun level => decide (level.classification = .sustainable ∧
            level.actualTouchedBytes = level.plannedLogicalBytes)) =
      ((executedLevels outcomes plan.levels).map
        (recordOf plan variant repetitionIndex outcomes)).filter
          (fun level => decide (level.classification = .sustainable)) := by
    -- the validator asks for records on their target, the summary does not
    apply List.filter_congr
    intro record hrecord
    obtain ⟨level, hlevel, rfl⟩ := List.mem_map.1 hrecord
    rw [decide_eq_decide, and_iff_left_iff_imp]
    intro hclass
    have hsustained : (outcomeOf outcomes level).classification = .sustainable := hclass
    rw [recordOf_touched (by rw [hsustained]; exact fun h => (by cases h))]
    exact (h.planned_logical hlevel).symm
  unfold CapacityResult.validate
  rw [hfilter]
  apply refuse_eq_ok.2
  simp [summarize, CapacityResult.fromSummary, CapacityResult.internallyConsistent,
    highestSustainable, lowestUnsustainable]

/-- If the records of all executed levels pass, the run is completed and accounts for the plan. -/
theorem simulatePressureRun_accounts (hplan : plan.validate = .ok ())
    (hvalid : ∀ level ∈ executedLevels outcomes plan.levels,
      (recordOf plan variant repetitionIndex outcomes level).validate level plan = .ok ()) :
    ∃ run, simulatePressureRun digest plan variant repetitionIndex outcomes = .ok run ∧
      Accounts digest plan variant repetitionIndex outcomes run := by
  have hsound := ProgressivePressurePlan.validate_ok hplan
  have hplanned : ({
      evidence := [], plannedLevels := plan.levels
      stoppedReason := "all_planned_levels_completed" } : SimulatedProgress).plannedLevels =
        [] ++ plan.levels := rfl
  obtain ⟨reason, hrun⟩ := simulateLevels_ok hsound List.drop_zero rfl hplanned hvalid
  refine ⟨summarize digest "simulated-3c" (simulatedRunId variant repetitionIndex) variant
    repetitionIndex (markedLevels outcomes plan.levels)
    ((executedLevels outcomes plan.levels).map (recordOf plan variant repetitionIndex outcomes))
    reason, ?_, ?_⟩
  · unfold simulatePressureRun
    rw [hplan, hrun]
    rfl
  · exact
      { levels := rfl
        planned := rfl
        bracket := fun lo hi hlo hhi => sustainable_lt_unsustainable hsound hlo hhi
        capacity := summarize_capacity hsound _ _ _ _ }

/-- **Simulated runs.** For a plan that has passed its check, a simulated run is completed and
    accounts for the plan exactly when the sample intervals fill the hold, or the first level is
    a mismatch of the touched bytes. -/
theorem simulatePressureRun_accounts_iff (hplan : plan.validate = .ok ()) :
    (∃ run, simulatePressureRun digest plan variant repetitionIndex outcomes = .ok run ∧
        Accounts digest plan variant repetitionIndex outcomes run) ↔
      plan.sampleIntervalMs.toNat ∣ plan.holdDurationMs.toNat ∨
        ∃ actual, outcomes 0 = some (.touchedBytesMismatch actual) := by
  have hsound := ProgressivePressurePlan.validate_ok hplan
  obtain ⟨first, rest, hlevels⟩ := List.exists_cons_of_ne_nil hsound.nonempty
  have hfirst : plan.levels[0]? = some first := by
    rw [hlevels]
    rfl
  have hzero : first.levelIndex = 0 := UInt64.toNat_inj.1 (hsound.placed 0 first hfirst).index
  have hmismatch : (outcomeOf outcomes first).Mismatch ↔
      ∃ actual, outcomes 0 = some (.touchedBytesMismatch actual) :=
    hzero ▸ outcomeOf_mismatch_iff
  rw [← hmismatch, or_comm]
  constructor
  · -- the record of the first level must have passed
    rintro ⟨run, hrun, -⟩
    obtain ⟨-, -, hrun⟩ := bind_eq_ok.1 hrun
    obtain ⟨progress, hprogress, -⟩ := bind_eq_ok.1 hrun
    rw [hlevels] at hprogress
    obtain ⟨_, hvalid, -⟩ := bind_eq_ok.1 hprogress
    exact (levelEvidence_valid_iff hsound hfirst).1 hvalid
  · intro hcond
    apply simulatePressureRun_accounts hplan
    intro level hlevel
    rcases hcond with hfirstMismatch | hfill
    · -- then the first level is the only one executed
      have hends : sustains outcomes first = false := by
        apply decide_eq_false
        rw [show (outcomeOf outcomes first).classification = _ from hfirstMismatch]
        exact fun h => (by cases h)
      rw [hlevels, executedLevels_of_ends hends, List.mem_singleton] at hlevel
      rw [hlevel]
      exact (levelEvidence_valid_iff hsound hfirst).2 (.inl hfirstMismatch)
    · obtain ⟨i, hi⟩ := List.getElem?_of_mem (mem_of_executed hlevel)
      exact (levelEvidence_valid_iff hsound hi).2 (.inr hfill)

end Runs

/-- A digest that is right about a run with two bytes as the highest size and no lowest one. -/
def twoBytesDigest : CapacityDigest := fun _ _ _ _ =>
  "7eb63d47d747fd71c8e064b7ef92e291092c95475c0178e4d2954aa8a57a9e53"

/-- The plan of two levels is simulated to its end: its intervals fill the hold. -/
theorem two_levels_simulated :
    ∃ run, simulatePressureRun twoBytesDigest twoLevelPlan .nemorObserve 0 (fun _ => none) =
        .ok run ∧
      Accounts twoBytesDigest twoLevelPlan .nemorObserve 0 (fun _ => none) run :=
  (simulatePressureRun_accounts_iff (by decide +kernel)).2 (.inl (by decide))

/-- The same plan with intervals that do not fill the hold. -/
def unevenPlan : ProgressivePressurePlan := { twoLevelPlan with sampleIntervalMs := 300 }

/-- That plan passes its check, but the run of its first variant fails. -/
theorem uneven_plan_not_simulated :
    unevenPlan.validate = .ok () ∧ BenchmarkVariant.cachyosBaseline ∈ unevenPlan.variants ∧
      ¬ ∃ run, simulatePressureRun twoBytesDigest unevenPlan .cachyosBaseline 0 (fun _ => none) =
        .ok run := by
  refine ⟨by decide +kernel, by decide, ?_⟩
  rintro ⟨run, hrun⟩
  have hfails : (simulatePressureRun twoBytesDigest unevenPlan .cachyosBaseline 0
      (fun _ => none)).toBool = false := by decide +kernel
  rw [hrun] at hfails
  cases hfails

end Nemor.Pressure
