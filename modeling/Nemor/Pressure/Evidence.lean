import Mathlib.Data.List.Forall2
import Nemor.Lib.Log
import Nemor.Pressure.Plan

/-!
# Evidence of pressure levels

A level leaves a record of what was measured while the worker held it, with the worker's
acknowledgement in it. Both have a check against the plan; what a run is said to have reached is
checked against the records of its levels.

- §1: records and their checks
- §2: the sizes that a run has reached
- §3: a worker session acknowledges all levels of a plan, and its acknowledgements pass
-/

namespace Nemor.Pressure

open Capacity Fallible MachineNumbers Streaming

/-! ## §1 Levels -/

/-- The version of the evidence of a level. -/
def levelEvidenceVersion : UInt32 := 2

/-- What a metric is about. -/
inductive PressureMetricScope where
  | host
  | workerCgroup
  | workerProcess
  | runnerProcess
  | observerProcess
  deriving DecidableEq

/-- A metric. One that is missing says why. -/
structure PressureMetric where
  name : String
  value : Option F64
  unit : String
  scope : PressureMetricScope
  source : String
  available : Bool
  reason : Option String

/-- A metric with its value. -/
def PressureMetric.measured (name : String) (value : F64) (unit : String)
    (scope : PressureMetricScope) (source : String) : PressureMetric where
  name := name
  value := some value
  unit := unit
  scope := scope
  source := source
  available := true
  reason := none

/-- A metric without one. -/
def PressureMetric.unavailable (name unit : String) (scope : PressureMetricScope)
    (source reason : String) : PressureMetric where
  name := name
  value := none
  unit := unit
  scope := scope
  source := source
  available := false
  reason := some reason

/-- What a sustained level has to show. -/
inductive HealthGate where
  | workerAlive
  | workerIdentity
  | heartbeatFresh
  | workerIntegrity
  | cgroupMembership
  | memoryLimitContract
  | hostPsi
  | cgroupPsi
  | majorFaults
  | swapIn
  | swapOut
  | blockWrites
  | workerCpu
  | runnerCpu
  | observerContract
  | elapsedDuration
  | restoreOwnership
  deriving DecidableEq

/-- In the order of the gates; the observer is looked at only where there is one. -/
def requiredLevelHealthGates (variant : BenchmarkVariant) : List HealthGate :=
  [.workerAlive, .workerIdentity, .heartbeatFresh, .workerIntegrity, .cgroupMembership,
    .memoryLimitContract, .hostPsi, .cgroupPsi, .majorFaults, .swapIn, .swapOut, .blockWrites,
    .workerCpu, .runnerCpu] ++
  (if variant = .nemorObserve then [.observerContract] else []) ++
  [.elapsedDuration]

/-- What it has shown. -/
structure HealthGateResult where
  passed : Bool
  mandatory : Bool
  reason : Option String
  deriving DecidableEq

/-- Why an experiment is ended at once. -/
inductive SafetyAbortClass where
  | hostPsiEmergency
  | hostOomDetected
  | cgroupOwnershipLost
  | workerIdentityLost
  | workerHeartbeatTimeout
  | watchdogTimeout
  | memoryLimitContractBroken
  | observerContractBroken
  | restoreFailure
  deriving DecidableEq

/-- What a level has shown. -/
inductive LevelClassification where
  | sustainable
  | unsustainableHealth
  | invalidLevelEvidence
  | safetyAbort
  deriving DecidableEq

/-- A sample during a hold. -/
structure PressureLevelSample where
  monotonicNs : UInt64
  memoryCurrentBytes : Option UInt64
  hostMemoryFullAvg10Percent : Option F64
  cgroupMemoryFullAvg10Percent : Option F64
  workerAlive : Bool
  heartbeatTouchedBytes : UInt64
  integrityIdentity : Option String

/-- The gates are kept in their order. -/
structure LevelEvidence where
  version : UInt32
  experimentId : String
  runId : String
  variant : BenchmarkVariant
  repetitionIndex : UInt64
  levelIndex : UInt64
  plannedLogicalBytes : UInt64
  actualTouchedBytes : UInt64
  workerAcknowledgement : WorkerLevelAcknowledgement
  workerMemoryMaxBytes : UInt64
  generatorId : String
  generatorVersion : UInt32
  workloadIdentity : String
  payloadIntegrityIdentity : String
  startedMonotonicNs : UInt64
  endedMonotonicNs : UInt64
  stabilizationCompletedMs : UInt64
  durationMs : UInt64
  sampleCount : UInt64
  rawSamples : List PressureLevelSample
  memoryMeanBytes : Option F64
  memoryPeakBytes : Option UInt64
  metrics : List PressureMetric
  majorFaultDelta : Option UInt64
  swapInBytesDelta : Option UInt64
  swapOutBytesDelta : Option UInt64
  blockWriteBytesDelta : Option UInt64
  watchdogTriggered : Bool
  oom : UInt64
  oomKill : UInt64
  healthGates : List (HealthGate × HealthGateResult)
  classification : LevelClassification
  safetyAbort : Option SafetyAbortClass
  failureReason : Option String

/-- `u64::checked_sub`. -/
def checkedSub (a b : UInt64) : Option UInt64 :=
  if b ≤ a then some (a - b) else none

/-- The acknowledgement is of this level, and of the step from the last one. -/
def WorkerLevelAcknowledgement.validate (a : WorkerLevelAcknowledgement) (evidence : LevelEvidence)
    (level : PlannedPressureLevel) (priorTouchedBytes : UInt64) : Except String Unit := do
  let expectedDelta ← orError "pressure level cannot shrink the touched payload"
    (checkedSub level.targetTouchedBytes priorTouchedBytes)
  refuse (a.experimentId ≠ evidence.experimentId ∨
      a.runId ≠ evidence.runId ∨
      a.levelIndex ≠ level.levelIndex ∨
      a.seed ≠ level.seed ∨
      a.priorTouchedBytes ≠ priorTouchedBytes ∨
      a.requestedDeltaBytes ≠ expectedDelta ∨
      a.workerPid = 0 ∨
      a.workerStartTicks = 0 ∨
      a.generatorId ≠ evidence.generatorId ∨
      a.generatorVersion ≠ evidence.generatorVersion ∨
      a.integrityIdentity ≠ evidence.payloadIntegrityIdentity ∨
      evidence.startedMonotonicNs < a.acknowledgedMonotonicNs)
    "worker level acknowledgement does not match the planned delta"

namespace LevelEvidence

/-- A record of another level, or of another contract than that of the plan. -/
def Foreign (e : LevelEvidence) (level : PlannedPressureLevel) (plan : ProgressivePressurePlan) :
    Prop :=
  e.version ≠ levelEvidenceVersion ∨
    e.levelIndex ≠ level.levelIndex ∨
    e.plannedLogicalBytes ≠ level.targetLogicalBytes ∨
    e.workerMemoryMaxBytes ≠ plan.workerMemoryMaxBytes ∨
    e.generatorId ≠ plan.generatorId ∨
    e.generatorVersion ≠ plan.generatorVersion ∨
    plan.watchdog.levelTimeoutMs < e.durationMs ∨
    e.workloadIdentity = "" ∨
    e.payloadIntegrityIdentity = ""

/-- A sustainable record without all its gates passed, or off its target. -/
def Incomplete (e : LevelEvidence) (level : PlannedPressureLevel) : Prop :=
  e.healthGates.map Prod.fst ≠ requiredLevelHealthGates e.variant ∨
    e.actualTouchedBytes ≠ level.targetTouchedBytes ∨
    e.watchdogTriggered = true ∨
    e.oom ≠ 0 ∨
    e.oomKill ≠ 0 ∨
    (e.healthGates.any fun gate => !gate.2.mandatory || !gate.2.passed) = true

instance (e : LevelEvidence) (level : PlannedPressureLevel) (plan : ProgressivePressurePlan) :
    Decidable (e.Foreign level plan) := by
  delta Foreign
  infer_instance

instance (e : LevelEvidence) (level : PlannedPressureLevel) : Decidable (e.Incomplete level) := by
  delta Incomplete
  infer_instance

/-- `u64::abs_diff`. -/
def absDiff (a b : UInt64) : UInt64 := if a ≤ b then b - a else a - b

/-- Only a level that was not executed may come without its stabilization. -/
def validateStabilization (e : LevelEvidence) (plan : ProgressivePressurePlan) :
    Except String Unit :=
  if e.classification = .invalidLevelEvidence then
    refuse (e.stabilizationCompletedMs ≠ 0) "protocol-invalid level must not claim stabilization"
  else
    refuse (e.stabilizationCompletedMs < plan.stabilizationDurationMs)
      "completed level did not satisfy stabilization contract"

/-- The measured hold is long enough, agrees with the clock and has enough samples. -/
def validateCoverage (e : LevelEvidence) (plan : ProgressivePressurePlan) :
    Except String Unit := do
  let elapsedNs ← orError "level monotonic duration underflow"
    (checkedSub e.endedMonotonicNs e.startedMonotonicNs)
  let elapsedMs := elapsedNs / 1000000
  let covered ← orError "sample coverage overflow"
    (checkedAdd plan.holdDurationMs (plan.sampleIntervalMs - 1))
  -- rounded up: the last interval may be a short one
  let minimumSamples := covered / plan.sampleIntervalMs
  -- `saturating_sub`
  let minimumDurationMs := plan.holdDurationMs - min plan.sampleIntervalMs plan.holdDurationMs
  if e.classification ≠ .invalidLevelEvidence then
    refuse (e.durationMs < minimumDurationMs ∨
        elapsedMs < minimumDurationMs ∨
        plan.sampleIntervalMs < absDiff elapsedMs e.durationMs ∨
        e.sampleCount < minimumSamples)
      "completed level has insufficient timing or sample coverage"
  else
    -- a level without a hold has no measurement either
    refuse (e.durationMs ≠ 0 ∨ e.sampleCount ≠ 0 ∨ e.rawSamples ≠ [])
      "protocol-invalid level must not claim a completed measurement hold"

/-- The classification agrees with what is recorded. -/
def validateClassification (e : LevelEvidence) (level : PlannedPressureLevel) :
    Except String Unit := do
  refuse (e.classification = .sustainable ∧ e.Incomplete level)
    "sustainable level did not pass its complete mandatory contract"
  refuse (e.classification = .unsustainableHealth ∧
      e.actualTouchedBytes ≠ level.targetTouchedBytes)
    "unsustainable capacity evidence must reach the exact planned target"
  refuse (e.classification = .safetyAbort ∧ e.safetyAbort = none)
    "safety abort evidence requires an explicit abort class"
  refuse (e.classification ≠ .safetyAbort ∧ e.safetyAbort ≠ none)
    "normal level result cannot contain a safety abort class"

/-- The evidence is of this level, and its parts go together. -/
def validate (e : LevelEvidence) (level : PlannedPressureLevel) (plan : ProgressivePressurePlan) :
    Except String Unit := do
  refuse (e.Foreign level plan) "level evidence does not match frozen pressure contract"
  e.validateStabilization plan
  refuse (e.endedMonotonicNs ≤ e.startedMonotonicNs)
    "level evidence monotonic timestamps are incoherent"
  e.workerAcknowledgement.validate e level (plan.priorTouchedBytes level)
  refuse (e.actualTouchedBytes ≠ e.workerAcknowledgement.actualTouchedBytes)
    "level evidence and worker acknowledgement disagree"
  e.validateCoverage plan
  refuse (e.rawSamples ≠ [] ∧ e.rawSamples.length ≠ e.sampleCount.toNat)
    "raw pressure sample count differs from level sample contract"
  e.validateClassification level

end LevelEvidence

/-! ## §2 Capacity -/

/-- What a run says about the capacity. -/
structure CapacityResult where
  highestTestedSustainableBytes : Option UInt64
  lowestTestedUnsustainableBytes : Option UInt64
  searchComplete : Bool
  safetyAbort : Option SafetyAbortClass
  capacityGainPercent : EvaluationState
  contractDigest : String

/-- The digest of a result's contents. -/
abbrev CapacityDigest :=
  Option UInt64 → Option UInt64 → Bool → Option SafetyAbortClass → String

namespace CapacityResult

variable (digest : CapacityDigest)

/-- The result with its digest. -/
def fromSummary (highest lowest : Option UInt64) (searchComplete : Bool)
    (safetyAbort : Option SafetyAbortClass) : CapacityResult where
  highestTestedSustainableBytes := highest
  lowestTestedUnsustainableBytes := lowest
  searchComplete := searchComplete
  safetyAbort := safetyAbort
  capacityGainPercent := .notEvaluated
  contractDigest := digest highest lowest searchComplete safetyAbort

/-- The digest is that of the result. -/
def internallyConsistent (c : CapacityResult) : Bool :=
  c.contractDigest == digest c.highestTestedSustainableBytes c.lowestTestedUnsustainableBytes
    c.searchComplete c.safetyAbort

/-- The result is the one that follows from the levels. -/
def validate (c : CapacityResult) (levels : List LevelEvidence) : Except String Unit :=
  let highest := ((levels.filter fun level =>
    level.classification = .sustainable ∧ level.actualTouchedBytes = level.plannedLogicalBytes).map
      LevelEvidence.actualTouchedBytes).max?
  let lowest := ((levels.filter fun level => level.classification = .unsustainableHealth ∧
    level.actualTouchedBytes = level.plannedLogicalBytes).map
      LevelEvidence.plannedLogicalBytes).min?
  let invalid := levels.any fun level => level.classification = .invalidLevelEvidence
  refuse (c.internallyConsistent digest = false ∨
      c.highestTestedSustainableBytes ≠ highest ∨
      c.lowestTestedUnsustainableBytes ≠ lowest ∨
      -- a complete search has a bound on either side
      (c.searchComplete = true ∧
        (c.safetyAbort ≠ none ∨ invalid = true ∨ highest = none ∨ lowest = none)))
    "capacity result is inconsistent with actually tested valid levels"

end CapacityResult

/-! ## §3 A session that is fed the levels of a plan -/

section Session

variable {D : Digest UInt8}

/-- Turn level after level into a command and apply it, until one is not accepted. -/
def feedLevels (experimentId runId : String) (clock : UInt64 → UInt64) :
    ProgressiveWorkerSession D → UInt64 → List PlannedPressureLevel →
      Except WorkerFailure (List WorkerLevelAcknowledgement)
  | _, _, [] => .ok []
  | s, prior, level :: rest => do
    let command ← (commandForLevel experimentId runId level prior).mapError .error
    -- the session of a refused level is not fed any further
    match s.applyLevel command (clock level.levelIndex) with
    | (_, .error e) => .error e
    | (s, .ok acknowledgement) =>
      let acknowledgements ← feedLevels experimentId runId clock s level.targetTouchedBytes rest
      .ok (acknowledgement :: acknowledgements)

/-- The capacity that a payload has grown to after some levels, unless it cannot. -/
def grownTo (capacity : ℕ) (levels : List PlannedPressureLevel) : Option ℕ :=
  (levels.map fun level => level.targetTouchedBytes.toNat).foldlM reserve capacity

/-- The record copies what identifies the acknowledgement and starts no earlier than it. -/
structure LevelEvidence.Copies (e : LevelEvidence) (a : WorkerLevelAcknowledgement) : Prop where
  experimentId : e.experimentId = a.experimentId
  runId : e.runId = a.runId
  generatorId : e.generatorId = a.generatorId
  generatorVersion : e.generatorVersion = a.generatorVersion
  integrity : e.payloadIntegrityIdentity = a.integrityIdentity
  started : a.acknowledgedMonotonicNs ≤ e.startedMonotonicNs

/-- The session is ready for the level with this index, with `prior` bytes touched in a vector of
    a capacity. -/
structure Ready (s : ProgressiveWorkerSession D) (experimentId runId : String)
    (seed memoryMaxBytes : UInt64) (index : ℕ) (prior : UInt64) (capacity : ℕ) : Prop where
  sound : s.Sound
  state : s.state = .scopeAndMemoryMaxVerified ∨ s.state = .levelAcknowledged
  experimentId : s.experimentId = experimentId
  runId : s.runId = runId
  seed : s.seed = seed
  limit : s.memoryMaxBytes = memoryMaxBytes
  index : s.nextLevelIndex.toNat = index
  touched : s.payload.length = prior.toNat
  capacity : s.payloadCapacity = capacity
  pid : s.workerPid ≠ 0
  ticks : s.workerStartTicks ≠ 0

/-- Whatever record copies the acknowledgement, it passes for this level. -/
def Passes (level : PlannedPressureLevel) (prior : UInt64) (a : WorkerLevelAcknowledgement) : Prop :=
  ∀ evidence : LevelEvidence, evidence.Copies a → a.validate evidence level prior = .ok ()

variable {s : ProgressiveWorkerSession D} {experimentId runId : String} {seed limit prior : UInt64}
  {index capacity : ℕ} {level : PlannedPressureLevel}

/-- A vector has room for up to `2 ^ 62` bytes, whatever its capacity was: doubling it does not
    exceed the largest one. -/
theorem reserve_of_le {required : ℕ} (h : required ≤ 2 ^ 62) :
    ∃ grown, reserve capacity required = some grown := by
  unfold reserve
  split
  · exact ⟨_, rfl⟩
  · next hlarger =>
    refine ⟨_, if_pos ?_⟩
    unfold isizeMax
    omega

/-- Levels of up to `2 ^ 62` bytes can all be grown to. -/
theorem grownTo_of_le {levels : List PlannedPressureLevel}
    (h : ∀ level ∈ levels, level.targetTouchedBytes.toNat ≤ 2 ^ 62) :
    (grownTo capacity levels).isSome = true := by
  induction levels generalizing capacity with
  | nil => rfl
  | cons level rest ih =>
    obtain ⟨hlevel, hrest⟩ := List.forall_mem_cons.1 h
    obtain ⟨grown, hgrown⟩ := @reserve_of_le capacity _ hlevel
    unfold grownTo
    rw [List.map_cons, List.foldlM_cons, hgrown]
    exact ih hrest

theorem commandForLevel_of_le (h : prior ≤ level.targetTouchedBytes) :
    commandForLevel experimentId runId level prior =
      .ok (levelCommand experimentId runId level prior) :=
  if_neg (UInt64.not_lt.2 h)

theorem Ready.meetsContract (h : Ready s experimentId runId seed limit index prior capacity)
    (hgrows : prior ≤ level.targetTouchedBytes) (hfits : level.targetTouchedBytes ≤ limit)
    (hseed : level.seed = seed) (hindex : level.levelIndex.toNat = index) :
    s.MeetsContract (levelCommand experimentId runId level prior) := by
  -- the contract compares machine words, readiness their values
  have htouched : prior = s.touchedBytes := by
    apply UInt64.toNat_inj.1
    rw [h.sound.touchedBytes, h.touched]
  have hadd : checkedAdd prior (level.targetTouchedBytes - prior) =
      some level.targetTouchedBytes := by
    rw [checkedAdd_eq_some, UInt64.toNat_sub_of_le _ _ hgrows]
    have := UInt64.le_iff_toNat_le.1 hgrows
    omega
  refine ⟨?_, rfl, h.experimentId.symm, h.runId.symm, ?_, ?_, rfl, rfl, htouched, hadd, ?_⟩
  · rcases h.state with hstate | hstate
    · exact .inl hstate
    · exact .inr (.inl hstate)
  · rw [h.seed]
    exact hseed
  · apply UInt64.toNat_inj.1
    rw [h.index]
    exact hindex
  · rw [h.limit]
    exact hfits

/-- An acknowledgement with the fields of the level's command passes. -/
theorem passes_of_fields {a : WorkerLevelAcknowledgement} (hgrows : prior ≤ level.targetTouchedBytes)
    (hindex : a.levelIndex = level.levelIndex) (hseed : a.seed = level.seed)
    (hprior : a.priorTouchedBytes = prior)
    (hdelta : a.requestedDeltaBytes = level.targetTouchedBytes - prior)
    (hpid : a.workerPid ≠ 0) (hticks : a.workerStartTicks ≠ 0) : Passes level prior a := by
  intro evidence h
  have hsub : checkedSub level.targetTouchedBytes prior =
      some (level.targetTouchedBytes - prior) := if_pos hgrows
  unfold WorkerLevelAcknowledgement.validate
  rw [hsub]
  apply refuse_eq_ok.2
  have hstarted := UInt64.not_lt.2 h.started
  simp [h.experimentId, h.runId, hindex, hseed, hprior, hdelta, hpid, hticks, h.generatorId,
    h.generatorVersion, h.integrity, hstarted]

/-- **One level.** A session that is ready and has room for the level acknowledges it and is ready
    for the next. -/
theorem Ready.step (h : Ready s experimentId runId seed limit index prior capacity)
    (hgrows : prior ≤ level.targetTouchedBytes) (hfits : level.targetTouchedBytes ≤ limit)
    (hseed : level.seed = seed) (hindex : level.levelIndex.toNat = index)
    (hsmall : index + 1 < 2 ^ 64) {grown : ℕ}
    (hroom : reserve capacity level.targetTouchedBytes.toNat = some grown) (ns : UInt64) :
    ∃ s' a, s.applyLevel (levelCommand experimentId runId level prior) ns = (s', .ok a) ∧
      Ready s' experimentId runId seed limit (index + 1) level.targetTouchedBytes grown ∧
      a.actualTouchedBytes = level.targetTouchedBytes ∧ Passes level prior a := by
  have hcontract := h.meetsContract hgrows hfits hseed hindex
  rw [← h.capacity] at hroom
  obtain ⟨_, happly, happlied⟩ :=
    applyLevel_cases h.sound (levelCommand experimentId runId level prior) ns
  cases happlied with
  | rejected hnot => exact absurd hcontract hnot
  | panicked _ hfull => cases hfull.symm.trans hroom
  | @acknowledged reserved next _ hreserved hnext =>
    -- the level is applied, and the payload is extended to its target
    obtain rfl := Option.some.inj (hreserved.symm.trans hroom)
    rw [checkedAdd_eq_some, h.index] at hnext
    have hsound := (h.sound.extended hcontract reserved).renumbered next
    have hlength : (generated (seeded s.seed) level.targetTouchedBytes.toNat).length =
        level.targetTouchedBytes.toNat := by simp
    refine ⟨_, _, happly, ?_, ?_, ?_⟩
    · exact
        { sound := hsound
          state := .inr rfl
          experimentId := h.experimentId
          runId := h.runId
          seed := h.seed
          limit := h.limit
          index := hnext.symm
          touched := hlength
          capacity := rfl
          pid := h.pid
          ticks := h.ticks }
    · apply UInt64.toNat_inj.1
      exact hsound.touchedBytes.trans hlength
    · exact passes_of_fields hgrows rfl (h.seed.trans hseed.symm) rfl rfl h.pid h.ticks
  | unnumbered _ _ hnone =>
    -- twelve levels can be numbered
    exfalso
    have hnumber : s.nextLevelIndex.toNat + (1 : UInt64).toNat < 2 ^ 64 := by
      rw [h.index]
      exact hsmall
    rw [checkedAdd, if_pos hnumber] at hnone
    cases hnone

/-- A session that is ready but has no room for the level panics. -/
theorem Ready.panics (h : Ready s experimentId runId seed limit index prior capacity)
    (hgrows : prior ≤ level.targetTouchedBytes) (hfits : level.targetTouchedBytes ≤ limit)
    (hseed : level.seed = seed) (hindex : level.levelIndex.toNat = index)
    (hfull : reserve capacity level.targetTouchedBytes.toNat = none) (ns : UInt64) :
    s.applyLevel (levelCommand experimentId runId level prior) ns =
      (s, .error (.panic "capacity overflow")) := by
  rw [← h.capacity] at hfull
  obtain ⟨_, happly, happlied⟩ :=
    applyLevel_cases h.sound (levelCommand experimentId runId level prior) ns
  rw [happly]
  cases happlied with
  | rejected hnot => exact absurd (h.meetsContract hgrows hfits hseed hindex) hnot
  | panicked _ _ => rfl
  | acknowledged _ hreserved _ => cases hfull.symm.trans hreserved
  | unnumbered _ hreserved _ => cases hfull.symm.trans hreserved

/-- From any level of the plan on, the rest of the levels is acknowledged, unless the payload
    cannot grow to them. -/
theorem feedLevels_ready {plan : ProgressivePressurePlan} (hplan : plan.Sound)
    (hseed : ∀ level ∈ plan.levels, level.seed = seed) (clock : UInt64 → UInt64)
    {levels : List PlannedPressureLevel} (hlevels : plan.levels.drop index = levels)
    (hprior : ∀ level, plan.levels[index]? = some level → plan.priorTouchedBytes level = prior)
    (h : Ready s experimentId runId seed plan.workerMemoryMaxBytes index prior capacity) :
    match grownTo capacity levels with
    | some _ => ∃ acknowledgements,
      feedLevels experimentId runId clock s prior levels = .ok acknowledgements ∧
      List.Forall₂ (fun level a => a.actualTouchedBytes = level.targetTouchedBytes ∧
        Passes level (plan.priorTouchedBytes level) a) levels acknowledgements
    | none => feedLevels experimentId runId clock s prior levels =
      .error (.panic "capacity overflow") := by
  induction levels generalizing s index prior capacity with
  | nil => exact ⟨[], rfl, .nil⟩
  | cons level rest ih =>
    -- the level at hand is that of the plan at `index`
    have hat : plan.levels[index]? = some level := Log.getElem?_of_drop hlevels
    have hrest : plan.levels.drop (index + 1) = rest := Log.drop_succ_of_drop hlevels
    have hplaced := hplan.placed index level hat
    have hlt := hplan.prior_lt hat
    rw [hprior level hat] at hlt
    have hgrows := UInt64.le_of_lt hlt
    have hcount : index < plan.levels.length := (List.getElem?_eq_some_iff.1 hat).1
    have hfew := hplan.few
    have hlevel := hseed level (List.mem_of_getElem? hat)
    -- a plan has at most twelve levels
    have hsmall : index + 1 < 2 ^ 64 := by
      unfold maxPressureLevels at hfew
      omega
    cases hroom : reserve capacity level.targetTouchedBytes.toNat with
    | none =>
      have hnone : grownTo capacity (level :: rest) = none := by
        rw [grownTo, List.map_cons, List.foldlM_cons, hroom]
        rfl
      rw [hnone]
      unfold feedLevels
      rw [commandForLevel_of_le hgrows]
      simp only [bind, Except.bind, Except.mapError,
        h.panics hgrows hplaced.fits hlevel hplaced.index hroom]
    | some grown =>
      have hsome : grownTo capacity (level :: rest) = grownTo grown rest := by
        rw [grownTo, List.map_cons, List.foldlM_cons, hroom]
        rfl
      obtain ⟨s', a, happly, hready, hactual, hpasses⟩ :=
        h.step hgrows hplaced.fits hlevel hplaced.index hsmall hroom (clock level.levelIndex)
      -- what is touched now is what the plan says to be prior to the next level
      have hlater := ih hrest (fun next hnext => hplan.prior_next hat hnext) hready
      have hfeed : feedLevels experimentId runId clock s prior (level :: rest) =
          (feedLevels experimentId runId clock s' level.targetTouchedBytes rest).map (a :: ·) := by
        rw [feedLevels, commandForLevel_of_le hgrows]
        simp only [bind, Except.bind, Except.mapError, happly]
        cases feedLevels experimentId runId clock s' level.targetTouchedBytes rest <;> rfl
      rw [hsome, hfeed]
      cases hgrown : grownTo grown rest with
      | none =>
        rw [hgrown] at hlater
        dsimp only at hlater ⊢
        rw [hlater]
        rfl
      | some last =>
        rw [hgrown] at hlater
        obtain ⟨acknowledgements, hok, hall⟩ := hlater
        refine ⟨a :: acknowledgements, by rw [hok]; rfl, .cons ⟨hactual, ?_⟩ hall⟩
        rw [hprior level hat]
        exact hpasses

theorem ready_of_verified {workerPid : UInt32} {workerStartTicks : UInt64}
    (hstart : ProgressiveWorkerSession.startUnallocated D experimentId runId seed workerPid
      workerStartTicks = .ok s) (hlimit : limit ≠ 0) :
    (s.verifyOwnedScopeAndMemoryMax limit).2 = .ok () ∧
      Ready (s.verifyOwnedScopeAndMemoryMax limit).1 experimentId runId seed limit 0 0 0 := by
  have hsound := (startUnallocated_sound hstart).step (.verifyOwnedScopeAndMemoryMax limit)
  unfold ProgressiveWorkerSession.startUnallocated at hstart
  obtain ⟨hidentity, hs⟩ := ite_error_eq_ok.1 hstart
  simp only [not_or] at hidentity
  cases hs
  -- stated for any such session: after `cases` the fresh one is a term of its own
  have hverify (s : ProgressiveWorkerSession D) (hstate : s.state = .startedUnallocated)
      (hpayload : s.payload = []) : s.verifyOwnedScopeAndMemoryMax limit =
        ({ s with memoryMaxBytes := limit, state := .scopeAndMemoryMaxVerified }, .ok ()) := by
    unfold ProgressiveWorkerSession.verifyOwnedScopeAndMemoryMax
    rw [if_neg (by simp [hstate, hpayload, hlimit])]
  simp only [Pressure.step] at hsound
  rw [hverify _ rfl rfl] at hsound ⊢
  exact ⟨rfl,
    { sound := hsound
      state := .inl rfl
      experimentId := rfl
      runId := rfl
      seed := rfl
      limit := rfl
      index := rfl
      touched := rfl
      capacity := rfl
      pid := hidentity.2.2.1
      ticks := hidentity.2.2.2 }⟩

/-- **Planned levels are executable.** A fresh session with the seed of a plan's levels verifies
    the plan's memory limit and acknowledges all its levels in turn, each with the size planned, if
    its payload can grow to them, as it can to `2 ^ 62` bytes; every acknowledgement passes its
    check against the level and a record that copies it. A payload that cannot grow to a level
    ends the worker with a panic. -/
theorem planned_levels_acknowledged {plan : ProgressivePressurePlan} {workerPid : UInt32}
    {workerStartTicks : UInt64} (hplan : plan.validate = .ok ())
    (hseed : ∀ level ∈ plan.levels, level.seed = seed)
    (hstart : ProgressiveWorkerSession.startUnallocated D experimentId runId seed workerPid
      workerStartTicks = .ok s) (clock : UInt64 → UInt64) :
    (s.verifyOwnedScopeAndMemoryMax plan.workerMemoryMaxBytes).2 = .ok () ∧
      ((∀ level ∈ plan.levels, level.targetTouchedBytes.toNat ≤ 2 ^ 62) →
        (grownTo 0 plan.levels).isSome = true) ∧
      match grownTo 0 plan.levels with
      | some _ => ∃ acknowledgements,
        feedLevels experimentId runId clock
          (s.verifyOwnedScopeAndMemoryMax plan.workerMemoryMaxBytes).1 0 plan.levels =
            .ok acknowledgements ∧
        List.Forall₂ (fun level a => a.actualTouchedBytes = level.targetTouchedBytes ∧
          Passes level (plan.priorTouchedBytes level) a) plan.levels acknowledgements
      | none => feedLevels experimentId runId clock
          (s.verifyOwnedScopeAndMemoryMax plan.workerMemoryMaxBytes).1 0 plan.levels =
        .error (.panic "capacity overflow") := by
  have hsound := ProgressivePressurePlan.validate_ok hplan
  obtain ⟨hverified, hready⟩ := ready_of_verified hstart hsound.limited
  exact ⟨hverified, grownTo_of_le, feedLevels_ready hsound hseed clock List.drop_zero
    (fun level hlevel => hsound.prior_first hlevel) hready⟩

end Session

/-- Two levels of one and two bytes, each held for two seconds. -/
def twoLevelPlan : ProgressivePressurePlan where
  version := 2
  scenario := pressureScenario
  scenarioVersion := 1
  comparisonPurpose := .pressureFrameworkValidation
  variants := [.cachyosBaseline, .nemorObserve]
  generatorId := incompressibleGeneratorId
  generatorVersion := syntheticGeneratorVersion
  levels := [
    { levelIndex := 0, targetLogicalBytes := 1, targetTouchedBytes := 1, seed := 7
      state := .planned },
    { levelIndex := 1, targetLogicalBytes := 2, targetTouchedBytes := 2, seed := 7
      state := .planned }]
  holdDurationMs := 2000
  stabilizationDurationMs := 100
  sampleIntervalMs := 500
  workerMemoryMaxBytes := 16384
  watchdog := {
    heartbeatTimeoutMs := 1000
    levelTransitionTimeoutMs := 1000
    levelTimeoutMs := 10000
    totalTimeoutMs := 60000 }
  health := {
    version := 1
    hostPsiFullAvg10Emergency := .finite 10
    cgroupPsiFullAvg10Unsustainable := .finite 20
    hostOomForbidden := true
    requestOom := false
    zeroLimitsMeanZeroTolerance := true }
  stopPolicy := {
    stopAfterFirstUnsustainable := true
    stopImmediatelyOnSafetyAbort := true
    neverUseSafetyAbortAsCapacityBound := true }
  refinement := {
    mode := .disabledForFrameworkPilot
    granularityBytes := 4096
    maximumRefinements := 0 }
  maximumLevels := 4
  maximumTotalDurationMs := 60000
  effectiveMaximumBytes := 65536
  systemdTransientScopeRequired := true
  exactOwnedWorkerRequired := true

/-- The plan of two levels, fed to the session of a worker. -/
theorem two_levels_acknowledged :
    ∃ s : ProgressiveWorkerSession sampleDigest,
      ProgressiveWorkerSession.startUnallocated sampleDigest "e" "r" 7 4242 31337 = .ok s ∧
      ∃ acknowledgements,
        feedLevels "e" "r" id (s.verifyOwnedScopeAndMemoryMax 16384).1 0 twoLevelPlan.levels =
          .ok acknowledgements ∧
        acknowledgements.length = 2 := by
  obtain ⟨s, hstart⟩ : ∃ s, ProgressiveWorkerSession.startUnallocated sampleDigest "e" "r" 7 4242
      31337 = .ok s := ⟨_, rfl⟩
  have hplan : twoLevelPlan.validate = .ok () := by decide +kernel
  have hseed : ∀ level ∈ twoLevelPlan.levels, level.seed = 7 := by decide
  have hgrown : grownTo 0 twoLevelPlan.levels = some 8 := by decide
  obtain ⟨-, -, hfed⟩ := planned_levels_acknowledged hplan hseed hstart id
  rw [hgrown] at hfed
  obtain ⟨acknowledgements, hfeed, hall⟩ := hfed
  exact ⟨s, hstart, acknowledgements, hfeed, hall.length_eq.symm⟩

/-- A plan of one level of `2 ^ 63` bytes. -/
def hugeLevelPlan : ProgressivePressurePlan :=
  { twoLevelPlan with
    levels := [
      { levelIndex := 0, targetLogicalBytes := 0x8000000000000000
        targetTouchedBytes := 0x8000000000000000, seed := 7, state := .planned }]
    workerMemoryMaxBytes := 0x8000000000000000
    effectiveMaximumBytes := 0x8000000000000000 }

/-- The plan is accepted, and its level ends the worker. -/
theorem huge_level_panics :
    hugeLevelPlan.validate = .ok () ∧
      ∃ s : ProgressiveWorkerSession sampleDigest,
        ProgressiveWorkerSession.startUnallocated sampleDigest "e" "r" 7 4242 31337 = .ok s ∧
        feedLevels "e" "r" id (s.verifyOwnedScopeAndMemoryMax 0x8000000000000000).1 0
          hugeLevelPlan.levels = .error (.panic "capacity overflow") := by
  have hplan : hugeLevelPlan.validate = .ok () := by decide +kernel
  obtain ⟨s, hstart⟩ : ∃ s, ProgressiveWorkerSession.startUnallocated sampleDigest "e" "r" 7 4242
      31337 = .ok s := ⟨_, rfl⟩
  have hsound := ProgressivePressurePlan.validate_ok hplan
  have hnone : grownTo 0 hugeLevelPlan.levels = none := by decide
  obtain ⟨-, hready⟩ := ready_of_verified hstart hsound.limited
  have hfed := feedLevels_ready hsound (by decide) id List.drop_zero
    (fun level hlevel => hsound.prior_first hlevel) hready
  rw [hnone] at hfed
  exact ⟨hplan, s, hstart, hfed⟩

end Nemor.Pressure
