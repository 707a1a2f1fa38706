import Nemor.Capacity.Reconcile
import Nemor.Capacity.Target

/-!
# Executing a composition

Six runs, each with a fresh pressure worker in a fresh scope. A run raises the load level by
level and exercises a target at each of them, until the levels are used up or one of them is not
sustainable. Then the worker is stopped and reaped and its scope is reconciled. Every gate on the
way may end the whole execution with an error.
-/

namespace Nemor.Capacity

open Effectful Pressure

/-! ## §1 What a level is judged by -/

/-- `u64::MAX`. -/
def u64Max : UInt64 := 0xffffffffffffffff

/-- The command that takes the worker to a level. A worker never shrinks. -/
def commandForLevel (experimentId runId : String) (level : PlannedPressureLevel)
    (priorTouchedBytes : UInt64) : Except String WorkerLevelCommand :=
  if level.targetTouchedBytes < priorTouchedBytes then .error "progressive level cannot shrink"
  else .ok {
    protocolVersion := pressureWorkerProtocolVersion
    experimentId := experimentId
    runId := runId
    levelIndex := UInt64.ofNat level.levelIndex
    seed := level.seed
    priorTouchedBytes := priorTouchedBytes
    requestedDeltaBytes := level.targetTouchedBytes - priorTouchedBytes
    targetTouchedBytes := level.targetTouchedBytes
    generatorId := incompressibleGeneratorId
    generatorVersion := syntheticGeneratorVersion }

/-- The message is a heartbeat with just this load. -/
def WorkerIpcMessage.reports (bytes : UInt64) : WorkerIpcMessage → Bool
  | .heartbeat touchedBytes => decide (touchedBytes = bytes)
  | _ => false

/-- The reports of the validator were where they had to be, and nowhere else. -/
def ValidatorReportLifecycleEvidence.confined (e : ValidatorReportLifecycleEvidence)
    (classification : ValidatorReportLifecycleClassification) : Bool :=
  decide (e.classification = classification) && e.legacyGlobalAbsentBefore &&
    e.legacyGlobalAbsentAfter && e.validatorStateAbsent

/-- Everything that a sustained level has to show. -/
def levelIsSustainable (variant : BenchmarkVariant) (exactLoad pressureHeartbeat workerAlive : Bool)
    (target : CompositionTargetEvidence) (oom oomKill : UInt64) (structuralRestore : Bool) : Bool :=
  exactLoad && pressureHeartbeat && workerAlive && target.hotProgress && target.warmProgress &&
    target.coldInactiveBeforeAction && target.fingerprintsValid && target.cleanupPassed &&
    decide (oom = 0) && decide (oomKill = 0) && structuralRestore &&
    match variant with
    | .cachyosBaseline =>
      !target.validatorInvoked && target.noDamonDamosMutation &&
        target.validatorReportLifecycle.confined .baselineNoReport
    | .nemorCapacity =>
      let (supported, session, cleanup, fence) := target.directShadowGates
      target.validatorInvoked && !target.noDamonDamosMutation &&
        (supported && session && cleanup && fence) && target.requiredDamosGatesPassed &&
        target.onlyColdReclaimed && target.validatorReportLifecycle.confined .pass
    | _ => false

/-- The level found the boundary: all is in order but the target made no progress. -/
def validUnsustainableHealth (expectedLevelsPerRun : ℕ)
    (exactLoad pressureHeartbeat workerAlive : Bool) (target : CompositionTargetEvidence)
    (oom oomKill : UInt64) (structuralRestore : Bool) : Bool :=
  decide (3 < expectedLevelsPerRun) && exactLoad && pressureHeartbeat && workerAlive &&
    decide (oom = 0) && decide (oomKill = 0) && target.fingerprintsValid &&
    target.descriptorConsumedOnce && target.cleanupPassed && structuralRestore &&
    (!target.hotProgress || !target.warmProgress)

/-- A level that is not sustained counts only if it was measured well. -/
def classifyLevel (sustainable validUnsustainable : Bool) : CompositionLevelClassification :=
  if sustainable then .sustainable
  else if validUnsustainable then .unsustainableHealth
  else .invalidEvidence

/-- What the worker has said about the load of a level. -/
structure LevelLoad where
  acknowledgement : WorkerLevelAcknowledgement
  pressureIntegrityIdentity : String
  pressureHeartbeat : Bool

/-- What was read after the target of a level was gone. -/
structure LevelReading where
  workerAlive : Bool
  oom : UInt64
  oomKill : UInt64
  structuralRestore : Bool
  memoryCurrentBytes : Option UInt64
  memoryPeakBytes : Option UInt64
  hostPsi : Option String
  cgroupPsi : Option String

/-- The evidence of a level, from what was read in it. -/
def levelEvidence (expectedLevelsPerRun : ℕ) (run : CompositionRunPlan)
    (level : PlannedPressureLevel) (load : LevelLoad) (target : CompositionTargetEvidence)
    (reading : LevelReading) : CapacityCompositionLevelEvidence :=
  let exactLoad := decide (load.acknowledgement.actualTouchedBytes = level.targetTouchedBytes)
  { version := compositionLevelEvidenceVersion
    runOrder := run.orderIndex
    levelIndex := level.levelIndex
    variant := run.variant
    targetTouchedBytes := level.targetTouchedBytes
    requestedDeltaBytes := load.acknowledgement.requestedDeltaBytes
    actualTouchedBytes := load.acknowledgement.actualTouchedBytes
    pressureIntegrityIdentity := load.pressureIntegrityIdentity
    pressureHeartbeat := load.pressureHeartbeat
    pressureWorkerAlive := reading.workerAlive
    -- these two are not read again: the gates of the start of the run have checked them
    cgroupMembership := true
    memoryMaxVerified := true
    memoryCurrentBytes := reading.memoryCurrentBytes
    memoryPeakBytes := reading.memoryPeakBytes
    hostPsiFullAvg10 := reading.hostPsi
    cgroupPsiFullAvg10 := reading.cgroupPsi
    -- no deltas are taken
    majorFaultDelta := none
    swapInDelta := none
    swapOutDelta := none
    blockWriteDelta := none
    oom := reading.oom
    oomKill := reading.oomKill
    watchdogTriggered := false
    target := target
    classification := classifyLevel
      (levelIsSustainable run.variant exactLoad load.pressureHeartbeat reading.workerAlive target
        reading.oom reading.oomKill reading.structuralRestore)
      (validUnsustainableHealth expectedLevelsPerRun exactLoad load.pressureHeartbeat
        reading.workerAlive target reading.oom reading.oomKill reading.structuralRestore)
    cleanupPassed := true
    structuralRestorePassed := reading.structuralRestore }

/-! ## §2 What a run is judged by -/

/-- Every level was sustained. -/
def allSustainable (levels : List CapacityCompositionLevelEvidence) : Bool :=
  levels.all fun level => decide (level.classification = .sustainable)

/-- A long ladder has ended at a level that was not sustained. -/
def observedBoundary (expectedLevelsPerRun : ℕ)
    (levels : List CapacityCompositionLevelEvidence) : Bool :=
  decide (3 < expectedLevelsPerRun) &&
    (levels.getLast?.any fun level => decide (level.classification = .unsustainableHealth)) &&
    allSustainable levels.dropLast

/-- The run has reached its end or its boundary, and has left nothing behind. -/
def runPassed (expectedLevelsPerRun : ℕ) (levels : List CapacityCompositionLevelEvidence)
    (workerStatus : ExitStatus) (scopeCleanup : CompositionScopeCleanupEvidence)
    (restored : Bool) : Bool :=
  ((decide (levels.length = expectedLevelsPerRun) && allSustainable levels) ||
      observedBoundary expectedLevelsPerRun levels) &&
    workerStatus.success && scopeCleanup.passed && restored

/-- The evidence of a run. -/
def runEvidence (expectedLevelsPerRun : ℕ) (successfulState : CompositionExperimentState)
    (run : CompositionRunPlan) (levels : List CapacityCompositionLevelEvidence)
    (workerStatus : ExitStatus) (scopeCleanup : CompositionScopeCleanupEvidence)
    (restored : Bool) : CapacityCompositionRunEvidence :=
  let passed := runPassed expectedLevelsPerRun levels workerStatus scopeCleanup restored
  { version := compositionRunEvidenceVersion
    orderIndex := run.orderIndex
    variant := run.variant
    repetitionIndex := run.repetitionIndex
    seed := run.seed
    state := if passed then successfulState else .invalidRun
    levels := levels
    scopeCleanup := scopeCleanup
    pressureScopeCleanupPassed := scopeCleanup.passed
    structuralRestorePassed := restored
    reason :=
      if passed then
        if observedBoundary expectedLevelsPerRun levels then
          "valid capacity UnsustainableHealth boundary observed"
        else "all " ++ toString expectedLevelsPerRun ++ " composition levels sustainable"
      else "composition run mandatory evidence failed" }

/-- The path of the control group of a scope. -/
def cgroupOf (scope : ScopeState) : String :=
  joinPath "/sys/fs/cgroup" (String.ofList (scope.controlGroup.toList.dropWhile (· = '/')))

/-- `i64::try_from` of a `usize`. -/
def i64TryFrom (n : ℕ) : Except String ℕ :=
  if n < 2 ^ 63 then .ok n else .error "out of range integral type conversion attempted"

/-- The scope of a run: capacity runs, with more than three levels, may take longer. -/
def scopePlan (payload : CapacityCompositionPayload) (expectedLevelsPerRun : ℕ)
    (identity : OwnedProcessIdentity) : Except String TransientScopePlan :=
  if 3 < expectedLevelsPerRun then
    TransientScopePlan.withCapacityLimits identity.runId identity payload.pressureMemoryMaxBytes 300000000
  else
    TransientScopePlan.withPressureLimits identity.runId identity payload.pressureMemoryMaxBytes 100000000

theorem scopePlan_eq_ok {payload : CapacityCompositionPayload} (expectedLevelsPerRun : ℕ)
    {identity : OwnedProcessIdentity}
    (hid : ∃ c ∈ identity.runId.toList, isAsciiAlphanumeric c = true)
    (hpos : payload.pressureMemoryMaxBytes ≠ 0)
    (hmax : payload.pressureMemoryMaxBytes ≤ 16 * 1024 * 1024 * 1024) :
    ∃ plan, scopePlan payload expectedLevelsPerRun identity = .ok plan ∧
      plan.identity = identity := by
  unfold scopePlan
  split
  · exact TransientScopePlan.limitedTo_eq_ok hid hpos hmax (.inl ⟨rfl, rfl⟩)
  · exact TransientScopePlan.limitedTo_eq_ok hid hpos hmax (.inr ⟨rfl, rfl⟩)

/-! ## §3 A run -/

section Programs

variable (env : Setting) (payload : CapacityCompositionPayload) (expectedLevelsPerRun : ℕ)

/-- Raise the load to a level and hold it. -/
def loadLevel (identity : OwnedProcessIdentity) (levelDir : String) (level : PlannedPressureLevel)
    (prior : UInt64) : Exec LevelLoad := do
  gate env (.createLevelDir levelDir)
  let command ← Act.ofExcept (commandForLevel payload.experimentId identity.runId level prior)
  let monotonicNs ← gate env .now
  let acknowledgement ← gate env (.levelRequest identity command monotonicNs)
  let pressureIntegrityIdentity ← gate env (.beginHold identity)
  let heartbeat ← gate env .receiveHeartbeat
  return ⟨acknowledgement, pressureIntegrityIdentity, heartbeat.reports level.targetTouchedBytes⟩

/-- Look at the worker and its control group after the target is gone. -/
def readLevel (identity : OwnedProcessIdentity) (scope : ScopeState) (before : StructuralSnapshot)
    (level : PlannedPressureLevel) : Exec LevelReading := do
  let heartbeat ← gate env (.requestHeartbeat identity)
  -- the answer is read off the socket and not looked at
  let _ ← ask .receiveIntegrity
  let cgroup := cgroupOf scope
  let oom ← ask (.namedCounter (joinPath cgroup "memory.events") "oom")
  let oomKill ← ask (.namedCounter (joinPath cgroup "memory.events") "oom_kill")
  let now ← ask .captureStructure
  let memoryCurrentBytes ← ask (.readU64 (joinPath cgroup "memory.current"))
  let memoryPeakBytes ← ask (.readU64 (joinPath cgroup "memory.peak"))
  let hostPsi ← ask (.readText "/proc/pressure/memory")
  let cgroupPsi ← ask (.readText (joinPath cgroup "memory.pressure"))
  return {
    workerAlive := heartbeat.reports level.targetTouchedBytes
    -- a counter that cannot be read counts as exceeded
    oom := oom.getD u64Max
    oomKill := oomKill.getD u64Max
    structuralRestore := now.agrees before
    memoryCurrentBytes := memoryCurrentBytes
    memoryPeakBytes := memoryPeakBytes
    hostPsi := hostPsi
    cgroupPsi := cgroupPsi }

/-- Write the evidence of a level to its directory and to the database. -/
def recordLevel (levelDir : String) (evidence : CapacityCompositionLevelEvidence) : Exec Unit := do
  gate env (.writeLevelEvidence (joinPath levelDir "level-evidence.json") evidence)
  let runOrder ← Act.ofExcept (i64TryFrom evidence.runOrder)
  let levelIndex ← Act.ofExcept (i64TryFrom evidence.levelIndex)
  gate env (.insertLevel runOrder levelIndex evidence)

/-- One level: command, acknowledgement, target, readings. -/
def executeLevel (run : CompositionRunPlan) (identity : OwnedProcessIdentity) (scope : ScopeState)
    (before : StructuralSnapshot) (prior : UInt64) (level : PlannedPressureLevel) :
    Exec CapacityCompositionLevelEvidence := do
  let levelDir := joinPath payload.outputRoot
    ("run-" ++ toString run.orderIndex ++ "-level-" ++ toString level.levelIndex)
  let load ← loadLevel env payload identity levelDir level prior
  let target ← targetForLevel env payload run level.levelIndex levelDir
  let reading ← readLevel env identity scope before level
  let evidence := levelEvidence expectedLevelsPerRun run level load target reading
  recordLevel env levelDir evidence
  return evidence

/-- Level after level, until one of them is not sustainable. -/
def executeLevels (run : CompositionRunPlan) (identity : OwnedProcessIdentity) (scope : ScopeState)
    (before : StructuralSnapshot) :
    UInt64 → List PlannedPressureLevel → Exec (List CapacityCompositionLevelEvidence)
  | _, [] => pure []
  | prior, level :: levels => do
    let evidence ← executeLevel env payload expectedLevelsPerRun run identity scope before prior level
    if evidence.classification = .sustainable then
      -- the next level grows from what the worker says it has touched
      let rest ← executeLevels run identity scope before evidence.actualTouchedBytes levels
      return evidence :: rest
    else return [evidence]

/-- Spawn the worker of a run and meet it. -/
def startWorker (run : CompositionRunPlan) : Exec OwnedProcessIdentity := do
  let runId := "composition-r" ++ toString run.orderIndex ++ "-" ++ payload.experimentId
  let socket := joinPath payload.outputRoot ("pressure-" ++ toString run.orderIndex ++ ".sock")
  let pid ← gate env (.spawnWorker socket payload.experimentId runId run.seed)
  -- from here on an error leaves the worker to itself: no guard holds it
  let startTicks ← gate env (.workerStartTicks pid)
  gate env (.waitForSocket socket)
  gate env (.connect socket)
  let identity : OwnedProcessIdentity := { runId, pid, startTicks }
  gate env (.receiveHello identity)
  return identity

/-- Put the worker into its scope and have it confirm the boundary. -/
def startScope (plan : TransientScopePlan) : Exec ScopeState := do
  gate env .systemBus
  let scope ← gate env (.startOwnedScope plan)
  gate env (.verifyIdentity plan.identity)
  gate env (.readProcessCgroup plan.identity.pid scope.controlGroup)
  gate env (.verifyBoundary plan.identity payload.pressureMemoryMaxBytes)
  return scope

/-- One run, level after level. The flag says whether it has passed. -/
def executeRun (successfulState : CompositionExperimentState) (run : CompositionRunPlan) :
    Exec (CapacityCompositionRunEvidence × Bool) := do
  let before ← ask .captureStructure
  let identity ← startWorker env payload run
  let plan ← Act.ofExcept (scopePlan payload expectedLevelsPerRun identity)
  let scope ← startScope env payload plan
  let levels ← executeLevels env payload expectedLevelsPerRun run identity scope before 0 run.levels
  -- a stop that fails is ignored; it is the wait that must succeed
  let _ ← ask (.stopWorker identity)
  let workerStatus ← gate env (.waitWorker identity.pid)
  let scopeCleanup ← reconcileCompositionScope plan scope (cgroupOf scope)
  let after ← ask .captureStructure
  let restored := after.agrees before
  return (runEvidence expectedLevelsPerRun successfulState run levels workerStatus scopeCleanup
      restored,
    runPassed expectedLevelsPerRun levels workerStatus scopeCleanup restored)

/-! ## §4 The execution -/

/-- Write the report beside the old one and rename it. -/
def persistExecution (evidence : CapacityCompositionExecutionEvidence) : Exec Unit := do
  gate env (.writeReport evidence)
  gate env .renameReport

/-- Run after run, until one of them does not pass. -/
def executeRuns (successfulState : CompositionExperimentState) :
    List CompositionRunPlan → CapacityCompositionExecutionEvidence →
      Exec CapacityCompositionExecutionEvidence
  | [], evidence => pure evidence
  | run :: runs, evidence => do
    let (record, passed) ← executeRun env payload expectedLevelsPerRun successfulState run
    let evidence := { evidence with
      runs := evidence.runs ++ [record]
      completedLevels := evidence.completedLevels + record.levels.length }
    if passed then
      let evidence := { evidence with completedRuns := evidence.completedRuns + 1 }
      persistExecution env evidence
      executeRuns successfulState runs evidence
    -- a run that did not pass is recorded and ends the loop
    else return { evidence with state := .invalidRun }

/-- The evidence before the first run. -/
def initialEvidence : CapacityCompositionExecutionEvidence where
  schemaVersion := compositionExecutionSchemaVersion
  experimentId := payload.experimentId
  sourceCommit := payload.gitHead
  state := .running
  reason := "composition execution running"
  runs := []
  plannedRuns := 6
  completedRuns := 0
  plannedLevels := 6 * expectedLevelsPerRun
  completedLevels := 0
  invocationCount := 1
  searchComplete := false
  capacityEvaluation := .notEvaluated
  effectivenessEvaluation := .notEvaluated
  productionActivationAuthorized := false
  cleanupPassed := false
  structuralRestorePassed := false
  payloadSha256 := ""

/-- The state and the reason that the runs amount to. -/
def concludeEvidence (successfulState : CompositionExperimentState)
    (evidence : CapacityCompositionExecutionEvidence) : CapacityCompositionExecutionEvidence :=
  -- a capacity search may end a run early, so its levels are not counted
  if evidence.completedRuns = 6 ∧
      (3 < expectedLevelsPerRun ∨ evidence.completedLevels = 6 * expectedLevelsPerRun) then
    { evidence with
      state := successfulState
      reason := "6/6 runs and " ++ toString evidence.completedLevels ++ "/" ++
        toString (6 * expectedLevelsPerRun) ++ " composition levels passed"
      cleanupPassed := true
      structuralRestorePassed := true }
  else if evidence.state = .running then
    { evidence with state := .invalidRun, reason := "composition execution incomplete" }
  else evidence

namespace CapacityCompositionExecutionEvidence

/-- The digest is of the evidence without its digest. -/
def sealed (evidence : CapacityCompositionExecutionEvidence) :
    CapacityCompositionExecutionEvidence :=
  { evidence with payloadSha256 := env.executionHash { evidence with payloadSha256 := "" } }

/-- The evidence carries its own digest and no verdict. -/
def verify (evidence : CapacityCompositionExecutionEvidence) : Except String Unit :=
  Fallible.refuse (env.executionHash { evidence with payloadSha256 := "" } ≠ evidence.payloadSha256 ∨
      evidence.capacityEvaluation ≠ .notEvaluated ∨
      evidence.effectivenessEvaluation ≠ .notEvaluated ∨ evidence.searchComplete = true ∨
      evidence.productionActivationAuthorized = true)
    "composition execution evidence integrity/non-claim mismatch"

end CapacityCompositionExecutionEvidence

/-- Six runs of as many levels as expected, and at least one. -/
def planMatches (runPlan : List CompositionRunPlan) : Bool :=
  decide (expectedLevelsPerRun ≠ 0) && decide (runPlan.length = 6) &&
    runPlan.all fun run => decide (run.levels.length = expectedLevelsPerRun)

/-- Seal what the runs have shown, and keep it. -/
def sealExecution (successfulState : CompositionExperimentState)
    (evidence : CapacityCompositionExecutionEvidence) :
    Exec CapacityCompositionExecutionEvidence := do
  let evidence := (concludeEvidence expectedLevelsPerRun successfulState evidence).sealed env
  Act.ofExcept (evidence.verify env)
  persistExecution env evidence
  gate env (.insertExperiment evidence)
  return evidence

/-- The whole experiment. The first run that fails ends it. -/
def executeCapacityCompositionPayload (successfulState : CompositionExperimentState) :
    Exec CapacityCompositionExecutionEvidence := do
  gate env .root
  if planMatches expectedLevelsPerRun payload.runPlan = false then
    Act.fail "composition payload run/level plan mismatch"
  else
    gate env (.openStore payload.outputRoot)
    let evidence := initialEvidence payload expectedLevelsPerRun
    persistExecution env evidence
    let evidence ← executeRuns env payload expectedLevelsPerRun successfulState payload.runPlan
      evidence
    sealExecution env expectedLevelsPerRun successfulState evidence

end Programs

end Nemor.Capacity
