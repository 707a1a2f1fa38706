import Nemor.Capacity.Host

/-!
# The target of a level

At each level an external target is started, exercised by the composition itself or by a
privileged validator, stopped, reaped and removed. A guard holds the target while it runs: an
error drops the guard, which stops and reaps the target as well as it can. What the level
records about the target is put together at the end, when its directory is gone.
-/

namespace Nemor.Capacity

open Effectful

/-! ## §1 Plans -/

/-- A level of the ladder. -/
structure PlannedPressureLevel where
  levelIndex : ℕ
  targetTouchedBytes : UInt64
  seed : UInt64

/-- A run of the experiment with its levels. -/
structure CompositionRunPlan where
  orderIndex : ℕ
  variant : BenchmarkVariant
  repetitionIndex : ℕ
  seed : UInt64
  levels : List PlannedPressureLevel

/-- What the composition reads of its payload. -/
structure CapacityCompositionPayload where
  experimentId : String
  gitHead : String
  sourceStateId : String
  targetSha256 : String
  outputRoot : String
  preparingUid : UInt32
  preparingGid : UInt32
  pressureMemoryMaxBytes : UInt64
  runPlan : List CompositionRunPlan

/-! ## §2 Stopping and removing a target -/

/-- What is needed to stop exactly the target that was started. -/
structure ExactTargetGuard where
  root : TargetRoot
  nonce : String
  pid : UInt32
  startTicks : UInt64

section Programs

variable (env : Setting)

/-- Remove the entries of a directory, which must all be files. -/
def removeEntries : List String → Exec Unit
  | [] => pure ()
  | path :: paths => do
    gate env (.entryIsFile path)
    gate env (.removeTargetFile path)
    removeEntries paths

/-- Remove the directory of a target. Another directory is refused. -/
def removeTargetRoot (root : TargetRoot) : Exec Unit := do
  if "target-".toList.isPrefixOf root.name.toList = false then
    Act.fail "refusing unexpected composition target root"
  else
    let paths ← gate env (.readTargetRoot root)
    removeEntries env paths
    gate env (.removeTargetRoot root)

/-- Remove a directory that exists. -/
def removeIfThere (root : TargetRoot) : Exec Unit := do
  if ← ask (.targetExists root) then removeTargetRoot env root else pure ()

/-- A target that did not stop in time is killed, if it still is the one that was spawned. -/
def killAndWait (guard : ExactTargetGuard) : Exec ExitStatus := do
  if (← gate env (.overdueStartTicks guard.pid)) = some guard.startTicks then
    gate env (.killTarget guard.pid)
    gate env (.waitTarget guard.pid)
  else gate env (.waitTarget guard.pid)

/-- Tell the target to stop, and wait for it; if it does not come, kill it. -/
def ExactTargetGuard.stopAndReap (guard : ExactTargetGuard) : Exec ExitStatus := do
  let _ ← ask (.sendStop guard.root guard.nonce)
  match ← gate env (.awaitExit guard.pid) with
  | some status => pure status
  | none => killAndWait env guard

/-- `drop` of a guard that still has its child. -/
def ExactTargetGuard.drop (guard : ExactTargetGuard) : Exec Unit := do
  let _ ← ask (.sendStop guard.root guard.nonce)
  match ← ask (.pollExit guard.pid) with
  | some _ =>
    let _ ← Act.attempt (removeIfThere env guard.root)
  | none =>
    match ← ask (.dropStartTicks guard.pid) with
    | .ok (some startTicks) =>
      if startTicks = guard.startTicks then
        let _ ← ask (.dropKill guard.pid)
        let _ ← ask (.dropWait guard.pid)
        let _ ← Act.attempt (removeIfThere env guard.root)
      -- the pid may be another process now: nothing more is done
      else pure ()
    | _ => pure ()

/-- Do something while the guard is held; an error drops it. -/
def ExactTargetGuard.orDrop {α : Type} (guard : ExactTargetGuard) (m : Exec α) : Exec α := do
  match ← Act.attempt m with
  | .ok a => pure a
  | .error error =>
    let _ ← Act.attempt (guard.drop env)
    Act.fail error

/-! ## §3 Starting a target -/

/-- Wait for a target that describes itself as expected and is ready. -/
def awaitTarget (payload : CapacityCompositionPayload) (guard : ExactTargetGuard)
    (creatorStartTicks : UInt64) : Exec CapacityExternalTargetDescriptor := do
  let path := guard.root.file "target-descriptor.json"
  gate env (.waitForDescriptor path)
  let descriptor ← gate env (.readDescriptor path
    { creatorPid := env.creatorPid
      creatorStartTicks := creatorStartTicks
      executableSha256 := payload.targetSha256
      gitHead := payload.gitHead
      pid := guard.pid
      startTicks := guard.startTicks })
  gate env (.waitInitialProgress descriptor)
  gate env (.readyStartTicks descriptor.payload.identity.pid
    descriptor.payload.identity.startTicks)
  return descriptor

/-- Clean up after a target that did not get ready, and fail. -/
def abandonTarget {α : Type} (guard : ExactTargetGuard) (error : String) : Exec α := do
  match ← Act.attempt (guard.stopAndReap env) with
  | .error cleanup =>
    -- the guard still holds the child, and goes out of scope
    let _ ← Act.attempt (guard.drop env)
    Act.fail ("target cleanup also failed: " ++ cleanup ++ ": " ++ error)
  | .ok _ =>
    match ← Act.attempt (removeIfThere env guard.root) with
    | .error cleanup => Act.fail ("target cleanup also failed: " ++ cleanup ++ ": " ++ error)
    | .ok _ => Act.fail error

/-- Start a target and check its descriptor. -/
def spawnTarget (payload : CapacityCompositionPayload) (root : TargetRoot)
    (transactionId sessionId nonce : String) :
    Exec (ExactTargetGuard × CapacityExternalTargetDescriptor) := do
  gate env (.createTargetRoot root)
  gate env (.setTargetPermissions root)
  let creatorStartTicks ← gate env (.creatorStartTicks env.creatorPid)
  let pid ← gate env (.spawnTarget
    { root := root
      transactionId := transactionId
      sessionId := sessionId
      nonce := nonce
      creatorPid := env.creatorPid
      creatorStartTicks := creatorStartTicks
      preparingUid := payload.preparingUid
      preparingGid := payload.preparingGid })
  -- the target runs, and no guard holds it yet
  let startTicks ← gate env (.targetStartTicks pid)
  let guard : ExactTargetGuard := { root, nonce, pid, startTicks }
  match ← Act.attempt (awaitTarget env payload guard creatorStartTicks) with
  | .ok descriptor => pure (guard, descriptor)
  | .error error => abandonTarget env guard error

/-! ## §4 A level of a target -/

/-- What the service of a target has shown. -/
structure TargetService where
  before : CapacityExternalTargetProgress
  directShadowGates : Bool × Bool × Bool × Bool
  requiredDamosGatesPassed : Bool
  appliedBytes : UInt64
  onlyColdReclaimed : Bool
  cleanup : Bool
  lifecycle : ValidatorReportLifecycleEvidence

/-- A check of the report has passed. -/
def ScopedReport.passed (report : ScopedReport) (name : String) : Bool :=
  report.checks.any fun check => decide (check = (some name, some true))

/-- Leave the target to the privileged validator. -/
def validateTarget (payload : CapacityCompositionPayload) (guard : ExactTargetGuard)
    (transactionId sessionId levelDir : String) (before : CapacityExternalTargetProgress) :
    Exec TargetService := do
  gate env .legacyReportAbsent
  gate env .validatorStateAbsent
  let legacyAbsentBefore ← ask .legacyReport
  let creatorStartTicks ← gate env (.creatorStartTicks env.creatorPid)
  let reportPath := joinPath levelDir "raw-damos-report.json"
  let status ← gate env (.runValidator (guard.root.file "target-descriptor.json")
    { root := guard.root
      transactionId := transactionId
      sessionId := sessionId
      nonce := guard.nonce
      creatorPid := env.creatorPid
      creatorStartTicks := creatorStartTicks
      preparingUid := payload.preparingUid
      preparingGid := payload.preparingGid } reportPath)
  let report ← gate env (.inspectReport reportPath status.code legacyAbsentBefore)
  return {
    before := before
    directShadowGates :=
      (report.passed "vaddr_pageout_supported", report.passed "shadow_session_passed",
        report.passed "shadow_cleanup", report.passed "cold_address_fence")
    requiredDamosGatesPassed := report.requiredGatesPassed.getD false
    appliedBytes := report.szApplied.getD 0
    onlyColdReclaimed :=
      report.passed "cold_address_fence" && report.passed "reclaim_effect_observed" &&
        report.passed "hot_not_reclaimed" && report.passed "warm_not_reclaimed" &&
        report.passed "refault_content_valid"
    cleanup :=
      status.success && report.passed "cleanup" && report.passed "scheme_removed" &&
        report.passed "recovery" && report.passed "recovery_idempotent" &&
        report.hostUnchanged.getD false
    lifecycle := report.lifecycle }

/-- Without a daemon there is no report, before and after. -/
def baselineReportLifecycle : Exec ValidatorReportLifecycleEvidence := do
  let legacyBefore ← ask .legacyReport
  let legacyAfter ← ask .legacyReport
  let stateAbsent ← ask .validatorState
  return {
    version := 1
    reportPath := none
    rawSha256 := none
    canonicalSemanticSha256 := none
    metadata := none
    validatorExitStatus := none
    explicitPathMode := false
    legacyGlobalAbsentBefore := legacyBefore
    legacyGlobalAbsentAfter := legacyAfter
    validatorStateAbsent := stateAbsent
    classification := .baselineNoReport }

/-- Consume the descriptor, and start and stop the target. -/
def exerciseTarget (guard : ExactTargetGuard) (descriptorHash : String)
    (before : CapacityExternalTargetProgress) : Exec TargetService := do
  gate env (.consumeDescriptor guard.root descriptorHash)
  gate env (.writeStart guard.root guard.nonce)
  gate env (.writeStop guard.root guard.nonce)
  let lifecycle ← baselineReportLifecycle
  return {
    before := before
    -- the composition itself has no gates to report
    directShadowGates := (false, false, false, false)
    requiredDamosGatesPassed := false
    appliedBytes := 0
    onlyColdReclaimed := true
    cleanup := true
    lifecycle := lifecycle }

/-- Tell a target to stop that is not stopping yet. -/
def stopIfActive (guard : ExactTargetGuard) (progressPath : String) : Exec Unit := do
  match ← ask (.readState progressPath) with
  | .ok progress =>
    if progress.state = .stopping ∨ progress.state = .stopped then pure ()
    else
      let _ ← ask (.sendStop guard.root guard.nonce)
  | .error _ => pure ()

/-- The service action: by the validator for the capacity variant, else by the composition. -/
def actOnTarget (payload : CapacityCompositionPayload) (variant : BenchmarkVariant)
    (guard : ExactTargetGuard) (descriptor : CapacityExternalTargetDescriptor)
    (transactionId sessionId levelDir : String) (before : CapacityExternalTargetProgress) :
    Exec TargetService :=
  if variant = .nemorCapacity then
    validateTarget env payload guard transactionId sessionId levelDir before
  else exerciseTarget env guard descriptor.payloadSha256 before

/-- All that happens to a target between its start and its end. -/
def serveTarget (payload : CapacityCompositionPayload) (variant : BenchmarkVariant)
    (guard : ExactTargetGuard) (descriptor : CapacityExternalTargetDescriptor)
    (transactionId sessionId levelDir : String) : Exec TargetService := do
  let before ← gate env (.readBefore descriptor.payload.progressPath)
  let service ← actOnTarget env payload variant guard descriptor transactionId sessionId levelDir
    before
  stopIfActive guard descriptor.payload.progressPath
  return service

/-- The names of the directory and the transaction of a target. -/
def targetRoot (payload : CapacityCompositionPayload) (run : CompositionRunPlan)
    (levelIndex : ℕ) : TargetRoot where
  parent := payload.outputRoot
  name := "target-r" ++ toString run.orderIndex ++ "-l" ++ toString levelIndex

/-- The transaction of a level. -/
def transactionIdOf (payload : CapacityCompositionPayload) (run : CompositionRunPlan)
    (levelIndex : ℕ) : String :=
  payload.experimentId ++ "-r" ++ toString run.orderIndex ++ "-l" ++ toString levelIndex

/-- The session of its target. -/
def sessionIdOf (run : CompositionRunPlan) (levelIndex : ℕ) : String :=
  "session-r" ++ toString run.orderIndex ++ "-l" ++ toString levelIndex

/-- What is recorded about a target, with the answers of the last questions. -/
def targetEvidence (transactionId sessionId : String) (variant : BenchmarkVariant)
    (descriptor : CapacityExternalTargetDescriptor) (service : TargetService)
    (after : CapacityExternalTargetProgress) (status : ExitStatus)
    (legacyAbsentAfter validatorStateAbsent consumed : Bool) : CompositionTargetEvidence where
  version := compositionTargetEvidenceVersion
  transactionId := transactionId
  sessionId := sessionId
  descriptorHash := descriptor.payloadSha256
  pid := descriptor.payload.identity.pid
  startTicks := descriptor.payload.identity.startTicks
  ranges := descriptor.payload.ranges
  before := service.before
  after := after
  hotProgress := decide (service.before.hotCycles < after.hotCycles)
  warmProgress := decide (service.before.warmCycles < after.warmCycles)
  coldInactiveBeforeAction := decide (service.before.coldCycles = 0)
  fingerprintsValid := decide ((after.hotFingerprint, after.warmFingerprint,
    after.coldFingerprint) = descriptor.payload.mappingContentIdentities)
  descriptorConsumedOnce := consumed
  validatorInvoked := decide (variant = .nemorCapacity)
  noDamonDamosMutation := !decide (variant = .nemorCapacity)
  directShadowGates := service.directShadowGates
  requiredDamosGatesPassed := service.requiredDamosGatesPassed
  appliedBytes := service.appliedBytes
  onlyColdReclaimed := service.onlyColdReclaimed
  cleanupPassed := service.cleanup && status.success
  validatorReportLifecycle :=
    { service.lifecycle with
      legacyGlobalAbsentAfter := legacyAbsentAfter
      validatorStateAbsent := validatorStateAbsent }

/-- Save what the target has left, remove it and record the level. -/
def concludeTarget (run : CompositionRunPlan) (root : TargetRoot)
    (transactionId sessionId levelDir : String) (descriptor : CapacityExternalTargetDescriptor)
    (service : TargetService) (status : ExitStatus) : Exec CompositionTargetEvidence := do
  let after ← gate env (.readAfter descriptor.payload.progressPath)
  gate env (.copyDescriptor (root.file "target-descriptor.json")
    (joinPath levelDir "target-descriptor.json"))
  gate env (.writeProgress (joinPath levelDir "target-progress.json") after)
  removeTargetRoot env root
  let legacyAbsentAfter ← ask .legacyReport
  let validatorStateAbsent ← ask .validatorState
  -- the marker was in the directory that has just been removed
  let consumed ← ask (.consumedExists root)
  return targetEvidence transactionId sessionId run.variant descriptor service after status
    legacyAbsentAfter validatorStateAbsent consumed

/-- The target of a level, from its start to its end. -/
def targetForLevel (payload : CapacityCompositionPayload) (run : CompositionRunPlan)
    (levelIndex : ℕ) (levelDir : String) : Exec CompositionTargetEvidence := do
  let transactionId := transactionIdOf payload run levelIndex
  let sessionId := sessionIdOf run levelIndex
  let nonce := env.textHash (payload.sourceStateId ++ ":" ++ transactionId ++ ":" ++ sessionId ++
    ":" ++ toString run.seed)
  let root := targetRoot payload run levelIndex
  let (guard, descriptor) ← spawnTarget env payload root transactionId sessionId nonce
  let service ← guard.orDrop env
    (serveTarget env payload run.variant guard descriptor transactionId sessionId levelDir)
  -- the target may have stopped already; reaping it is still due
  let status ← guard.orDrop env (guard.stopAndReap env)
  concludeTarget env run root transactionId sessionId levelDir descriptor service status

end Programs

end Nemor.Capacity
