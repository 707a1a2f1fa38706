import Mathlib.Data.Nat.Notation

/-!
# Evidence of a capacity benchmark

What a composition of pressure worker and external target leaves behind: one record for each
level, one for each run, one for the whole experiment. The evaluation reads nothing else.
-/

namespace Nemor.Capacity

/-! ## §1 Vocabulary -/

/-- What is compared: the system as it is, and the daemon in its modes. -/
inductive BenchmarkVariant where
  | cachyosBaseline
  | nemorObserve
  | nemorSafe
  | nemorGaming
  | nemorCapacity
  | zram
  | zswap
  deriving DecidableEq

/-- What has become of a target. -/
inductive EvaluationState where
  | pass
  | fail
  | notEvaluated
  deriving DecidableEq

/-- How far a composition is, or how it has ended. -/
inductive CompositionExperimentState where
  | running
  | completedCompositionFrameworkValidation
  | rejectedBeforeRun0
  | invalidRun
  | unsustainableHealth
  | safetyAbort
  | executionError
  deriving DecidableEq

/-- What a level has shown. -/
inductive CompositionLevelClassification where
  | sustainable
  | unsustainableHealth
  | safetyAbort
  | invalidEvidence
  | loadTransitionTimeout
  | loadIpcFailure
  | targetOwnershipRejected
  | targetProtocolFailure
  | targetHeartbeatFailure
  | targetIntegrityFailure
  | shadowCapabilityFailure
  | liveActionFailure
  | cleanupFailure
  | restoreFailure
  | executionError
  deriving DecidableEq

/-- The version of the evidence of an experiment. -/
def compositionExecutionSchemaVersion : UInt32 := 3

/-- The version of the evidence of a run. -/
def compositionRunEvidenceVersion : UInt32 := 3

/-- The version of the evidence of a level. -/
def compositionLevelEvidenceVersion : UInt32 := 2

/-- The version of the evidence of a target. -/
def compositionTargetEvidenceVersion : UInt32 := 2

/-! ## §2 The external target -/

/-- How far a target is. -/
inductive CapacityExternalTargetState where
  | created
  | mappingsFaulted
  | ready
  | active
  | stopping
  | stopped
  | failed
  deriving DecidableEq

/-- A half-open range of addresses. -/
structure AddressRange where
  start : UInt64
  stop : UInt64

/-- The three zones of a target. -/
structure CapacityExternalTargetRanges where
  hot : AddressRange
  warm : AddressRange
  cold : AddressRange

/-- What the target reports about itself. -/
structure CapacityExternalTargetProgress where
  protocolVersion : UInt32
  targetSessionId : String
  nonce : String
  state : CapacityExternalTargetState
  sequence : UInt64
  heartbeatMonotonicNs : ℕ
  hotCycles : UInt64
  warmCycles : UInt64
  hotPagesTouched : UInt64
  warmPagesTouched : UInt64
  coldCycles : UInt64
  controlledRefaults : UInt64
  hotFingerprint : String
  warmFingerprint : String
  coldFingerprint : String

/-- What was found of the report of a validator. -/
inductive ValidatorReportLifecycleClassification where
  | pass
  | baselineNoReport
  | missing
  | unsafeMetadata
  | invalidJson
  | semanticFailure
  | legacyGlobalPresent
  deriving DecidableEq

/-- A file, as `stat` shows it. -/
structure ValidatorReportMetadata where
  path : String
  device : UInt64
  inode : UInt64
  uid : UInt32
  gid : UInt32
  mode : UInt32
  linkCount : UInt64
  size : UInt64
  fileType : String

/-- How a report was found, read and removed again. -/
structure ValidatorReportLifecycleEvidence where
  version : UInt32
  reportPath : Option String
  rawSha256 : Option String
  canonicalSemanticSha256 : Option String
  metadata : Option ValidatorReportMetadata
  validatorExitStatus : Option Int32
  explicitPathMode : Bool
  legacyGlobalAbsentBefore : Bool
  legacyGlobalAbsentAfter : Bool
  validatorStateAbsent : Bool
  classification : ValidatorReportLifecycleClassification

/-- What is known of the target of a level when it is gone. -/
structure CompositionTargetEvidence where
  version : UInt32
  transactionId : String
  sessionId : String
  descriptorHash : String
  pid : UInt32
  startTicks : UInt64
  ranges : CapacityExternalTargetRanges
  before : CapacityExternalTargetProgress
  after : CapacityExternalTargetProgress
  hotProgress : Bool
  warmProgress : Bool
  coldInactiveBeforeAction : Bool
  fingerprintsValid : Bool
  descriptorConsumedOnce : Bool
  validatorInvoked : Bool
  noDamonDamosMutation : Bool
  directShadowGates : Bool × Bool × Bool × Bool
  requiredDamosGatesPassed : Bool
  appliedBytes : UInt64
  onlyColdReclaimed : Bool
  cleanupPassed : Bool
  validatorReportLifecycle : ValidatorReportLifecycleEvidence

/-! ## §3 Levels and runs -/

/-- Everything that was measured in a level. -/
structure CapacityCompositionLevelEvidence where
  version : UInt32
  runOrder : ℕ
  levelIndex : ℕ
  variant : BenchmarkVariant
  targetTouchedBytes : UInt64
  requestedDeltaBytes : UInt64
  actualTouchedBytes : UInt64
  pressureIntegrityIdentity : String
  pressureHeartbeat : Bool
  pressureWorkerAlive : Bool
  cgroupMembership : Bool
  memoryMaxVerified : Bool
  memoryCurrentBytes : Option UInt64
  memoryPeakBytes : Option UInt64
  hostPsiFullAvg10 : Option String
  cgroupPsiFullAvg10 : Option String
  majorFaultDelta : Option UInt64
  swapInDelta : Option UInt64
  swapOutDelta : Option UInt64
  blockWriteDelta : Option UInt64
  oom : UInt64
  oomKill : UInt64
  watchdogTriggered : Bool
  target : CompositionTargetEvidence
  classification : CompositionLevelClassification
  cleanupPassed : Bool
  structuralRestorePassed : Bool

/-- How the scope of the worker was brought to an end. -/
inductive CompositionScopeStopAction where
  | alreadyAbsent
  | stopUnitRequested
  | stopUnitNoSuchUnitReconciled
  | stopFailed
  deriving DecidableEq

/-- What is left of the scope. -/
inductive CompositionScopeCleanupClassification where
  | clean
  | activeOrMembered
  | ownershipAmbiguous
  | stateUnreadable
  | removalTimeout
  | stopFailed
  deriving DecidableEq

/-- The `Debug` text of a classification. -/
def CompositionScopeCleanupClassification.debug : CompositionScopeCleanupClassification → String
  | .clean => "Clean"
  | .activeOrMembered => "ActiveOrMembered"
  | .ownershipAmbiguous => "OwnershipAmbiguous"
  | .stateUnreadable => "StateUnreadable"
  | .removalTimeout => "RemovalTimeout"
  | .stopFailed => "StopFailed"

/-- What the reconciliation of a scope has found. -/
structure CompositionScopeCleanupEvidence where
  frozenUnitName : String
  frozenObjectPath : String
  frozenControlGroup : String
  workerPid : UInt32
  workerStartTicks : UInt64
  workerAbsent : Bool
  preStopStateReadable : Bool
  preStopUnitPresent : Bool
  preStopActiveState : Option String
  preStopSubState : Option String
  preStopCgroupMemberCount : Option ℕ
  ownershipExact : Bool
  stopAction : CompositionScopeStopAction
  stopJobResult : Option String
  noSuchUnitTyped : Bool
  postErrorReconciliationAttempted : Bool
  finalStateReadable : Bool
  finalActiveState : Option String
  finalSubState : Option String
  finalCgroupMemberCount : Option ℕ
  cgroupAbsentOrZeroMembers : Bool
  unitRemoved : Bool
  removalWaitMs : UInt64
  classification : CompositionScopeCleanupClassification
  failureReason : Option String

/-- The worker is gone, and nothing of its scope is left. -/
def CompositionScopeCleanupEvidence.passed (e : CompositionScopeCleanupEvidence) : Bool :=
  e.workerAbsent && e.finalStateReadable && e.cgroupAbsentOrZeroMembers && e.unitRemoved &&
    e.classification == .clean &&
    match e.stopAction with
    | .alreadyAbsent | .stopUnitRequested | .stopUnitNoSuchUnitReconciled => true
    | .stopFailed => false

/-- What is known of a run, with the levels that it reached. -/
structure CapacityCompositionRunEvidence where
  version : UInt32
  orderIndex : ℕ
  variant : BenchmarkVariant
  repetitionIndex : ℕ
  seed : UInt64
  state : CompositionExperimentState
  levels : List CapacityCompositionLevelEvidence
  scopeCleanup : CompositionScopeCleanupEvidence
  pressureScopeCleanupPassed : Bool
  structuralRestorePassed : Bool
  reason : String

/-- What is known of an experiment. The digest covers all of it. -/
structure CapacityCompositionExecutionEvidence where
  schemaVersion : UInt32
  experimentId : String
  sourceCommit : String
  state : CompositionExperimentState
  reason : String
  runs : List CapacityCompositionRunEvidence
  plannedRuns : ℕ
  completedRuns : ℕ
  plannedLevels : ℕ
  completedLevels : ℕ
  invocationCount : UInt32
  searchComplete : Bool
  capacityEvaluation : EvaluationState
  effectivenessEvaluation : EvaluationState
  productionActivationAuthorized : Bool
  cleanupPassed : Bool
  structuralRestorePassed : Bool
  payloadSha256 : String

end Nemor.Capacity
