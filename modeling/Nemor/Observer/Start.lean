import Nemor.Lib.Procedure
import Nemor.Observer.Plan

/-!
# Starting and stopping an observer

To start an observer, its executable and its configuration are staged in `/run`, a transient
service is started from them, and the service is waited for until it has written a sample. Each
step can fail. A start that fails should leave nothing behind: neither of the two files, and not
the service.

The host answers each call in its own way. The answers of one start are a record, and the start
is a procedure on the files of `/run` and on the service unit of the plan's name.

- §1: the host
- §2: staged files
- §3: the service manager
- §4: start and clean-up
- §5: the harness
-/

namespace Nemor.Observer

open UnixPath Procedure

/-! ## §1 The host -/

/-- A file as `stat` and `read` show it. -/
structure StagedFile where
  content : List UInt8
  uid : UInt32
  mode : UInt32
  nlink : ℕ

/-- The unit of the plan's name, as the service manager has it. -/
inductive ServiceUnit where
  | absent
  -- loaded before the start
  | foreign
  -- started by the start
  | owned
  deriving DecidableEq

/-- The part of the host that a start changes. -/
structure ObserverHost where
  files : List Component → Option StagedFile
  unit : ServiceUnit

/-- The errors of one staging, if its steps fail. -/
structure StageFaults where
  opening : Option String
  writing : Option String
  permissions : Option String
  syncing : Option String
  metadata : Option String
  hashing : Option String

/-- The first error after the opening. -/
def StageFaults.filling (f : StageFaults) : Option String :=
  f.writing.or (f.permissions.or (f.syncing.or (f.metadata.or f.hashing)))

/-- How a query for a unit is answered. -/
inductive UnitQuery where
  -- no proxy for the manager
  | noManager (error : String)
  -- the call `GetUnit` fails for another reason than a missing unit
  | failed
  | answered

/-- How a job of the service manager ends. -/
inductive JobAnswer where
  -- the job was not accepted
  | refused (error : String)
  -- the job was accepted; `loaded` says whether the unit is there after it
  | accepted (loaded : Bool) (error : Option String)

/-- What the harness reads of the state of a started service. -/
structure ObserverServiceState where
  mainPid : UInt32
  startTicks : UInt64
  controlGroup : String

/-- The answers of the manager to a start. -/
structure StartAnswers where
  existing : UnitQuery
  job : JobAnswer
  settled : Except String ObserverServiceState

/-- The answers of the manager to a stop. -/
structure StopAnswers where
  existing : UnitQuery
  job : JobAnswer

/-- One round of the wait for the unit's absence. -/
structure AbsencePoll where
  -- the manager has unloaded the unit before this round
  unloaded : Bool
  existing : UnitQuery
  runtimeDirectory : Bool

/-- The answers of the host to one start, and to the clean-up after it. -/
structure ObserverAnswers where
  root : Bool
  source : Except String (List UInt8)
  config : Except String (List UInt8)
  binaryStage : StageFaults
  configStage : StageFaults
  connection : Option String
  preflight : Option String
  start : StartAnswers
  declared : Option String
  ready : Option String
  stop : StopAnswers
  polls : List AbsencePoll
  cpuTicks : Option UInt64

/-- A procedure on the host. -/
abbrev Exec := EStateM String ObserverHost

/-! ## §2 Staged files -/

/-- The host with a file, or without it. -/
def ObserverHost.put (h : ObserverHost) (path : PathBuf) (file : Option StagedFile) :
    ObserverHost :=
  { h with files := Function.update h.files path.components file }

/-- `create_new`: a file that is there is not opened. The file belongs to root, who runs this. -/
def createStaged (fault : Option String) (path : PathBuf) (mode : UInt32) : Exec Unit := fun h =>
  match h.files path.components with
  | some _ => .error "File exists (os error 17)" h
  | none =>
    match fault with
    | some e => .error e h
    | none => .ok () (h.put path (some { content := [], uid := 0, mode := mode, nlink := 1 }))

/-- Change a staged file through its open descriptor. -/
def alterStaged (path : PathBuf) (f : StagedFile → StagedFile) : Exec Unit := fun h =>
  .ok () (h.put path ((h.files path.components).map f))

/-- `remove_file`, which succeeds. -/
def removeFile (path : PathBuf) : Exec Unit := fun h => .ok () (h.put path none)

/-- `metadata`, and the content with it. -/
def statStaged (path : PathBuf) : Exec StagedFile := fun h =>
  match h.files path.components with
  | some file => .ok file h
  | none => .error "No such file or directory (os error 2)" h

section Staging

variable (sha256 : List UInt8 → String)

/-- What is done with a staged file once it is open. -/
def fillStaged (f : StageFaults) (path : PathBuf) (bytes : List UInt8) (mode expectedUid : UInt32)
    (expectedSha256 : String) : Exec Unit := do
  failWith f.writing
  alterStaged path fun file => { file with content := bytes }
  failWith f.permissions
  alterStaged path fun file => { file with mode := mode }
  failWith f.syncing
  failWith f.metadata
  let metadata ← statStaged path
  refuse (metadata.uid ≠ expectedUid ∨ metadata.mode &&& 0o777 ≠ mode ∨ metadata.nlink ≠ 1 ∨
      metadata.content.length ≠ bytes.length)
    "staged transaction input metadata mismatch"
  failWith f.hashing
  let file ← statStaged path
  refuse (sha256 file.content ≠ expectedSha256) "staged transaction input hash mismatch"

/-- Write a new file and verify it. One that cannot be verified is removed again. -/
def stageVerifiedBytes (f : StageFaults) (path : PathBuf) (bytes : List UInt8)
    (mode expectedUid : UInt32) (expectedSha256 : String) : Exec Unit := do
  createStaged f.opening path mode
  let staged ← attempt (fillStaged sha256 f path bytes mode expectedUid expectedSha256)
  match staged with
  | .ok () => pure ()
  | .error e => do
    removeFile path
    throw e

/-- Remove a staged file, if it is the one that was staged. -/
def removeStagedInput (path : PathBuf) (lead : String) (expectedUid expectedMode : UInt32)
    (expectedSha256 : String) : Exec Unit := do
  refuse (isStagedInput path lead = false) "refusing unsafe staged input cleanup target"
  let file ← statStaged path
  refuse (file.uid ≠ expectedUid ∨ file.mode &&& 0o777 ≠ expectedMode ∨ file.nlink ≠ 1 ∨
      sha256 file.content ≠ expectedSha256)
    "refusing ambiguous staged input cleanup"
  removeFile path

/-- Stage both files of a plan. The binary goes again when the configuration cannot be staged. -/
def stageInputs (plan : ObserverServicePlan) (answers : ObserverAnswers)
    (source config : List UInt8) (sourceSha256 configSha256 : String) : Exec Unit := do
  stageVerifiedBytes sha256 answers.binaryStage plan.binary source 0o755 0 sourceSha256
  let staged ← attempt
    (stageVerifiedBytes sha256 answers.configStage plan.config config 0o644 0 configSha256)
  match staged with
  | .ok () => pure ()
  | .error e => do
    let _ ← attempt (removeStagedInput sha256 plan.binary stagedBinaryLead 0 0o755 sourceSha256)
    throw e

/-- `cleanup_paths`: both removals are tried, and the results come back configuration first. -/
def cleanupPaths (plan : ObserverServicePlan) (sourceSha256 configSha256 : String) :
    Exec (Except String Unit × Except String Unit) := do
  let config ← attempt
    (removeStagedInput sha256 plan.config stagedConfigLead 0 0o644 configSha256)
  let binary ← attempt
    (removeStagedInput sha256 plan.binary stagedBinaryLead 0 0o755 sourceSha256)
  pure (config, binary)

end Staging

/-! ## §3 The service manager -/

/-- A procedure on the unit. -/
abbrev Backend := EStateM String ServiceUnit

/-- A call that fails counts as a unit that is not there. -/
def unitExists (query : UnitQuery) : Backend Bool := fun u =>
  match query with
  | .noManager e => .error e u
  | .failed => .ok false u
  | .answered => .ok (u != .absent) u

/-- `StartTransientUnit`, in mode `fail`: a unit that is loaded is not started again. -/
def startJob (job : JobAnswer) : Backend Unit := fun u =>
  match job with
  | .refused e => .error e u
  -- a job that was accepted may have loaded the unit and fail all the same
  | .accepted loaded error =>
    if u ≠ .absent then .error "Unit was already loaded or has a fragment file." u
    else (failWith error).run (if loaded then .owned else .absent)

/-- `StopUnit`. -/
def stopJob (job : JobAnswer) : Backend Unit := fun u =>
  match job with
  | .refused e => .error e u
  | .accepted loaded error => (failWith error).run (if loaded then u else .absent)

/-- Start a unit that is not there yet. -/
def start (answers : StartAnswers) : Backend ObserverServiceState := do
  let existing ← unitExists answers.existing
  refuse (existing = true) "exact observer service name already exists"
  startJob answers.job
  ofResult answers.settled

/-- Stop the unit, if it is there. -/
def stop (answers : StopAnswers) : Backend Unit := do
  let existing ← unitExists answers.existing
  -- a unit that is not there needs no stop
  if existing then stopJob answers.job else pure ()

/-- The manager may unload the unit between two rounds. -/
def collect (unloaded : Bool) : Backend Unit := fun u => .ok () (if unloaded then .absent else u)

/-- The wait ends with an error when its time is over. -/
def waitAbsent : List AbsencePoll → Backend Unit
  | [] => throw "observer unit or RuntimeDirectory remained after cleanup"
  | poll :: polls => do
    collect poll.unloaded
    let existing ← unitExists poll.existing
    -- an error of the query ends the wait at once
    if !existing && !poll.runtimeDirectory then pure () else waitAbsent polls

/-- Run a method of the service manager. -/
def onUnit {α : Type} (x : Backend α) : Exec α :=
  zoom ObserverHost.unit (fun u h => { h with unit := u }) x

/-! ## §4 Start and clean-up -/

/-- `anyhow::Context`. -/
def withContext (context : String) (e : String) : String := context ++ ": " ++ e

/-- A started observer, with what is needed to clean up after it. -/
structure PerformanceObserverHandle where
  plan : ObserverServicePlan
  state : ObserverServiceState
  sourceSha256 : String
  configSha256 : String

section Programs

variable (sha256 : List UInt8 → String)

/-- Both the stop and the wait are made before either error counts. -/
def cleanupStartedObserver (plan : ObserverServicePlan) (answers : ObserverAnswers)
    (sourceSha256 configSha256 : String) : Exec Unit := do
  let stopped ← attempt (onUnit (stop answers.stop))
  let absence ← attempt (onUnit (waitAbsent answers.polls))
  ofResult (stopped.mapError (withContext "observer StopUnit cleanup"))
  ofResult (absence.mapError (withContext "observer service absence cleanup"))
  -- the two results are bound the other way round
  let (binary, config) ← cleanupPaths sha256 plan sourceSha256 configSha256
  ofResult (binary.mapError (withContext "performance observer binary cleanup"))
  ofResult (config.mapError (withContext "performance observer config cleanup"))

/-- Clean up after an error and return it. -/
def failCleaned {α : Type} (plan : ObserverServicePlan) (answers : ObserverAnswers)
    (sourceSha256 configSha256 : String) (e : String) : Exec α := do
  let cleanup ← attempt (cleanupStartedObserver sha256 plan answers sourceSha256 configSha256)
  match cleanup with
  | .ok () => throw e
  | .error failure => throw (e ++ "; cleanup failure: " ++ failure)

/-- Bytes that were read from a file and have the expected hash. -/
def readVerified (bytes : Except String (List UInt8)) (expectedSha256 mismatch : String) :
    Exec (List UInt8) := do
  let bytes ← ofResult bytes
  refuse (sha256 bytes ≠ expectedSha256) mismatch
  pure bytes

/-- What is checked and read before anything is staged. -/
def readInputs (plan : ObserverServicePlan) (answers : ObserverAnswers)
    (sourceSha256 configSha256 : String) : Exec (List UInt8 × List UInt8) := do
  refuse (answers.root = false) "performance observer service requires privileged execution"
  let source ← readVerified sha256 answers.source sourceSha256
    "source observer content hash differs from prepared manifest"
  ofResult plan.validate
  refuse (plan.runtimeMaxUsec ≤ serviceRuntimeMaxUsec ∨
      plan.runtimeMaxUsec > performanceServiceRuntimeMaxUsec)
    "performance observer RuntimeMax is outside the performance contract"
  let config ← readVerified sha256 answers.config configSha256
    "prepared source changed while staging or hash mismatched"
  pure (source, config)

/-- The service is started, checked and waited for, or cleaned up. -/
def startService (plan : ObserverServicePlan) (answers : ObserverAnswers)
    (sourceSha256 configSha256 : String) : Exec PerformanceObserverHandle := do
  let started ← attempt (onUnit (start answers.start))
  match started with
  | .error e => failCleaned sha256 plan answers sourceSha256 configSha256 e
  | .ok state =>
    match answers.declared with
    | some e => failCleaned sha256 plan answers sourceSha256 configSha256 e
    | none =>
      match answers.ready with
      | some e => failCleaned sha256 plan answers sourceSha256 configSha256 e
      | none => pure { plan, state, sourceSha256, configSha256 }

/-- `start_performance_observer`. -/
def startPerformanceObserver (plan : ObserverServicePlan) (answers : ObserverAnswers)
    (sourceSha256 configSha256 : String) : Exec PerformanceObserverHandle := do
  let (source, config) ← readInputs sha256 plan answers sourceSha256 configSha256
  stageInputs sha256 plan answers source config sourceSha256 configSha256
  -- the `?` of both returns with the two files staged
  failWith answers.connection
  failWith answers.preflight
  startService sha256 plan answers sourceSha256 configSha256

/-- `stop_and_cleanup`. -/
def PerformanceObserverHandle.stopAndCleanup (handle : PerformanceObserverHandle)
    (answers : ObserverAnswers) : Exec Unit :=
  cleanupStartedObserver sha256 handle.plan answers handle.sourceSha256 handle.configSha256

/-! ## §5 The harness -/

/-- The shortest measurement that is observed. -/
def checkpoint3aMinMeasurementMs : UInt64 := 20000

/-- What the harness starts an observer with. -/
structure ObserverLaunch where
  servicePlan : ObserverServicePlan
  binarySha256 : String
  configHash : String

/-- An observer that the harness has adopted. -/
structure ObserverRuntime where
  service : PerformanceObserverHandle
  measurementCpuStartTicks : UInt64

/-- What the harness does with a started observer. -/
def adoptObserver (handle : PerformanceObserverHandle) (workerControlGroup : String)
    (answers : ObserverAnswers) : Exec ObserverRuntime :=
  if handle.state.controlGroup = workerControlGroup then do
    -- whatever the clean-up returns
    let _ ← attempt (handle.stopAndCleanup sha256 answers)
    throw "owned observer entered worker cgroup"
  else
    match answers.cpuTicks with
    -- the handle is dropped, with the service running
    | none => throw "observer CPU unavailable"
    | some ticks => pure { service := handle, measurementCpuStartTicks := ticks }

/-- `start_observer`, the start with the harness around it. -/
def startObserver (launch : ObserverLaunch) (workerControlGroup : String) (measurementMs : UInt64)
    (answers : ObserverAnswers) : Exec ObserverRuntime := do
  refuse (measurementMs < checkpoint3aMinMeasurementMs)
    "owned observer is available only for Checkpoint 3A performance runs"
  let handle ← startPerformanceObserver sha256 launch.servicePlan answers launch.binarySha256
    launch.configHash
  adoptObserver sha256 handle workerControlGroup answers

end Programs

end Nemor.Observer
