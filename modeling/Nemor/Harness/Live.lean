import Nemor.Capacity.Host
import Nemor.Harness.Gates
import Nemor.Lib.Text

/-!
# A live run of the harness

A worker is spawned, put into a transient scope with a memory limit, told to allocate and measured
for a while. `runMutatingSequence` does this and sets a gate at each step that is verified; where
it fails it returns at once. Its error is dropped: after it the observer is stopped, worker and scope
are cleaned up, the last gates are set, and only the gates decide what is reported.

The scope backend, the worker, the file system and the observer are met through calls that may be
answered in any way.

- §1: records
- §2: calls
- §3: the mutating sequence
- §4: cleanup
- §5: the live run
- §6: an error is never reported as a pass
-/

namespace Nemor.Harness

open Capacity Effectful Fallible UnixPath

/-! ## §1 Records -/

/-- The figures of a run, checked before anything is started. -/
structure CgroupHarnessPlan where
  workerBytes : UInt64
  memoryMaxBytes : UInt64
  memAvailableBytes : UInt64
  groupName : String
  measurementMs : UInt64
  timeoutMs : UInt64

/-- What the worker writes once it is up. -/
structure WorkerReady where
  pid : UInt32
  startTicks : UInt64

/-- What is on disk before the first mutation, so that a later process can clean up. -/
structure HarnessAudit where
  benchmarkRunId : String
  auditId : String
  transactionId : String
  targetIdentity : OwnedProcessIdentity
  plannedCgroup : String
  memoryCeilingBytes : UInt64
  workerBytes : UInt64
  hostHeadroomBaselineBytes : UInt64
  persistedBeforeMutation : Bool

/-- The fields of a failure of systemd that are looked at. -/
structure SystemdOperationFailure where
  stage : String
  errorCategory : String
  property : Option String
  mutationMayHaveStarted : Bool
  cleanupRequired : Bool

/-- An error of the scope backend, which may carry a failure of systemd. -/
structure ScopeError where
  text : String
  failure : Option SystemdOperationFailure

/-- What is known of the request to start the scope. -/
structure SystemdStartEvidence where
  requestedUnit : String
  methodReturnedJob : Bool
  jobResult : Option String
  mutationMayHaveStarted : Bool
  cleanupRequired : Bool
  unitObjectPath : Option String
  workerUnitObjectPath : Option String
  unitId : Option String
  loadState : Option String
  activeState : Option String
  subState : Option String
  controlGroup : Option String

/-- The manager has reported the job as done. Only then is the scope surely there. -/
def SystemdStartEvidence.jobDone (e : SystemdStartEvidence) : Bool :=
  e.methodReturnedJob && decide (e.jobResult = some "done")

/-- Where an operation has failed, without the text of its error. -/
structure OperationDiagnostic where
  operation : String
  pathRole : String
  errorKind : Option String
  errno : Option Int32
  message : String
  mutationStarted : Bool
  cleanupRequired : Bool
  systemdFailure : Option SystemdOperationFailure

/-- An error of the file system. -/
structure FileError where
  kind : String
  errno : Option Int32
  message : String

/-- The counters of `memory.events` in one sample. -/
structure CgroupSample where
  memoryEvents : List (String × UInt64)

/-- Why the watchdog has ended the measurement, if it has. -/
structure WatchdogEvidence where
  unexpectedOom : Bool
  triggered : Bool
  reason : Option String

/-- What the worker reports when it stops. -/
structure WorkerResult where
  fingerprintValid : Bool
  fullRewritePassesDuringMeasurement : UInt64

/-- The part of the observer that the sequence reads: how long it warms up. -/
structure ObserverLaunch where
  warmupMs : UInt64

/-- A started observer and where its measurement began. -/
structure ObserverRuntime where
  pid : UInt32
  startTicks : UInt64
  measurementCpuStartTicks : UInt64
  measurementStartedMonotonicNs : UInt64
  rssSamples : List UInt64
  pssSamples : List UInt64

/-- Runs that measure at least as long are performance runs. -/
def checkpoint3aMinMeasurementMs : UInt64 := 20000

/-- How long an observer has to be warmed up. -/
def checkpoint3aObserverWarmupMs : UInt64 := 5000

/-- Files of the memory controller without which nothing is measured. -/
def requiredMemoryFiles : List String :=
  ["memory.max", "memory.current", "memory.events", "memory.stat", "memory.pressure"]

/-! ## §2 Calls -/

/-- The calls of a run. Each is answered by the surroundings. -/
inductive HarnessCall where
  | waitForFile (name : String)
  | readReady
  | readStartTicks (pid : UInt32)
  | persistPreMutationAudit (audit : HarnessAudit)
  | writeJsonCreateNew (name : String) (audit : HarnessAudit)
  | writeJson (name : String)
  | writeDiagnostic (diagnostic : OperationDiagnostic)
  | writeFile (name : String)
  | startOwnedScope (plan : TransientScopePlan)
  | startEvidence
  | isFile (path : String)
  | readToString (path : String)
  | readPids (path : String)
  | startObserver (controlGroup : String)
  | processCpuTicks (pid : UInt32)
  | processMemory (pid : UInt32)
  | nowNs
  | monitor (plan : TransientScopePlan) (observer : Option ObserverRuntime)
  | stopObserver (observer : Option ObserverRuntime)
  | readAudit
  | readStartEvidence
  | readScopeStateFile
  | readScopeState (unitName : String)
  | processInCgroup (pid : UInt32) (controlGroup : String)
  | pollExit
  | tryWait
  | killAndWait
  | readResult
  | unitExists (unitName : String)
  | stopOwnedScope (plan : TransientScopePlan)
  | waitInactiveOrRemoved (unitName : String)
  | listOwnedUnits
  | captureStructure
  | pathExists (path : String)

/-- What a call is answered with. -/
abbrev HarnessCall.Reply : HarnessCall → Type
  | .readReady => Except String WorkerReady
  | .readStartTicks _ | .processCpuTicks _ => Option UInt64
  | .startOwnedScope _ => Except ScopeError ScopeState
  | .startEvidence | .readStartEvidence => Option SystemdStartEvidence
  | .isFile _ | .pathExists _ => Bool
  | .readToString _ => Except FileError String
  | .readPids _ => Except String (Finset UInt32)
  | .startObserver _ => Except String ObserverRuntime
  | .processMemory _ => List UInt64 × List UInt64
  | .nowNs => UInt64
  | .monitor _ _ =>
    Except String (List CgroupSample × WatchdogEvidence) × Option ObserverRuntime
  | .readAudit => Option HarnessAudit
  | .readScopeStateFile => Option ScopeState
  | .readScopeState _ => Except String (Option ScopeState)
  | .processInCgroup _ _ | .tryWait | .unitExists _ => Except String Bool
  | .readResult => Option WorkerResult
  | .listOwnedUnits => Except String (List String)
  | .captureStructure => StructuralSnapshot
  | _ => Except String Unit

/-- The calls with their replies. -/
abbrev harness : Iface where
  Op := HarnessCall
  Reply := HarnessCall.Reply

/-- The gates and the observer, if it was started. -/
structure HarnessState where
  gates : List HarnessGate
  observer : Option ObserverRuntime

/-- A program over the calls, on the state of the harness. -/
abbrev Live := Act harness HarnessState String

/-- Issue a call whose answer is looked at. -/
def ask (op : HarnessCall) : Live op.Reply := Act.request (I := harness) op

/-- Issue a call whose error is passed on. -/
def demand {α : Type} (op : HarnessCall) (read : op.Reply → Except String α) : Live α :=
  Act.perform (I := harness) op read

/-- Set a gate of the report. -/
def gate (name : String) (state : GateState) (detail : String) : Live Unit :=
  Act.assign fun t => { t with gates := setGate name state detail t.gates }

/-- Keep the observer, or forget it. -/
def setObserver (observer : Option ObserverRuntime) : Live Unit :=
  Act.assign fun t => { t with observer := observer }

/-- A check of the run: fail with the text. -/
def ensure (c : Prop) [Decidable c] (text : String) : Live Unit :=
  if c then pure () else Act.fail text

/-- A step that is only made on a condition. -/
def onlyIf (c : Prop) [Decidable c] (m : Live Unit) : Live Unit := if c then m else pure ()

/-- `PASS` on a condition, else `FAIL`. -/
def passIf (c : Prop) [Decidable c] : GateState := if c then .pass else .fail

/-! ## §3 The mutating sequence -/

/-- What a run is given: its name, its plan, the worker that was spawned for it, and the observer
    to be started with it. -/
structure LiveRun where
  runId : String
  plan : CgroupHarnessPlan
  childId : UInt32
  observerLaunch : Option ObserverLaunch

/-- `saturating_mul`. -/
def saturatingMul (a b : UInt64) : UInt64 :=
  UInt64.ofNat (min (a.toNat * b.toNat) (UInt64.size - 1))

/-- The scope of a run, with the limits of its plan. -/
def LiveRun.scopePlan (run : LiveRun) (runId : String) (identity : OwnedProcessIdentity) :
    Except String TransientScopePlan :=
  TransientScopePlan.withLimits runId identity run.plan.memoryMaxBytes
    (saturatingMul run.plan.timeoutMs 1000)
    (if checkpoint3aMinMeasurementMs ≤ run.plan.measurementMs then
      "Nemor Phase 10 Checkpoint 3A fixed-load performance worker"
    else "Nemor Phase 10 owned cgroup harness validation")

/-- The directory of the scope. A path that could lead elsewhere is refused. -/
def kernelPath (scope : ScopeState) : Except String String := do
  refuse (scope.controlGroup.toList.head? ≠ some '/' ∨ contains scope.controlGroup ".." = true ∨
      '\x00' ∈ scope.controlGroup.toList)
    "systemd returned an invalid ControlGroup"
  pure (joinPath "/sys/fs/cgroup"
    (String.ofList (scope.controlGroup.toList.dropWhile fun c => c = '/')))

/-- `OwnedProcessIdentity::verify`. -/
def verifyIdentity (identity : OwnedProcessIdentity) : Live Unit := do
  let ticks ← ask (.readStartTicks identity.pid)
  ensure (ticks = some identity.startTicks) "owned worker PID/start_ticks identity is stale"

/-- Wait for the worker, and see that it is the child that was started. -/
def awaitWorker (run : LiveRun) : Live OwnedProcessIdentity := do
  demand (.waitForFile "ready_outside.json") id
  let ready ← demand .readReady id
  ensure (ready.pid = run.childId) "worker ready PID mismatch"
  let identity : OwnedProcessIdentity :=
    { runId := run.runId, pid := ready.pid, startTicks := ready.startTicks }
  verifyIdentity identity
  gate "worker_ready_outside_scope" .pass "exact PID/start_ticks READY outside transient scope"
  pure identity

/-- Write the audit and read it back before the scope is asked for. -/
def persistAudit (run : LiveRun) (identity : OwnedProcessIdentity) (scopePlan : TransientScopePlan) :
    Live Unit := do
  let audit : HarnessAudit :=
    { benchmarkRunId := run.runId
      auditId := "audit-" ++ run.runId
      transactionId := "transaction-" ++ run.runId
      targetIdentity := identity
      plannedCgroup := scopePlan.unitName
      memoryCeilingBytes := run.plan.memoryMaxBytes
      workerBytes := run.plan.workerBytes
      hostHeadroomBaselineBytes := run.plan.memAvailableBytes
      persistedBeforeMutation := true }
  demand (.persistPreMutationAudit audit) id
  demand (.writeJsonCreateNew "audit.json" audit) id
  gate "audit_before_mutation" .pass "audit persisted before cgroup creation"

/-- The unit was found, and is the one that was asked for. -/
def SystemdStartEvidence.identityComplete (e : SystemdStartEvidence)
    (scopePlan : TransientScopePlan) : Bool :=
  e.unitObjectPath.isSome && decide (e.unitObjectPath = e.workerUnitObjectPath) &&
    decide (e.unitId = some scopePlan.unitName) && decide (e.loadState = some "loaded") &&
    decide (e.activeState = some "active") && decide (e.subState = some "running")

/-- The gate of the stage at which a scope was found to be wrong. -/
def failingGate (failure : Option SystemdOperationFailure) : String :=
  match failure with
  | none => "scope_identity_verified"
  | some failure =>
    if failure.stage = "control_group" ∨ failure.property.getD "" = "ControlGroup" then
      "control_group_resolved"
    else if failure.stage = "resource_property" then "memory_limit_property_verified"
    else "scope_identity_verified"

/-- The diagnostic of a start that has failed. -/
def startDiagnostic (error : ScopeError) (evidence : Option SystemdStartEvidence) :
    OperationDiagnostic where
  operation := "StartTransientUnit"
  pathRole := "transaction_owned_transient_scope"
  errorKind := error.failure.map SystemdOperationFailure.errorCategory
  errno := none
  message := String.ofList (error.text.toList.take 512)
  mutationStarted := error.failure.any SystemdOperationFailure.mutationMayHaveStarted ||
    evidence.any SystemdStartEvidence.mutationMayHaveStarted
  cleanupRequired := error.failure.any SystemdOperationFailure.cleanupRequired ||
    evidence.any SystemdStartEvidence.cleanupRequired
  systemdFailure := error.failure

/-- A scope that could not be started: the gates say how far it came. -/
def reportStartFailure (scopePlan : TransientScopePlan) (error : ScopeError) : Live Unit := do
  let evidence ← ask .startEvidence
  let detail := (error.failure.map SystemdOperationFailure.errorCategory).getD
    "start_transient_scope_failed"
  demand (.writeDiagnostic (startDiagnostic error evidence)) id
  if evidence.any SystemdStartEvidence.jobDone = true then do
    gate "transient_scope_created" .pass "StartTransientUnit job completed with result=done"
    let complete := evidence.any fun e => e.identityComplete scopePlan
    gate "scope_identity_verified" (passIf (complete = true))
      (if complete = true then "GetUnit/GetUnitByPID and Unit identity/state verified" else detail)
    -- the identity gate itself may be the one that fails again here
    onlyIf (complete = true) (gate (failingGate error.failure) .fail detail)
  else
    gate "transient_scope_created" .fail detail

/-- Ask for the scope, and keep what is known of the request. -/
def startScope (scopePlan : TransientScopePlan) : Live ScopeState := do
  let scopeResult ← ask (.startOwnedScope scopePlan)
  let evidence ← ask .startEvidence
  -- written before the result is looked at, so that a failed start leaves its evidence too
  onlyIf (evidence.isSome = true) (demand (.writeJson "start_evidence.json") id)
  match scopeResult with
  | .error error => do
    reportStartFailure scopePlan error
    Act.fail error.text
  | .ok scope => do
    gate "transient_scope_created" .pass "systemd StartTransientUnit created exact owned scope"
    pure scope

/-- A check whose failure is entered into a gate. -/
def ensureGate (c : Prop) [Decidable c] (name detail text : String) : Live Unit :=
  if c then pure ()
  else do
    gate name .fail detail
    Act.fail text

/-- The scope is the one that was planned. The result is the path of its control group. -/
def verifyScope (scopePlan : TransientScopePlan) (scope : ScopeState) : Live String := do
  demand (.writeJson "scope_state.json") id
  ensureGate (scope.unitName = scopePlan.unitName) "scope_identity_verified"
    "systemd unit identity mismatch" "systemd unit identity mismatch"
  gate "scope_identity_verified" .pass "exact transaction unit and object path verified"
  ensureGate
    (scope.memoryMax = scopePlan.memoryMax ∧ scope.memoryAccounting = true ∧
      scope.cpuAccounting = true ∧ scope.ioAccounting = true)
    "memory_limit_property_verified" "systemd resource property mismatch"
    "systemd resource property mismatch"
  gate "memory_limit_property_verified" .pass "systemd MemoryMax and accounting properties verified"
  match kernelPath scope with
  | .error error => do
    gate "control_group_resolved" .fail "systemd ControlGroup unavailable or invalid"
    Act.fail error
  | .ok path => do
    gate "control_group_resolved" .pass
      "kernel path resolved only from systemd ControlGroup property"
    pure path

/-- The required files that a control group does not have. -/
def missingFiles (group : String) : List String → Live (List String)
  | [] => pure []
  | name :: names => do
    let present ← ask (.isFile (joinPath group name))
    -- every file is looked for, also after one is missing
    let missing ← missingFiles group names
    pure (if present then missing else name :: missing)

/-- The error of a text that `str::parse::<u64>` refuses. The digits are read from the left, so a
    number that is too large is found before what follows it. -/
def parseU64Error (text : List Char) : String :=
  let digits := (if text.head? = some '+' then text.tail else text).takeWhile Char.isDigit
  if text = [] then "cannot parse integer from empty string"
  else if UInt64.size ≤ digits.foldl (fun value c => value * 10 + (c.toNat - '0'.toNat)) 0 then
    "number too large to fit in target type"
  else "invalid digit found in string"

/-- A diagnostic about the control group of the run. -/
def groupDiagnostic (operation pathRole : String) (errorKind : Option String)
    (errno : Option Int32) (message : String) : OperationDiagnostic where
  operation := operation
  pathRole := pathRole
  errorKind := errorKind
  errno := errno
  message := message
  mutationStarted := true
  cleanupRequired := true
  systemdFailure := none

/-- Store a diagnostic, fail the gate of the kernel limit and return with an error. -/
def failKernelLimit {α : Type} (diagnostic : OperationDiagnostic) (detail text : String) :
    Live α := do
  demand (.writeDiagnostic diagnostic) id
  gate "memory_limit_kernel_verified" .fail detail
  Act.fail text

/-- The kernel has the memory limit that was asked for. -/
def verifyMemoryLimit (run : LiveRun) (group : String) : Live Unit := do
  let missing ← missingFiles group requiredMemoryFiles
  if missing ≠ [] then
    failKernelLimit
      (groupDiagnostic "verify_child_memory_interface" "owned_benchmark_cgroup" (some "not_found")
        (some 2) ("required memory interface absent: " ++ String.intercalate "," missing))
      "child_memory_interface_missing" "child memory controller interface is absent"
  else do
    let readback ← ask (.readToString (joinPath group "memory.max"))
    match readback with
    | .error error =>
      failKernelLimit
        (groupDiagnostic "readback_memory_max" "owned_benchmark_cgroup/memory.max"
          (some (String.ofList (error.kind.toList.map Char.toLower))) error.errno error.message)
        "memory_max_readback_failed" error.message
    | .ok text =>
      let readback := Text.trim text.toList
      match Text.parseU64 readback with
      | none =>
        failKernelLimit
          (groupDiagnostic "parse_memory_max_readback" "owned_benchmark_cgroup/memory.max"
            (some "invalid_data") none (parseU64Error readback))
          "memory_max_readback_invalid" (parseU64Error readback)
      | some effective =>
        if effective ≠ run.plan.memoryMaxBytes then
          failKernelLimit
            (groupDiagnostic "verify_memory_max_readback" "owned_benchmark_cgroup/memory.max"
              (some "readback_mismatch") none
              ("requested=" ++ toString run.plan.memoryMaxBytes ++ " effective=" ++
                toString effective))
            "memory_max_mismatch" "memory.max readback mismatch"
        else
          gate "memory_limit_kernel_verified" .pass "kernel memory.max matches systemd MemoryMax"

/-- The worker, and only the worker, is in the scope. -/
def verifyMembership (identity : OwnedProcessIdentity) (scope : ScopeState) (group : String) :
    Live Unit := do
  verifyIdentity identity
  ensureGate (scope.members = {identity.pid}) "exclusive_membership"
    "foreign or missing scope member" "systemd scope membership is not exclusive"
  gate "owned_child_attached" .pass "systemd attached exact PID and start_ticks remained stable"
  let pids ← demand (.readPids (joinPath group "cgroup.procs")) id
  -- what the kernel lists; this error leaves its gate unevaluated
  ensure (pids = {identity.pid}) "owned cgroup membership is not exclusive"
  gate "exclusive_membership" .pass "only exact owned PID present"
  demand (.writeJson "scope_attached.json") id

/-- The observer that was started is still the same process. -/
def verifyObserver (text : String) : Live Unit := do
  let t ← Act.current
  match t.observer with
  | none => pure ()
  | some runtime => do
    let ticks ← ask (.readStartTicks runtime.pid)
    ensure (ticks = some runtime.startTicks) text

/-- The observer is started, if the run has one. -/
def startObserver (run : LiveRun) (scope : ScopeState) : Live Unit :=
  onlyIf (run.observerLaunch.isSome = true) do
    let runtime ← demand (.startObserver scope.controlGroup) id
    setObserver (some runtime)

/-- The hold before a measurement that is long enough to be compared. -/
def holdBeforeMeasurement (run : LiveRun) : Live Unit :=
  onlyIf (checkpoint3aMinMeasurementMs ≤ run.plan.measurementMs) do
    ensure
      -- a run without an observer is held as long as one with it
      ((run.observerLaunch.map ObserverLaunch.warmupMs).getD checkpoint3aObserverWarmupMs =
        checkpoint3aObserverWarmupMs)
      "baseline/observe pre-measurement hold mismatch"
    verifyObserver "owned observer exited during matched warmup hold"

/-- Let the worker allocate. Before this the limits are in force. -/
def allocatePayload (run : LiveRun) : Live Unit := do
  demand (.writeFile "allocate") id
  demand (.waitForFile "ready_memory.json") id
  gate "worker_payload_allocated" .pass (toString run.plan.workerBytes ++
    " byte allocation occurred only after scope and limit verification")
  gate "worker_ready" .pass (toString run.plan.workerBytes ++
    " byte prefaulted worker reached READY")

/-- The counters of the observer at the start of the measurement. -/
def startMeasurement : Live Unit := do
  verifyObserver "owned observer identity changed before measurement"
  let t ← Act.current
  match t.observer with
  | none => pure ()
  | some runtime => do
    let ticks ← demand (.processCpuTicks runtime.pid) fun ticks =>
      match ticks with
      | some ticks => .ok ticks
      | none => .error "observer CPU unavailable"
    let started ← ask .nowNs
    let memory ← ask (.processMemory runtime.pid)
    setObserver (some
      { runtime with
        measurementCpuStartTicks := ticks
        measurementStartedMonotonicNs := started
        rssSamples := memory.1
        pssSamples := memory.2 })

/-- The measurement, observed to its end. -/
def measure (scopePlan : TransientScopePlan) : Live (List CgroupSample × WatchdogEvidence) := do
  startMeasurement
  let t ← Act.current
  -- the samples of the observer are kept whether or not the monitoring succeeds
  let reply ← ask (.monitor scopePlan t.observer)
  setObserver reply.2
  let measured ← Act.ofExcept reply.1
  demand (.writeJson "runner_measurement_cpu.json") id
  demand (.writeFile "samples.json") id
  demand (.writeFile "watchdog.json") id
  pure measured

/-- The sample has counted the event at least once. -/
def CgroupSample.counts (sample : CgroupSample) (event : String) : Bool :=
  decide (0 < (sample.memoryEvents.lookup event).getD 0)

/-- Neither the watchdog nor the kernel has stopped the worker. -/
def judgeMeasurement (samples : List CgroupSample) (watchdog : WatchdogEvidence) : Live Unit := do
  if watchdog.triggered = true then do
    gate "watchdog" .fail (watchdog.reason.getD "watchdog_triggered")
    onlyIf (watchdog.unexpectedOom = true)
      (gate "no_oom" .fail "memory.events reported OOM or OOM kill")
    Act.fail ("watchdog triggered: " ++ watchdog.reason.getD "")
  else do
    gate "watchdog" .pass "independent watchdog remained clear"
    let oom := samples.any fun sample => sample.counts "oom" || sample.counts "oom_kill"
    -- the detail is the same for a pass and a failure
    gate "no_oom" (passIf (oom = false)) "memory.events oom and oom_kill remained zero"
    ensure (oom = false) "unexpected cgroup OOM event"

/-- All of the sequence but its last gate. -/
def collectSamples (run : LiveRun) : Live (List CgroupSample) := do
  let identity ← awaitWorker run
  let scopePlan ← Act.ofExcept (run.scopePlan run.runId identity)
  persistAudit run identity scopePlan
  let scope ← startScope scopePlan
  let group ← verifyScope scopePlan scope
  verifyMemoryLimit run group
  verifyMembership identity scope group
  startObserver run scope
  holdBeforeMeasurement run
  allocatePayload run
  let (samples, watchdog) ← measure scopePlan
  judgeMeasurement samples watchdog
  pure samples

/-- A run without a sample is no measurement. -/
def recordMetrics (samples : List CgroupSample) : Live Unit := do
  gate "metrics_collected" (passIf (samples ≠ [])) "bounded cgroup/worker/host samples captured"
  ensure (samples ≠ []) "no cgroup metric samples captured"

/-- Everything between the baseline and the clean-up. -/
def runMutatingSequence (run : LiveRun) : Live Unit := do
  let samples ← collectSamples run
  recordMetrics samples

/-! ## §4 Cleanup -/

/-- `ScopeState::verify`, as far as whether it succeeds. -/
def scopeVerified (scopePlan : TransientScopePlan) (scope : ScopeState) : Live Bool :=
  match scope.check scopePlan with
  | .error _ => pure false
  | .ok _ => do
    let ticks ← ask (.readStartTicks scopePlan.identity.pid)
    if ticks = some scopePlan.identity.startTicks then do
      let inside ← ask (.processInCgroup scopePlan.identity.pid scope.controlGroup)
      pure (match inside with
        | .ok inside => inside
        | .error _ => false)
    else
      pure false

/-- The scope is known to belong to this run, before the worker is stopped. -/
def ownsScope (scopePlan : Option TransientScopePlan) (evidence : Option SystemdStartEvidence) :
    Live Bool :=
  match scopePlan with
  | none => pure false
  | some scopePlan =>
    if evidence.any (fun e =>
        e.jobDone && decide (e.requestedUnit = scopePlan.unitName) && e.cleanupRequired) = true then
      pure true
    else do
      let state ← ask (.readScopeState scopePlan.unitName)
      match state with
      | .ok (some scope) => scopeVerified scopePlan scope
      | _ => pure false

/-- A worker that has not exited is killed, if it is known to be the same process. -/
def killWorker (exited : Bool) (audit : Option HarnessAudit) : Live Unit :=
  match exited, audit with
  | false, some audit => do
    -- a PID that was reused is not killed
    let ticks ← ask (.readStartTicks audit.targetIdentity.pid)
    onlyIf (ticks = some audit.targetIdentity.startTicks) (demand .killAndWait id)
  | _, _ => pure ()

/-- Stop the worker. The result says whether it was still there to be waited for. -/
def stopWorker (audit : Option HarnessAudit) : Live Bool := do
  let _ ← ask (.writeFile "stop")
  -- a worker that cannot be polled ends the cleanup before the scope is looked at
  demand .pollExit id
  let exited ← demand .tryWait id
  killWorker exited audit
  demand .tryWait id

/-- The gates on the result of the worker, if it has left one. -/
def noteIntegrity (result : Option WorkerResult) : Live Unit :=
  match result with
  | none => pure ()
  | some result =>
    gate "worker_integrity"
      (passIf (result.fingerprintValid = true ∧ result.fullRewritePassesDuringMeasurement = 0))
      "content fingerprint valid and no measurement rewrite"

/-- The scope is stopped, removed and gone. -/
def removeScope (scopePlan : TransientScopePlan) : Live Unit := do
  demand (.stopOwnedScope scopePlan) id
  demand (.waitInactiveOrRemoved scopePlan.unitName) id
  let remains ← demand (.unitExists scopePlan.unitName) id
  ensure (remains = false) "exact owned scope remains after StopUnit"

/-- Stop the scope if it is ours. The result becomes a gate. -/
def cleanupScope (scopePlan : Option TransientScopePlan) (owned : Bool) :
    Live (GateState × String) :=
  match scopePlan with
  | none => pure (.pass, "scope cleanup not required before audit")
  | some scopePlan => do
    let present ← ask (.unitExists scopePlan.unitName)
    match present with
    -- a bus that does not answer proves nothing
    | .error _ => pure (.fail, "scope absence could not be verified")
    | .ok false => pure (.pass, "exact scope already absent or collected")
    | .ok true =>
      if owned = false then
        pure (.fail, "scope exists but staged transaction ownership is ambiguous")
      else do
        -- an error of the removal goes into the gate and not up
        let stop ← Act.attempt (removeScope scopePlan)
        pure (match stop with
          | .ok _ => (.pass, "exact staged-owned scope stopped and collected")
          | .error _ => (.fail, "exact staged-owned scope cleanup failed"))

/-- The plan of the scope, rebuilt from the audit. -/
def cleanupScopePlan (run : LiveRun) (audit : Option HarnessAudit) :
    Live (Option TransientScopePlan) :=
  match audit with
  | none => pure none
  | some audit => do
    let scopePlan ← Act.ofExcept (run.scopePlan audit.targetIdentity.runId audit.targetIdentity)
    pure (some scopePlan)

/-- What is known of the start, in memory or on disk. -/
def currentStartEvidence : Live (Option SystemdStartEvidence) := do
  let evidence ← ask .startEvidence
  match evidence with
  | some evidence => pure (some evidence)
  | none => ask .readStartEvidence

/-- The clean-up, which runs whatever the sequence has come to. -/
def cleanupLive (run : LiveRun) : Live Unit := do
  let audit ← ask .readAudit
  let scopePlan ← cleanupScopePlan run audit
  let evidence ← currentStartEvidence
  let owned ← ownsScope scopePlan evidence
  let workerAbsent ← stopWorker audit
  gate "worker_cleanup" (passIf (workerAbsent = true))
    (if workerAbsent = true then "owned worker cooperatively stopped or exact identity terminated"
    else "owned worker remained after bounded cleanup")
  let result ← ask .readResult
  noteIntegrity result
  let (state, detail) ← cleanupScope scopePlan owned
  gate "scope_cleanup" state detail

/-! ## §5 The live run -/

/-- Before the worker is put into a scope. -/
def openGates : Live Unit := do
  gate "systemd_capability" .pass
    "PID 1 systemd, system bus, Manager and StartTransientUnit available"
  gate "cgroup_memory_capability" .pass "unified cgroup v2 memory controller available"
  gate "headroom" .pass "dynamic reserve and rollback headroom satisfied"
  gate "worker_spawned" .pass "fresh owned worker spawned with minimal memory"

/-- The gates that a failed cleanup has not reached. -/
def failUnreached : List String → Live Unit
  | [] => pure ()
  | name :: names => do
    let t ← Act.current
    -- a gate that was set before the cleanup failed keeps its state
    onlyIf (stateOf t.gates name = some .notEvaluated)
      (gate name .fail "common cleanup path failed before absence verification")
    failUnreached names

/-- A clean-up that fails leaves its gates failed, not open. -/
def settleCleanup (cleaned : Except String Unit) : Live Unit :=
  match cleaned with
  | .ok _ => pure ()
  | .error _ => failUnreached ["worker_cleanup", "scope_cleanup"]

/-- The control group that was saved, from the state of the scope or from the start of the unit. -/
def savedControlGroup : Live (Option String) := do
  let scope ← ask .readScopeStateFile
  match scope.bind fun scope => (kernelPath scope).toOption with
  | some path => pure (some path)
  | none => do
    let evidence ← ask .readStartEvidence
    pure (((evidence.bind SystemdStartEvidence.controlGroup).filter fun group =>
      decide (group.toList.head? = some '/') && !contains group "..").map fun group =>
        joinPath "/sys/fs/cgroup" (String.ofList (group.toList.dropWhile fun c => c = '/')))

/-- Whether the directory of the scope is gone. -/
def controlGroupAbsent (saved : Option String) (finalUnitAbsent : Bool) : Live Bool :=
  match saved with
  -- no path was saved: without the unit there is no control group
  | none => pure finalUnitAbsent
  | some path => do
    let present ← ask (.pathExists path)
    pure (!present)

/-- The host is compared with what it was before the run. -/
def finalGates (run : LiveRun) (baseline : StructuralSnapshot) : Live Unit := do
  let finalSnapshot ← ask .captureStructure
  let present ← ask (.unitExists run.plan.groupName)
  let units ← ask .listOwnedUnits
  let finalUnitAbsent := decide (present.toOption = some false) && (units.toOption.getD []).isEmpty
  let saved ← savedControlGroup
  let finalControlGroupAbsent ← controlGroupAbsent saved finalUnitAbsent
  let finalProcessAbsent ← demand .tryWait id
  gate "owned_unit_absent_final" (passIf (finalUnitAbsent = true))
    "transaction-owned transient unit absent"
  gate "owned_cgroup_absent_final" (passIf (finalControlGroupAbsent = true))
    (if saved.isSome = true then "saved systemd ControlGroup path is absent"
    else if finalUnitAbsent = true then
      "unit absence proves systemd-collected ControlGroup despite no saved path"
    else "ControlGroup unresolved and unit remains; absence unproven")
  gate "owned_process_absent_final" (passIf (finalProcessAbsent = true)) "owned worker exited"
  let restored := baseline.agrees finalSnapshot
  gate "configuration_restored" (passIf (restored = true))
    "configuration/topology snapshot restored; cumulative counters ignored"
  let t ← Act.current
  let cleaned := ["worker_cleanup", "scope_cleanup", "owned_unit_absent_final",
    "owned_cgroup_absent_final", "owned_process_absent_final"].all fun name =>
      decide (stateOf t.gates name = some .pass)
  gate "host_unchanged" (passIf (restored = true ∧ cleaned = true))
    "structural configuration plus transaction-owned resource absence"

/-- The observer, the worker and the scope are cleaned up, and the last gates are set. -/
def settleLive (run : LiveRun) (baseline : StructuralSnapshot) : Live Unit := do
  let t ← Act.current
  -- its result is part of the report only
  let _ ← ask (.stopObserver t.observer)
  setObserver none
  let cleaned ← Act.attempt (cleanupLive run)
  settleCleanup cleaned
  finalGates run baseline

/-- A live run, from its gates to what is reported. The result of the mutating sequence is not part
    of the report; it is returned here to be compared with it. -/
def runLive (run : LiveRun) (baseline : StructuralSnapshot) :
    Live (Except String Unit × HarnessOutcome) := do
  openGates
  let mutationResult ← Act.attempt (runMutatingSequence run)
  settleLive run baseline
  let t ← Act.current
  pure (mutationResult, finalizeHarness t.gates)

/-! ## §6 An error is never reported as a pass -/

/-- Every call is answered in some way. -/
def anyHost : Env harness HarnessState Unit := fun _ _ _ _ _ => True

/-- The samples are not yet accepted. -/
def Unmeasured (t : HarnessState) (_ : Unit) : Prop := NotPassed t.gates "metrics_collected"

/-- The procedure leaves the gate of the samples alone. -/
abbrev LeavesMetrics {α : Type} (m : Live α) : Prop := Act.Keeps anyHost Unmeasured m

section LeavesMetrics

open Act

variable {run : LiveRun} {scopePlan : TransientScopePlan} {scope : ScopeState}

theorem leaves_ask (op : HarnessCall) : LeavesMetrics (ask op) := keeps_request fun _ _ _ _ h _ => h

theorem leaves_demand {α : Type} {op : HarnessCall} {read : op.Reply → Except String α} :
    LeavesMetrics (demand op read) := keeps_perform fun _ _ _ _ h _ => h

theorem leaves_gate {name detail : String} {state : GateState} (h : name ≠ "metrics_collected") :
    LeavesMetrics (gate name state detail) := keeps_assign fun _ _ ht => notPassed_setGate h ht

theorem leaves_setObserver {observer : Option ObserverRuntime} :
    LeavesMetrics (setObserver observer) := keeps_assign fun _ _ ht => ht

theorem leaves_ensure {c : Prop} [Decidable c] {text : String} : LeavesMetrics (ensure c text) :=
  keeps_ite (fun _ => keeps_pure _) fun _ => keeps_fail _

theorem leaves_onlyIf {c : Prop} [Decidable c] {m : Live Unit} (h : LeavesMetrics m) :
    LeavesMetrics (onlyIf c m) :=
  keeps_ite (fun _ => h) fun _ => keeps_pure _

theorem leaves_ensureGate {c : Prop} [Decidable c] {name detail text : String}
    (h : name ≠ "metrics_collected") : LeavesMetrics (ensureGate c name detail text) :=
  keeps_ite (fun _ => keeps_pure _) fun _ => keeps_bind (leaves_gate h) fun _ => keeps_fail _

theorem leaves_verifyIdentity {identity : OwnedProcessIdentity} :
    LeavesMetrics (verifyIdentity identity) :=
  keeps_bind (leaves_ask _) fun _ => leaves_ensure

theorem leaves_awaitWorker : LeavesMetrics (awaitWorker run) := by
  refine keeps_bind leaves_demand fun _ => keeps_bind leaves_demand fun ready => ?_
  refine keeps_bind leaves_ensure fun _ => keeps_bind leaves_verifyIdentity fun _ => ?_
  exact keeps_bind (leaves_gate (by decide)) fun _ => keeps_pure _

theorem leaves_persistAudit {identity : OwnedProcessIdentity} :
    LeavesMetrics (persistAudit run identity scopePlan) :=
  keeps_bind leaves_demand fun _ => keeps_bind leaves_demand fun _ => leaves_gate (by decide)

theorem failingGate_ne_metrics {failure : Option SystemdOperationFailure} :
    failingGate failure ≠ "metrics_collected" := by
  -- three names, none of them that of the samples
  unfold failingGate
  split
  · decide
  · split
    · decide
    · split <;> decide

theorem leaves_reportStartFailure {error : ScopeError} :
    LeavesMetrics (reportStartFailure scopePlan error) := by
  refine keeps_bind (leaves_ask _) fun evidence => keeps_bind leaves_demand fun _ => ?_
  refine keeps_ite (fun _ => ?_) fun _ => leaves_gate (by decide)
  refine keeps_bind (leaves_gate (by decide)) fun _ => ?_
  refine keeps_bind (leaves_gate (by decide)) fun _ => ?_
  exact leaves_onlyIf (leaves_gate failingGate_ne_metrics)

theorem leaves_startScope : LeavesMetrics (startScope scopePlan) := by
  refine keeps_bind (leaves_ask _) fun scopeResult => keeps_bind (leaves_ask _) fun evidence => ?_
  refine keeps_bind (leaves_onlyIf leaves_demand) fun _ => ?_
  cases scopeResult with
  | error error => exact keeps_bind leaves_reportStartFailure fun _ => keeps_fail _
  | ok scope => exact keeps_bind (leaves_gate (by decide)) fun _ => keeps_pure _

theorem leaves_verifyScope : LeavesMetrics (verifyScope scopePlan scope) := by
  refine keeps_bind leaves_demand fun _ => keeps_bind (leaves_ensureGate (by decide)) fun _ => ?_
  refine keeps_bind (leaves_gate (by decide)) fun _ => ?_
  refine keeps_bind (leaves_ensureGate (by decide)) fun _ => ?_
  refine keeps_bind (leaves_gate (by decide)) fun _ => ?_
  cases kernelPath scope with
  | error error => exact keeps_bind (leaves_gate (by decide)) fun _ => keeps_fail _
  | ok path => exact keeps_bind (leaves_gate (by decide)) fun _ => keeps_pure _

theorem leaves_missingFiles {group : String} {names : List String} :
    LeavesMetrics (missingFiles group names) := by
  induction names with
  | nil => exact keeps_pure _
  | cons name names ih =>
    exact keeps_bind (leaves_ask _) fun _ => keeps_bind ih fun _ => keeps_pure _

theorem leaves_failKernelLimit {α : Type} {diagnostic : OperationDiagnostic}
    {detail text : String} : LeavesMetrics (failKernelLimit (α := α) diagnostic detail text) :=
  keeps_bind leaves_demand fun _ => keeps_bind (leaves_gate (by decide)) fun _ => keeps_fail _

theorem leaves_verifyMemoryLimit {group : String} :
    LeavesMetrics (verifyMemoryLimit run group) := by
  refine keeps_bind leaves_missingFiles fun missing => ?_
  refine keeps_ite (fun _ => leaves_failKernelLimit) fun _ => ?_
  refine keeps_bind (leaves_ask _) fun readback => ?_
  cases readback with
  | error error => exact leaves_failKernelLimit
  | ok text =>
    dsimp only
    cases Text.parseU64 (Text.trim text.toList) with
    | none => exact leaves_failKernelLimit
    | some effective =>
      exact keeps_ite (fun _ => leaves_failKernelLimit) fun _ => leaves_gate (by decide)

theorem leaves_verifyMembership {identity : OwnedProcessIdentity} {group : String} :
    LeavesMetrics (verifyMembership identity scope group) := by
  refine keeps_bind leaves_verifyIdentity fun _ => ?_
  refine keeps_bind (leaves_ensureGate (by decide)) fun _ => ?_
  refine keeps_bind (leaves_gate (by decide)) fun _ => keeps_bind leaves_demand fun pids => ?_
  refine keeps_bind leaves_ensure fun _ => keeps_bind (leaves_gate (by decide)) fun _ => ?_
  exact leaves_demand

theorem leaves_verifyObserver {text : String} : LeavesMetrics (verifyObserver text) := by
  refine keeps_bind keeps_current fun t => ?_
  cases t.observer with
  | none => exact keeps_pure _
  | some runtime => exact keeps_bind (leaves_ask _) fun _ => leaves_ensure

theorem leaves_startObserver : LeavesMetrics (startObserver run scope) :=
  leaves_onlyIf (keeps_bind leaves_demand fun _ => leaves_setObserver)

theorem leaves_holdBeforeMeasurement : LeavesMetrics (holdBeforeMeasurement run) :=
  leaves_onlyIf (keeps_bind leaves_ensure fun _ => leaves_verifyObserver)

theorem leaves_allocatePayload : LeavesMetrics (allocatePayload run) := by
  refine keeps_bind leaves_demand fun _ => keeps_bind leaves_demand fun _ => ?_
  exact keeps_bind (leaves_gate (by decide)) fun _ => leaves_gate (by decide)

theorem leaves_startMeasurement : LeavesMetrics startMeasurement := by
  refine keeps_bind leaves_verifyObserver fun _ => keeps_bind keeps_current fun t => ?_
  cases t.observer with
  | none => exact keeps_pure _
  | some runtime =>
    refine keeps_bind leaves_demand fun _ => keeps_bind (leaves_ask _) fun _ => ?_
    exact keeps_bind (leaves_ask _) fun _ => leaves_setObserver

theorem leaves_measure : LeavesMetrics (measure scopePlan) := by
  refine keeps_bind leaves_startMeasurement fun _ => keeps_bind keeps_current fun t => ?_
  refine keeps_bind (leaves_ask _) fun reply => keeps_bind leaves_setObserver fun _ => ?_
  refine keeps_bind (keeps_ofExcept _) fun _ => keeps_bind leaves_demand fun _ => ?_
  exact keeps_bind leaves_demand fun _ => keeps_bind leaves_demand fun _ => keeps_pure _

theorem leaves_judgeMeasurement {samples : List CgroupSample} {watchdog : WatchdogEvidence} :
    LeavesMetrics (judgeMeasurement samples watchdog) := by
  refine keeps_ite (fun _ => ?_) fun _ => ?_
  · refine keeps_bind (leaves_gate (by decide)) fun _ => ?_
    exact keeps_bind (leaves_onlyIf (leaves_gate (by decide))) fun _ => keeps_fail _
  · refine keeps_bind (leaves_gate (by decide)) fun _ => ?_
    exact keeps_bind (leaves_gate (by decide)) fun _ => leaves_ensure

/-- Nothing before the last step of the sequence accepts the samples. -/
theorem leaves_collectSamples : LeavesMetrics (collectSamples run) := by
  refine keeps_bind leaves_awaitWorker fun identity => keeps_bind (keeps_ofExcept _) fun _ => ?_
  refine keeps_bind leaves_persistAudit fun _ => keeps_bind leaves_startScope fun scope => ?_
  refine keeps_bind leaves_verifyScope fun group => keeps_bind leaves_verifyMemoryLimit fun _ => ?_
  refine keeps_bind leaves_verifyMembership fun _ => keeps_bind leaves_startObserver fun _ => ?_
  refine keeps_bind leaves_holdBeforeMeasurement fun _ => ?_
  refine keeps_bind leaves_allocatePayload fun _ => keeps_bind leaves_measure fun _ => ?_
  exact keeps_bind leaves_judgeMeasurement fun _ => keeps_pure _

theorem leaves_scopeVerified : LeavesMetrics (scopeVerified scopePlan scope) := by
  unfold scopeVerified
  cases scope.check scopePlan with
  | error error => exact keeps_pure _
  | ok _ =>
    refine keeps_bind (leaves_ask _) fun _ => keeps_ite (fun _ => ?_) fun _ => keeps_pure _
    exact keeps_bind (leaves_ask _) fun _ => keeps_pure _

theorem leaves_ownsScope {evidence : Option SystemdStartEvidence}
    {scopePlan : Option TransientScopePlan} : LeavesMetrics (ownsScope scopePlan evidence) := by
  cases scopePlan with
  | none => exact keeps_pure _
  | some scopePlan =>
    refine keeps_ite (fun _ => keeps_pure _) fun _ => keeps_bind (leaves_ask _) fun state => ?_
    rcases state with error | (_ | scope)
    · exact keeps_pure _
    · exact keeps_pure _
    · exact leaves_scopeVerified

theorem leaves_killWorker {exited : Bool} {audit : Option HarnessAudit} :
    LeavesMetrics (killWorker exited audit) := by
  rcases exited with _ | _ <;> rcases audit with _ | audit
  · exact keeps_pure _
  · exact keeps_bind (leaves_ask _) fun _ => leaves_onlyIf leaves_demand
  · exact keeps_pure _
  · exact keeps_pure _

theorem leaves_stopWorker {audit : Option HarnessAudit} : LeavesMetrics (stopWorker audit) := by
  refine keeps_bind (leaves_ask _) fun _ => keeps_bind leaves_demand fun _ => ?_
  refine keeps_bind leaves_demand fun _ => keeps_bind leaves_killWorker fun _ => ?_
  exact leaves_demand

theorem leaves_removeScope : LeavesMetrics (removeScope scopePlan) := by
  refine keeps_bind leaves_demand fun _ => keeps_bind leaves_demand fun _ => ?_
  exact keeps_bind leaves_demand fun _ => leaves_ensure

theorem leaves_cleanupScope {owned : Bool} {scopePlan : Option TransientScopePlan} :
    LeavesMetrics (cleanupScope scopePlan owned) := by
  cases scopePlan with
  | none => exact keeps_pure _
  | some scopePlan =>
    refine keeps_bind (leaves_ask _) fun present => ?_
    rcases present with error | (_ | _)
    · exact keeps_pure _
    · exact keeps_pure _
    · refine keeps_ite (fun _ => keeps_pure _) fun _ => ?_
      exact keeps_bind (keeps_attempt leaves_removeScope) fun _ => keeps_pure _

theorem leaves_cleanupScopePlan {audit : Option HarnessAudit} :
    LeavesMetrics (cleanupScopePlan run audit) := by
  cases audit with
  | none => exact keeps_pure _
  | some audit => exact keeps_bind (keeps_ofExcept _) fun _ => keeps_pure _

theorem leaves_currentStartEvidence : LeavesMetrics currentStartEvidence := by
  refine keeps_bind (leaves_ask _) fun evidence => ?_
  cases evidence with
  | none => exact leaves_ask _
  | some evidence => exact keeps_pure _

theorem leaves_noteIntegrity {result : Option WorkerResult} :
    LeavesMetrics (noteIntegrity result) := by
  cases result with
  | none => exact keeps_pure _
  | some result => exact leaves_gate (by decide)

theorem leaves_cleanupLive : LeavesMetrics (cleanupLive run) := by
  refine keeps_bind (leaves_ask _) fun audit => keeps_bind leaves_cleanupScopePlan fun _ => ?_
  refine keeps_bind leaves_currentStartEvidence fun _ => keeps_bind leaves_ownsScope fun _ => ?_
  refine keeps_bind leaves_stopWorker fun _ => keeps_bind (leaves_gate (by decide)) fun _ => ?_
  refine keeps_bind (leaves_ask _) fun _ => keeps_bind leaves_noteIntegrity fun _ => ?_
  exact keeps_bind leaves_cleanupScope fun _ => leaves_gate (by decide)

theorem leaves_failUnreached {names : List String} (h : "metrics_collected" ∉ names) :
    LeavesMetrics (failUnreached names) := by
  induction names with
  | nil => exact keeps_pure _
  | cons name names ih =>
    have hname : name ≠ "metrics_collected" := fun heq => h (heq ▸ List.mem_cons_self)
    refine keeps_bind keeps_current fun t => ?_
    refine keeps_bind (leaves_onlyIf (leaves_gate hname)) fun _ => ?_
    exact ih fun hmem => h (List.mem_cons_of_mem _ hmem)

theorem leaves_settleCleanup {cleaned : Except String Unit} :
    LeavesMetrics (settleCleanup cleaned) := by
  cases cleaned with
  | ok _ => exact keeps_pure _
  | error _ => exact leaves_failUnreached (by decide)

theorem leaves_savedControlGroup : LeavesMetrics savedControlGroup := by
  refine keeps_bind (leaves_ask _) fun scope => ?_
  cases scope.bind fun scope => (kernelPath scope).toOption with
  | none => exact keeps_bind (leaves_ask _) fun _ => keeps_pure _
  | some path => exact keeps_pure _

theorem leaves_controlGroupAbsent {saved : Option String} {finalUnitAbsent : Bool} :
    LeavesMetrics (controlGroupAbsent saved finalUnitAbsent) := by
  cases saved with
  | none => exact keeps_pure _
  | some path => exact keeps_bind (leaves_ask _) fun _ => keeps_pure _

theorem leaves_finalGates {baseline : StructuralSnapshot} :
    LeavesMetrics (finalGates run baseline) := by
  refine keeps_bind (leaves_ask _) fun _ => keeps_bind (leaves_ask _) fun _ => ?_
  refine keeps_bind (leaves_ask _) fun _ => keeps_bind leaves_savedControlGroup fun _ => ?_
  refine keeps_bind leaves_controlGroupAbsent fun _ => keeps_bind leaves_demand fun _ => ?_
  refine keeps_bind (leaves_gate (by decide)) fun _ => ?_
  refine keeps_bind (leaves_gate (by decide)) fun _ => ?_
  refine keeps_bind (leaves_gate (by decide)) fun _ => ?_
  refine keeps_bind (leaves_gate (by decide)) fun _ => ?_
  exact keeps_bind keeps_current fun _ => leaves_gate (by decide)

theorem leaves_openGates : LeavesMetrics openGates := by
  refine keeps_bind (leaves_gate (by decide)) fun _ => ?_
  refine keeps_bind (leaves_gate (by decide)) fun _ => ?_
  exact keeps_bind (leaves_gate (by decide)) fun _ => leaves_gate (by decide)

/-- The last step either accepts the samples and succeeds, or does neither. -/
theorem recordMetrics_error {samples : List CgroupSample} {t : HarnessState} {s : Unit}
    (h : Unmeasured t s) :
    wp anyHost (fun _ _ => True) (recordMetrics samples)
      (fun r t s => (∃ e, r = .error e) → Unmeasured t s) t s := by
  obtain ⟨state, hstate, -⟩ := h
  apply wp_bind.2
  apply wp_assign.2
  apply wp_ite.2
  constructor
  · rintro hsome ⟨e, he⟩
    cases he
  · intro hempty _
    refine ⟨.fail, ?_, fun h => (by cases h)⟩
    show stateOf (setGate _ _ _ t.gates) _ = _
    rw [stateOf_setGate, hstate]
    simp [passIf, not_not.1 hempty]

theorem runMutatingSequence_error {t : HarnessState} {s : Unit} (h : Unmeasured t s) :
    wp anyHost (fun _ _ => True) (runMutatingSequence run)
      (fun r t s => (∃ e, r = .error e) → Unmeasured t s) t s := by
  apply wp_bind.2
  apply wp_mono (wp_weaken (leaves_collectSamples t s h) fun _ _ _ => trivial)
  intro r t' s' h'
  cases r with
  | error e => exact fun _ => h'
  | ok samples => exact recordMetrics_error h'

/-- Everything after the sequence leaves the gate as it is. -/
theorem leaves_settleLive {baseline : StructuralSnapshot} :
    LeavesMetrics (settleLive run baseline) := by
  refine keeps_bind keeps_current fun _ => keeps_bind (leaves_ask _) fun _ => ?_
  refine keeps_bind leaves_setObserver fun _ => ?_
  refine keeps_bind (keeps_attempt leaves_cleanupLive) fun _ => ?_
  exact keeps_bind leaves_settleCleanup fun _ => leaves_finalGates

/-- What is reported of a run whose sequence has failed. -/
def ReportsError (r : Except String (Except String Unit × HarnessOutcome)) (_ : HarnessState)
    (_ : Unit) : Prop :=
  ∀ error outcome, r = .ok (.error error, outcome) → outcome.requiredGatesPassed = false

theorem runLive_reports {baseline : StructuralSnapshot} {t : HarnessState} {s : Unit}
    (h : Unmeasured t s) :
    wp anyHost (fun _ _ => True) (runLive run baseline) ReportsError t s := by
  apply wp_bind.2
  apply wp_mono (wp_weaken (leaves_openGates t s h) fun _ _ _ => trivial)
  -- the first gates cannot fail, so there is a result of the sequence
  rintro (e | _) t s h
  · intro error outcome he
    cases he
  apply wp_bind.2
  apply wp_attempt.2
  apply wp_mono (runMutatingSequence_error h)
  intro mutationResult t s h
  apply wp_bind.2
  cases mutationResult with
  | ok _ =>
    -- the sequence has succeeded, and nothing is said about the report
    apply wp_mono wp_trivial
    rintro (e | _) t s - error outcome he <;> cases he
  | error e =>
    -- the gate of the samples has not passed, and the cleanup does not touch it
    apply wp_mono (wp_weaken (leaves_settleLive t s (h ⟨e, rfl⟩)) fun _ _ _ => trivial)
    rintro (e' | _) t s h error outcome he
    · cases he
    · cases he
      exact requiredGatesPassed_eq_false (by decide) h

end LeavesMetrics

/-- **Errors of the harness are not lost.** Whatever the scope backend, the worker, the file system
    and the observer do, a run whose mutating sequence returns an error does not report its required
    gates as passed. -/
theorem runLive_error_not_passed {run : LiveRun} {baseline : StructuralSnapshot}
    {observer : Option ObserverRuntime} {error : String} {outcome : HarnessOutcome}
    {t : HarnessState}
    (hrun : Reaches anyHost (runLive run baseline { gates := initialGates, observer := observer }) ()
      (.pure (.ok (.error error, outcome), t)) ()) :
    outcome.requiredGatesPassed = false := by
  have hopen : Unmeasured { gates := initialGates, observer := observer } () :=
    notPassed_initial (by decide)
  exact Prog.wp_reaches (runLive_reports hopen) hrun error outcome rfl

/-- A host on which a worker is put into its scope and measured, and the kernel kills it there for
    want of memory. The watchdog does not see it, and the cleanup goes well. -/
def oomAnswer : (op : HarnessCall) → op.Reply
  | .readReady => .ok { pid := 4711, startTicks := 99 }
  | .readStartTicks _ => some 99
  | .processCpuTicks _ => some 3
  | .startOwnedScope plan => .ok
    { unitName := plan.unitName
      objectPath := "/org/freedesktop/systemd1/unit/a1"
      controlGroup := "/a.scope"
      memoryMax := plan.memoryMax
      memoryAccounting := true
      cpuAccounting := true
      ioAccounting := true
      runtimeMaxUsec := plan.runtimeMaxUsec
      activeState := "active"
      subState := "running"
      members := {4711} }
  | .startEvidence | .readStartEvidence => none
  | .isFile _ => true
  | .readToString _ => .ok "134217728\n"
  | .readPids _ => .ok {4711}
  | .startObserver _ => .error "no observer"
  | .processMemory _ => ([], [])
  | .nowNs => 0
  | .monitor _ observer =>
    (.ok ([{ memoryEvents := [("oom", 1), ("oom_kill", 1)] }],
      { unexpectedOom := false, triggered := false, reason := none }), observer)
  | .readAudit => some
    { benchmarkRunId := "checkpoint2-1"
      auditId := "audit-checkpoint2-1"
      transactionId := "transaction-checkpoint2-1"
      targetIdentity := { runId := "checkpoint2-1", pid := 4711, startTicks := 99 }
      plannedCgroup := "nemor-benchmark-checkpoint21.scope"
      memoryCeilingBytes := 134217728
      workerBytes := 67108864
      hostHeadroomBaselineBytes := 8589934592
      persistedBeforeMutation := true }
  | .readScopeStateFile => none
  | .readScopeState _ => .ok none
  | .processInCgroup _ _ | .unitExists _ => .ok false
  | .pathExists _ => false
  | .tryWait => .ok true
  | .readResult => some { fingerprintValid := true, fullRewritePassesDuringMeasurement := 0 }
  | .listOwnedUnits => .ok []
  | .captureStructure =>
    { swapTopology := [], zramConfiguration := [], zswapEnabled := none, ksmConfiguration := []
      damonTreeShape := [] }
  | .waitForFile _ | .persistPreMutationAudit _ | .writeJsonCreateNew _ _ | .writeJson _
  | .writeDiagnostic _ | .writeFile _ | .stopObserver _ | .pollExit | .killAndWait
  | .stopOwnedScope _ | .waitInactiveOrRemoved _ => .ok ()

/-- A run of two seconds with a payload of 64 MiB. -/
def oomRun : LiveRun where
  runId := "checkpoint2-1"
  plan :=
    { workerBytes := 67108864, memoryMaxBytes := 134217728, memAvailableBytes := 8589934592
      groupName := "nemor-benchmark-checkpoint21.scope", measurementMs := 2000, timeoutMs := 15000 }
  childId := 4711
  observerLaunch := none

/-- The run on that host, with its gates. -/
def oomLive : (Except String (Except String Unit × HarnessOutcome) × HarnessState) × Unit :=
  (runLive oomRun (oomAnswer .captureStructure)
    { gates := initialGates, observer := none }).exec (fun op u => (oomAnswer op, u)) ()

/-- The limit is verified, the worker has its memory, all is cleaned up and restored, and the run
    is not reported as a pass. -/
theorem oom_run_not_passed :
    ∃ outcome t, Reaches anyHost
        (runLive oomRun (oomAnswer .captureStructure) { gates := initialGates, observer := none }) ()
        (.pure (.ok (.error "unexpected cgroup OOM event", outcome), t)) () ∧
      (t.gates.filter fun gate => gate.state ≠ .pass).map HarnessGate.name =
        ["metrics_collected", "no_oom"] ∧
      outcome.requiredGatesPassed = false := by
  have hresult : oomLive.1 =
      (.ok (.error "unexpected cgroup OOM event", finalizeHarness oomLive.1.2.gates),
        oomLive.1.2) := rfl
  have hrun : Reaches anyHost
      (runLive oomRun (oomAnswer .captureStructure) { gates := initialGates, observer := none }) ()
      (.pure oomLive.1) () :=
    Reaches.mono (fun _ _ _ _ _ _ => trivial) (Prog.exec_reaches _ _ _)
  rw [hresult] at hrun
  exact ⟨_, _, hrun, by decide +kernel, runLive_error_not_passed hrun⟩

end Nemor.Harness
