import Mathlib.Data.Finset.Basic
import Nemor.Capacity.Evidence
import Nemor.Lib.Effectful
import Nemor.Lib.Fallible
import Nemor.Lib.UnixPath
import Nemor.Pressure.Worker

/-!
# The host of a composition

A composition drives a pressure worker in a transient scope of systemd and, at each level, an
external target. It meets them only through calls. Most calls are *gates*: what they answer is
read at once, and an answer that does not fit ends the composition with an error. The others
are *questions*, whose answers are only recorded. The host keeps the processes that were
spawned and not reaped, the scopes that were started and not reconciled, and the transaction
directories of the targets.
-/

namespace Nemor.Capacity

open Effectful Fallible Pressure

/-! ## §1 Scopes -/

/-- A process of a run. The start ticks tell it from a later process of its number. -/
structure OwnedProcessIdentity where
  runId : String
  pid : UInt32
  startTicks : UInt64
  deriving DecidableEq

/-- What a scope is for. Its limits depend on it. -/
inductive TransientScopeContract where
  | fixedLoad
  | progressivePressure
  | capacityBenchmark
  deriving DecidableEq

/-- A scope that is to be started around one process. -/
structure TransientScopePlan where
  unitName : String
  description : String
  identity : OwnedProcessIdentity
  memoryMax : UInt64
  runtimeMaxUsec : UInt64
  memoryAccounting : Bool
  cpuAccounting : Bool
  ioAccounting : Bool
  collectMode : String
  contract : TransientScopeContract
  deriving DecidableEq

/-- How the name of every owned unit begins. -/
def unitPrefix : String := "nemor-benchmark-"

/-- `char::is_ascii_alphanumeric`. -/
def isAsciiAlphanumeric (c : Char) : Bool :=
  ('0' ≤ c && c ≤ '9') || ('A' ≤ c && c ≤ 'Z') || ('a' ≤ c && c ≤ 'z')

/-- What stands between the prefix and the suffix of a unit name. -/
def unitSuffix (name : List Char) : Option (List Char) :=
  if unitPrefix.toList.isPrefixOf name then
    let tail := name.drop unitPrefix.length
    if ".scope".toList.isSuffixOf tail then some (tail.take (tail.length - ".scope".length))
    else none
  else none

/-- The name is an owned one, short and of plain characters. -/
def validateUnitName (name : String) : Except String Unit :=
  match unitSuffix name.toList with
  | none => .error "unit is outside the Nemor benchmark scope prefix"
  | some suffix =>
    refuse (suffix = [] ∨ 32 < suffix.length ∨ ¬ suffix.all isAsciiAlphanumeric = true)
      "malformed generated transient scope name"

namespace TransientScopePlan

/-- The limits are in the bounds of the contract. -/
def validate (plan : TransientScopePlan) : Except String Unit := do
  validateUnitName plan.unitName
  let memoryLimit : UInt64 :=
    match plan.contract with
    | .fixedLoad => 512 * 1024 * 1024
    | _ => 16 * 1024 * 1024 * 1024
  let (runtimeMin, runtimeMax) : UInt64 × UInt64 :=
    match plan.contract with
    | .capacityBenchmark => (120000000, 600000000)
    | _ => (15000000, 120000000)
  refuse (plan.memoryMax = 0 ∨ memoryLimit < plan.memoryMax ∨ plan.runtimeMaxUsec < runtimeMin ∨
      runtimeMax < plan.runtimeMaxUsec ∨ plan.memoryAccounting = false ∨
      plan.cpuAccounting = false ∨ plan.ioAccounting = false ∨
      plan.collectMode ≠ "inactive-or-failed")
    "invalid Checkpoint 2 transient scope plan"

/-- The scope of a run: its unit is named after the run. -/
def withLimits (runId : String) (identity : OwnedProcessIdentity) (memoryMax runtimeMaxUsec : UInt64)
    (description : String) : Except String TransientScopePlan := do
  let suffix := (runId.toList.filter isAsciiAlphanumeric).take 32
  refuse (suffix = []) "run id cannot produce a safe systemd unit name"
  let unitName := unitPrefix ++ String.ofList suffix ++ ".scope"
  validateUnitName unitName
  return {
    unitName := unitName
    description := description
    identity := identity
    memoryMax := memoryMax
    runtimeMaxUsec := runtimeMaxUsec
    memoryAccounting := true
    cpuAccounting := true
    ioAccounting := true
    collectMode := "inactive-or-failed"
    contract := .fixedLoad }

/-- The limits of a contract, put into a plan and checked. -/
def limitedTo (contract : TransientScopeContract) (description : String) (runId : String)
    (identity : OwnedProcessIdentity) (memoryMax runtimeMaxUsec : UInt64) :
    Except String TransientScopePlan := do
  let plan ← withLimits runId identity (128 * 1024 * 1024) runtimeMaxUsec description
  let plan := { plan with memoryMax := memoryMax, contract := contract }
  plan.validate
  return plan

/-- The scope of a pressure run. -/
def withPressureLimits : String → OwnedProcessIdentity → UInt64 → UInt64 →
    Except String TransientScopePlan :=
  limitedTo .progressivePressure "Nemor Phase 10 Checkpoint 3C progressive pressure worker"

/-- The scope of a capacity run. -/
def withCapacityLimits : String → OwnedProcessIdentity → UInt64 → UInt64 →
    Except String TransientScopePlan :=
  limitedTo .capacityBenchmark "Nemor Phase 10 bounded capacity benchmark worker"

end TransientScopePlan

/-- A generated name is well formed. -/
theorem validateUnitName_generated {suffix : List Char} (hne : suffix ≠ [])
    (hlength : suffix.length ≤ 32) (hall : suffix.all isAsciiAlphanumeric = true) :
    validateUnitName (unitPrefix ++ String.ofList suffix ++ ".scope") = .ok () := by
  -- taking off the prefix and the extension gives the suffix back
  have hname : unitSuffix (unitPrefix ++ String.ofList suffix ++ ".scope").toList = some suffix := by
    have hlen : unitPrefix.length = unitPrefix.toList.length := rfl
    have hscope : ".scope".length = ".scope".toList.length := rfl
    simp only [unitSuffix, String.toList_append, String.toList_ofList, List.append_assoc, hlen,
      hscope]
    rw [if_pos (List.isPrefixOf_iff_prefix.2 (List.prefix_append _ _)), List.drop_left]
    rw [if_pos (List.isSuffixOf_iff_suffix.2 (List.suffix_append _ _)), List.length_append,
      Nat.add_sub_cancel, List.take_left]
  unfold validateUnitName
  rw [hname]
  apply refuse_eq_ok.2
  simp [hne, hlength, hall]

namespace TransientScopePlan

/-- The limits of pressure and capacity runs are within bounds. -/
theorem validate_eq_ok {plan : TransientScopePlan}
    (hname : validateUnitName plan.unitName = .ok ()) (hpos : plan.memoryMax ≠ 0)
    (hmax : plan.memoryMax ≤ 16 * 1024 * 1024 * 1024)
    (hlimits : plan.contract = .capacityBenchmark ∧ plan.runtimeMaxUsec = 300000000 ∨
      plan.contract = .progressivePressure ∧ plan.runtimeMaxUsec = 100000000)
    (hmemory : plan.memoryAccounting = true) (hcpu : plan.cpuAccounting = true)
    (hio : plan.ioAccounting = true) (hmode : plan.collectMode = "inactive-or-failed") :
    plan.validate = .ok () := by
  unfold validate
  rw [hname]
  rcases hlimits with ⟨hcontract, hruntime⟩ | ⟨hcontract, hruntime⟩
  · rw [hcontract]
    apply refuse_eq_ok.2
    rw [hruntime, hmemory, hcpu, hio, hmode]
    simpa [hpos] using hmax
  · rw [hcontract]
    apply refuse_eq_ok.2
    rw [hruntime, hmemory, hcpu, hio, hmode]
    simpa [hpos] using hmax

/-- A run id with a letter or a digit in it names a unit. -/
theorem limitedTo_eq_ok {contract : TransientScopeContract} {description runId : String}
    {identity : OwnedProcessIdentity} {memoryMax runtimeMaxUsec : UInt64}
    (hid : ∃ c ∈ runId.toList, isAsciiAlphanumeric c = true) (hpos : memoryMax ≠ 0)
    (hmax : memoryMax ≤ 16 * 1024 * 1024 * 1024)
    (hlimits : contract = .capacityBenchmark ∧ runtimeMaxUsec = 300000000 ∨
      contract = .progressivePressure ∧ runtimeMaxUsec = 100000000) :
    ∃ plan, limitedTo contract description runId identity memoryMax runtimeMaxUsec = .ok plan ∧
      plan.identity = identity := by
  obtain ⟨c, hc, halnum⟩ := hid
  have hmem : c ∈ runId.toList.filter isAsciiAlphanumeric := List.mem_filter.2 ⟨hc, halnum⟩
  -- what is left of the id is short and plain, and not empty
  generalize hsuffix : (runId.toList.filter isAsciiAlphanumeric).take 32 = suffix
  have hne : suffix ≠ [] := by
    intro h
    rw [h] at hsuffix
    rcases List.take_eq_nil_iff.1 hsuffix with h | h
    · cases h
    · rw [h] at hmem
      cases hmem
  have hname : validateUnitName (unitPrefix ++ String.ofList suffix ++ ".scope") = .ok () := by
    rw [← hsuffix] at hne ⊢
    apply validateUnitName_generated hne (List.length_take_le _ _)
    apply List.all_eq_true.2
    intro a ha
    exact (List.mem_filter.1 (List.mem_of_mem_take ha)).2
  let plan : TransientScopePlan := {
    unitName := unitPrefix ++ String.ofList suffix ++ ".scope"
    description := description
    identity := identity
    memoryMax := memoryMax
    runtimeMaxUsec := runtimeMaxUsec
    memoryAccounting := true
    cpuAccounting := true
    ioAccounting := true
    collectMode := "inactive-or-failed"
    contract := contract }
  have hplan : plan.validate = .ok () := validate_eq_ok hname hpos hmax hlimits rfl rfl rfl rfl
  refine ⟨plan, ?_, rfl⟩
  unfold limitedTo withLimits
  rw [hsuffix]
  simp only [refuse, if_neg hne, hname]
  exact congrArg (fun x => x >>= fun _ => pure plan) hplan

end TransientScopePlan

/-- What the manager says of a scope. -/
structure ScopeState where
  unitName : String
  objectPath : String
  controlGroup : String
  memoryMax : UInt64
  memoryAccounting : Bool
  cpuAccounting : Bool
  ioAccounting : Bool
  runtimeMaxUsec : UInt64
  activeState : String
  subState : String
  members : Finset UInt32
  deriving DecidableEq

/-- The part of `verify` that looks at the state alone. -/
def ScopeState.check (s : ScopeState) (plan : TransientScopePlan) : Except String Unit := do
  refuse (s.unitName ≠ plan.unitName) "systemd unit identity mismatch"
  refuse (s.controlGroup = "") "systemd ControlGroup is unavailable"
  refuse (s.memoryMax ≠ plan.memoryMax ∨ s.memoryAccounting = false ∨ s.cpuAccounting = false ∨
    s.ioAccounting = false ∨ s.runtimeMaxUsec ≠ plan.runtimeMaxUsec)
    "systemd scope resource property mismatch"
  refuse (s.activeState ≠ "active" ∨ s.subState ≠ "running")
    "systemd transient scope is not active/running"
  refuse (s.members ≠ {plan.identity.pid}) "systemd scope membership is not exclusive"

/-! ## §2 Descriptors of targets -/

/-- Which process a target is, and for which transaction. -/
structure CapacityExternalTargetIdentity where
  validationTransactionId : String
  targetSessionId : String
  nonce : String
  pid : UInt32
  startTicks : UInt64
  executablePath : String
  executableSha256 : String
  embeddedSourceCommit : String
  creatorPid : UInt32
  creatorStartTicks : UInt64
  preparingUid : UInt32
  preparingGid : UInt32
  unitOrCgroupIdentity : String
  controlChannelIdentity : String
  creationMonotonicNs : ℕ

/-- How the pages of a target are backed. -/
inductive PageBackingProfile where
  | thpReference
  | basePageNoHuge
  deriving DecidableEq

/-- The terms a target works under. -/
structure CapacityExternalTargetContract where
  contractVersion : UInt32
  protocolVersion : UInt32
  workloadGeneratorVersion : UInt32
  pageBackingProfile : PageBackingProfile
  hotBytes : UInt64
  warmBytes : UInt64
  coldBytes : UInt64
  heartbeatTimeoutMs : UInt64
  maximumRuntimeMs : UInt64
  oneTimeConsumptionRequired : Bool
  productionActivationAuthorized : Bool
  pressureSearchAuthorized : Bool
  deriving DecidableEq

/-- The length of the hot and of the warm zone. -/
def zoneBytes : UInt64 := 8 * 1024 * 1024

/-- The length of the cold zone. -/
def coldBytes : UInt64 := 32 * 1024 * 1024

/-- The only contract that is accepted. -/
def CapacityExternalTargetContract.v1 : CapacityExternalTargetContract where
  contractVersion := 1
  protocolVersion := 1
  workloadGeneratorVersion := 1
  pageBackingProfile := .basePageNoHuge
  hotBytes := zoneBytes
  warmBytes := zoneBytes
  coldBytes := Capacity.coldBytes
  heartbeatTimeoutMs := 1000
  maximumRuntimeMs := 120000
  oneTimeConsumptionRequired := true
  productionActivationAuthorized := false
  pressureSearchAuthorized := false

/-- What a target says of itself. -/
structure CapacityExternalTargetDescriptorPayload where
  contract : CapacityExternalTargetContract
  identity : CapacityExternalTargetIdentity
  ranges : CapacityExternalTargetRanges
  mappingContentIdentities : String × String × String
  descriptorPath : String
  progressPath : String
  transactionRoot : String
  state : CapacityExternalTargetState

/-- What a target writes: its description with the digest. -/
structure CapacityExternalTargetDescriptor where
  payload : CapacityExternalTargetDescriptorPayload
  payloadSha256 : String

/-- The bytes that two ranges have in common. -/
def AddressRange.overlap (a b : AddressRange) : ℕ :=
  min a.stop.toNat b.stop.toNat - max a.start.toNat b.start.toNat

/-- The length of a range. -/
def AddressRange.bytes (r : AddressRange) : ℕ := r.stop.toNat - r.start.toNat

/-- The zones are not empty, of the lengths agreed on, and apart. -/
def CapacityExternalTargetRanges.validate (r : CapacityExternalTargetRanges) : Except String Unit :=
  refuse (r.hot.stop ≤ r.hot.start ∨ r.warm.stop ≤ r.warm.start ∨ r.cold.stop ≤ r.cold.start ∨
      r.hot.overlap r.warm ≠ 0 ∨ r.hot.overlap r.cold ≠ 0 ∨ r.warm.overlap r.cold ≠ 0 ∨
      r.hot.bytes ≠ zoneBytes.toNat ∨ r.warm.bytes ≠ zoneBytes.toNat ∨
      r.cold.bytes ≠ coldBytes.toNat)
    "external target ranges are not the exact distinct HOT/WARM/COLD contract"

/-- What the build and the process itself fix: the commit, the own pid, and hash functions that
    are left open. -/
structure Setting where
  buildGitHead : String
  creatorPid : UInt32
  descriptorHash : CapacityExternalTargetDescriptorPayload → String
  executionHash : CapacityCompositionExecutionEvidence → String
  textHash : String → String

/-- The contract, the zones and the digest are as they have to be. -/
def CapacityExternalTargetDescriptor.validateIntegrity (env : Setting)
    (d : CapacityExternalTargetDescriptor) : Except String Unit := do
  refuse (d.payload.contract ≠ .v1) "unsupported or unsafe external target contract"
  d.payload.ranges.validate
  let identity := d.payload.identity
  let (hot, warm, cold) := d.payload.mappingContentIdentities
  refuse (d.payloadSha256 ≠ env.descriptorHash d.payload ∨ identity.validationTransactionId = "" ∨
      identity.targetSessionId = "" ∨ identity.nonce.utf8ByteSize < 32 ∨ identity.pid = 0 ∨
      identity.startTicks = 0 ∨ identity.executablePath = "" ∨
      identity.executableSha256.utf8ByteSize ≠ 64 ∨ identity.embeddedSourceCommit ≠ env.buildGitHead ∨
      identity.creatorPid = 0 ∨ identity.creatorStartTicks = 0 ∨
      identity.unitOrCgroupIdentity = "" ∨ identity.controlChannelIdentity = "" ∨
      hot.utf8ByteSize ≠ 64 ∨ warm.utf8ByteSize ≠ 64 ∨ cold.utf8ByteSize ≠ 64 ∨ d.payload.state ≠ .ready)
    "external target descriptor integrity or identity is invalid"

/-! ## §3 Calls -/

/-- What the structure of memory management looks like: the fields that are compared. -/
structure StructuralSnapshot where
  swapTopology : List (String × String × UInt64 × Int32)
  zramConfiguration : List (String × String)
  zswapEnabled : Option String
  ksmConfiguration : List (String × String)
  damonTreeShape : List String
  deriving DecidableEq

/-- `matches`. -/
def StructuralSnapshot.agrees (a b : StructuralSnapshot) : Bool := decide (a = b)

/-- Messages of a pressure worker, as far as the composition looks at them. -/
inductive WorkerIpcMessage where
  | hello (pid : UInt32) (startTicks : UInt64)
  | boundaryVerified
  | levelAck (acknowledgement : WorkerLevelAcknowledgement)
  | heartbeat (touchedBytes : UInt64)
  | integrityResult (identity : String)
  | other

/-- `Path::join`, on texts. -/
def joinPath (base name : String) : String := ((UnixPath.PathBuf.mk base).join name).text

/-- The transaction directory of a target. -/
structure TargetRoot where
  parent : String
  name : String
  deriving DecidableEq

/-- The path of the directory. -/
def TargetRoot.path (root : TargetRoot) : String := joinPath root.parent root.name

/-- A file in the directory. -/
def TargetRoot.file (root : TargetRoot) (name : String) : String := joinPath root.path name

/-- What a target is started with. -/
structure TargetArguments where
  root : TargetRoot
  transactionId : String
  sessionId : String
  nonce : String
  creatorPid : UInt32
  creatorStartTicks : UInt64
  preparingUid : UInt32
  preparingGid : UInt32

/-- What a descriptor has to say about its target. -/
structure TargetExpectation where
  creatorPid : UInt32
  creatorStartTicks : UInt64
  executableSha256 : String
  gitHead : String
  pid : UInt32
  startTicks : UInt64

/-- An exit status: its code, if there is one. -/
structure ExitStatus where
  code : Option Int32
  deriving DecidableEq

/-- The child has exited with code 0. -/
def ExitStatus.success (status : ExitStatus) : Bool := status.code == some 0

/-- What the composition reads of the report of a validator. -/
structure ScopedReport where
  checks : List (Option String × Option Bool)
  requiredGatesPassed : Option Bool
  szApplied : Option UInt64
  hostUnchanged : Option Bool
  lifecycle : ValidatorReportLifecycleEvidence

/-- Calls on whose answer the composition goes on or stops. -/
inductive Gate where
  -- the experiment
  | root
  | openStore (outputRoot : String)
  | writeReport (evidence : CapacityCompositionExecutionEvidence)
  | renameReport
  | insertExperiment (evidence : CapacityCompositionExecutionEvidence)
  -- the worker and its scope
  | spawnWorker (socket experimentId runId : String) (seed : UInt64)
  | workerStartTicks (pid : UInt32)
  | waitForSocket (socket : String)
  | connect (socket : String)
  | receiveHello (identity : OwnedProcessIdentity)
  | systemBus
  | startOwnedScope (plan : TransientScopePlan)
  | verifyIdentity (identity : OwnedProcessIdentity)
  | readProcessCgroup (pid : UInt32) (controlGroup : String)
  | verifyBoundary (identity : OwnedProcessIdentity) (memoryMaxBytes : UInt64)
  | waitWorker (pid : UInt32)
  -- a level
  | createLevelDir (path : String)
  | now
  | levelRequest (identity : OwnedProcessIdentity) (command : WorkerLevelCommand)
      (monotonicNs : UInt64)
  | beginHold (identity : OwnedProcessIdentity)
  | receiveHeartbeat
  | requestHeartbeat (identity : OwnedProcessIdentity)
  | writeLevelEvidence (path : String) (evidence : CapacityCompositionLevelEvidence)
  | insertLevel (runOrder levelIndex : ℕ) (evidence : CapacityCompositionLevelEvidence)
  -- the target of a level
  | createTargetRoot (root : TargetRoot)
  | setTargetPermissions (root : TargetRoot)
  | creatorStartTicks (pid : UInt32)
  | spawnTarget (arguments : TargetArguments)
  | targetStartTicks (pid : UInt32)
  | waitForDescriptor (path : String)
  | readDescriptor (path : String) (expected : TargetExpectation)
  | waitInitialProgress (descriptor : CapacityExternalTargetDescriptor)
  | readyStartTicks (pid : UInt32) (startTicks : UInt64)
  | readBefore (path : String)
  | legacyReportAbsent
  | validatorStateAbsent
  | runValidator (descriptorPath : String) (arguments : TargetArguments) (reportPath : String)
  | inspectReport (path : String) (exitCode : Option Int32) (legacyAbsentBefore : Bool)
  | consumeDescriptor (root : TargetRoot) (descriptorHash : String)
  | writeStart (root : TargetRoot) (nonce : String)
  | writeStop (root : TargetRoot) (nonce : String)
  | awaitExit (pid : UInt32)
  | overdueStartTicks (pid : UInt32)
  | killTarget (pid : UInt32)
  | waitTarget (pid : UInt32)
  | readAfter (path : String)
  | copyDescriptor (source destination : String)
  | writeProgress (path : String) (progress : CapacityExternalTargetProgress)
  | readTargetRoot (root : TargetRoot)
  | entryIsFile (path : String)
  | removeTargetFile (path : String)
  | removeTargetRoot (root : TargetRoot)

/-- When the state of a scope is read by its reconciliation. -/
inductive Reading where
  | beforeStop
  | afterError
  | last
  deriving DecidableEq

/-- Calls whose answer is only looked at. -/
inductive Question where
  | captureStructure
  | stopWorker (identity : OwnedProcessIdentity)
  | receiveIntegrity
  | namedCounter (path name : String)
  | readU64 (path : String)
  | readText (path : String)
  -- the reconciliation of a scope
  | processStartTicks (pid : UInt32)
  | readScopeState (reading : Reading) (unitName : String)
  | cgroupMembers (path : String)
  | stopOwnedScope (plan : TransientScopePlan)
  | waitInactiveOrRemoved (unitName : String)
  | elapsedMs
  -- a target that is stopped or dropped
  | readState (path : String)
  | sendStop (root : TargetRoot) (nonce : String)
  | legacyReport
  | validatorState
  | targetExists (root : TargetRoot)
  | consumedExists (root : TargetRoot)
  | pollExit (pid : UInt32)
  | dropStartTicks (pid : UInt32)
  | dropKill (pid : UInt32)
  | dropWait (pid : UInt32)

/-- Why a scope was not stopped. -/
structure StopError where
  noSuchUnit : Bool
  message : String

/-- What a gate is answered with. -/
abbrev Gate.Reply : Gate → Type
  | .root | .legacyReportAbsent | .validatorStateAbsent | .entryIsFile _ => Bool
  | .spawnWorker .. | .spawnTarget _ => Except String UInt32
  | .workerStartTicks _ | .creatorStartTicks _ | .targetStartTicks _ | .readyStartTicks _ _
  | .overdueStartTicks _ => Except String (Option UInt64)
  -- an error here means that the entry of the process cannot be read
  | .verifyIdentity _ => Option UInt64
  | .readProcessCgroup _ _ => Except String (List String)
  | .receiveHello _ | .verifyBoundary _ _ | .levelRequest .. | .beginHold _ | .receiveHeartbeat
  | .requestHeartbeat _ => Except String WorkerIpcMessage
  | .startOwnedScope _ => Except String ScopeState
  | .waitWorker _ | .waitTarget _ | .runValidator .. => Except String ExitStatus
  | .now => Except String ℕ
  | .readDescriptor _ _ => Except String CapacityExternalTargetDescriptor
  | .waitInitialProgress _ | .readBefore _ | .readAfter _ =>
    Except String CapacityExternalTargetProgress
  | .inspectReport .. => Except String ScopedReport
  | .awaitExit _ => Except String (Option ExitStatus)
  | .readTargetRoot _ => Except String (List String)
  | _ => Except String Unit

/-- What a question is answered with. -/
abbrev Question.Reply : Question → Type
  | .captureStructure => StructuralSnapshot
  | .stopWorker _ | .receiveIntegrity => Except String WorkerIpcMessage
  | .namedCounter _ _ | .readU64 _ => Option UInt64
  | .readText _ => Option String
  | .processStartTicks _ | .dropStartTicks _ => Except String (Option UInt64)
  | .readScopeState _ _ => Except String (Option ScopeState)
  | .cgroupMembers _ => Option ℕ
  | .stopOwnedScope _ => Except StopError Unit
  | .elapsedMs => UInt64
  | .readState _ => Except String CapacityExternalTargetProgress
  | .legacyReport | .validatorState | .targetExists _ | .consumedExists _ => Bool
  | .pollExit _ => Option ExitStatus
  | .dropWait _ => Except String ExitStatus
  | _ => Except String Unit

/-- What the composition goes on with after a gate. -/
abbrev Gate.Value : Gate → Type
  | .spawnWorker .. | .spawnTarget _ => UInt32
  | .workerStartTicks _ | .creatorStartTicks _ | .targetStartTicks _ | .now => UInt64
  | .overdueStartTicks _ => Option UInt64
  | .levelRequest .. => WorkerLevelAcknowledgement
  | .beginHold _ => String
  | .receiveHeartbeat | .requestHeartbeat _ => WorkerIpcMessage
  | .startOwnedScope _ => ScopeState
  | .waitWorker _ | .waitTarget _ | .runValidator .. => ExitStatus
  | .readDescriptor _ _ => CapacityExternalTargetDescriptor
  | .readBefore _ | .readAfter _ => CapacityExternalTargetProgress
  | .inspectReport .. => ScopedReport
  | .awaitExit _ => Option ExitStatus
  | .readTargetRoot _ => List String
  | _ => Unit

/-- `Option::context` on a value that may be missing. -/
def context {α : Type} (message : String) : Except String (Option α) → Except String α
  | .ok (some a) => .ok a
  | .ok none => .error message
  | .error e => .error e

/-- The descriptor is sound and describes the process that was spawned. -/
def checkDescriptor (env : Setting) (expected : TargetExpectation)
    (d : CapacityExternalTargetDescriptor) : Except String CapacityExternalTargetDescriptor := do
  d.validateIntegrity env
  let identity := d.payload.identity
  refuse (identity.creatorPid ≠ expected.creatorPid ∨
      identity.creatorStartTicks ≠ expected.creatorStartTicks ∨
      identity.executableSha256 ≠ expected.executableSha256 ∨
      identity.embeddedSourceCommit ≠ expected.gitHead ∨ identity.pid ≠ expected.pid ∨
      identity.startTicks ≠ expected.startTicks)
    "composition target exact identity mismatch"
  return d

/-- The first progress of a target that is ready. -/
def checkInitialProgress (d : CapacityExternalTargetDescriptor) (p : CapacityExternalTargetProgress) :
    Except String Unit :=
  refuse (p.protocolVersion ≠ d.payload.contract.protocolVersion ∨
      p.targetSessionId ≠ d.payload.identity.targetSessionId ∨
      p.nonce ≠ d.payload.identity.nonce ∨ p.state ≠ .ready ∨ p.sequence = 0 ∨
      (p.hotFingerprint, p.warmFingerprint, p.coldFingerprint) ≠
        d.payload.mappingContentIdentities)
    "external target initial progress identity mismatch"

/-- A worker that answers with the message it was asked for. -/
def expectMessage {α : Type} (message : String) (pick : WorkerIpcMessage → Option α)
    (r : Except String WorkerIpcMessage) : Except String α :=
  context message (r.map pick)

/-- How a gate reads its answer: with a value to go on with, or with the error that ends the
    composition. -/
def Gate.read (env : Setting) : (g : Gate) → g.Reply → Except String g.Value
  | .root, r => refuse (r = false) "composition payload execution requires root"
  | .workerStartTicks _, r => context "pressure worker start ticks unavailable" r
  | .creatorStartTicks _, r => context "creator start ticks unavailable" r
  | .targetStartTicks _, r => context "target start ticks unavailable" r
  | .receiveHello identity, r =>
    expectMessage "pressure HELLO identity mismatch" (fun message =>
      match message with
      | .hello pid startTicks =>
        if pid = identity.pid ∧ startTicks = identity.startTicks then some () else none
      | _ => none) r
  | .startOwnedScope plan, r => do
    let scope ← r
    scope.check plan
    return scope
  | .verifyIdentity identity, r =>
    refuse (r ≠ some identity.startTicks) "owned worker PID/start_ticks identity is stale"
  | .readProcessCgroup _ controlGroup, r => do
    let lines ← r
    refuse (¬ "0::" ++ controlGroup ∈ lines) "owned worker is not in systemd ControlGroup"
  | .verifyBoundary _ _, r =>
    expectMessage "pressure boundary acknowledgement missing" (fun message =>
      match message with
      | .boundaryVerified => some ()
      | _ => none) r
  | .levelRequest .., r =>
    expectMessage "pressure level acknowledgement missing" (fun message =>
      match message with
      | .levelAck acknowledgement => some acknowledgement
      | _ => none) r
  | .beginHold _, r =>
    expectMessage "pressure integrity result missing" (fun message =>
      match message with
      | .integrityResult identity => some identity
      | _ => none) r
  -- nanoseconds that do not fit are capped
  | .now, r => r.map fun ns => if ns < 2 ^ 64 then UInt64.ofNat ns else 0xffffffffffffffff
  | .readDescriptor _ expected, r => r.bind (checkDescriptor env expected)
  | .waitInitialProgress descriptor, r => r.bind (checkInitialProgress descriptor)
  | .readyStartTicks _ startTicks, r => do
    refuse ((← r) ≠ some startTicks) "external target initial progress identity mismatch"
  | .readBefore _, r => do
    let before ← r
    refuse (before.coldCycles ≠ 0) "COLD progressed before composition service action"
    return before
  | .legacyReportAbsent, r => refuse (r = false) "legacy privileged validator report is present"
  | .validatorStateAbsent, r => refuse (r = false) "stale privileged validator state"
  | .entryIsFile _, r => refuse (r = false) "nested composition target content"
  -- the others take the answer as it is
  | .openStore _, r | .writeReport _, r | .renameReport, r | .insertExperiment _, r
  | .spawnWorker .., r | .waitForSocket _, r | .connect _, r | .systemBus, r | .waitWorker _, r
  | .createLevelDir _, r | .receiveHeartbeat, r | .requestHeartbeat _, r
  | .writeLevelEvidence _ _, r | .insertLevel .., r | .createTargetRoot _, r
  | .setTargetPermissions _, r | .spawnTarget _, r | .waitForDescriptor _, r
  | .runValidator .., r | .inspectReport .., r | .consumeDescriptor _ _, r | .writeStart _ _, r
  | .writeStop _ _, r | .awaitExit _, r | .overdueStartTicks _, r | .killTarget _, r
  | .waitTarget _, r | .readAfter _, r | .copyDescriptor _ _, r | .writeProgress _ _, r
  | .readTargetRoot _, r | .removeTargetFile _, r | .removeTargetRoot _, r => r

/-- A call: a gate or a question. -/
inductive HostOp where
  | gate (g : Gate)
  | ask (q : Question)

/-- What a call is answered with. -/
abbrev HostOp.Reply : HostOp → Type
  | .gate g => g.Reply
  | .ask q => q.Reply

/-- The calls of the composition with their replies. -/
abbrev compositionHost : Iface where
  Op := HostOp
  Reply := HostOp.Reply

/-- A program over the calls, which fails with a message. -/
abbrev Exec (α : Type) := Act compositionHost Unit String α

/-- Go through a gate. -/
def gate (env : Setting) (g : Gate) : Exec g.Value :=
  Act.perform (I := compositionHost) (.gate g) (g.read env)

/-- Ask a question. -/
def ask (q : Question) : Exec q.Reply := Act.request (I := compositionHost) (.ask q)

/-! ## §4 The host -/

/-- What the composition has brought into the world. -/
structure Host where
  /-- Workers that were spawned and not reaped. -/
  workers : Finset UInt32
  /-- Units that were started and not reconciled; the last reading of its state ends the
      reconciliation of a scope. -/
  scopes : Finset String
  /-- Targets that were spawned and not reaped. -/
  targets : Finset UInt32
  /-- Transaction directories that exist. -/
  roots : Finset TargetRoot
  /-- Transaction directories in which the descriptor was consumed. -/
  consumed : Finset TargetRoot

/-- Nothing is left running. -/
structure Host.Clean (h : Host) : Prop where
  workers : h.workers = ∅
  scopes : h.scopes = ∅
  targets : h.targets = ∅

/-- The workers after a call. -/
def HostOp.workers : (op : HostOp) → op.Reply → Finset UInt32 → Finset UInt32
  | .gate (.spawnWorker ..), .ok pid, workers => insert pid workers
  | .gate (.waitWorker pid), .ok _, workers => workers.erase pid
  | _, _, workers => workers

/-- The targets after a call. -/
def HostOp.targets : (op : HostOp) → op.Reply → Finset UInt32 → Finset UInt32
  | .gate (.spawnTarget _), .ok pid, targets => insert pid targets
  | .gate (.awaitExit pid), .ok (some _), targets => targets.erase pid
  | .gate (.waitTarget pid), .ok _, targets => targets.erase pid
  | .ask (.pollExit pid), some _, targets => targets.erase pid
  | .ask (.dropWait pid), .ok _, targets => targets.erase pid
  | _, _, targets => targets

/-- The scopes after a call. A start that fails may have started the unit. -/
def HostOp.Scopes : (op : HostOp) → op.Reply → Finset String → Finset String → Prop
  | .gate (.startOwnedScope plan), .ok _, scopes, scopes' => scopes' = insert plan.unitName scopes
  | .gate (.startOwnedScope plan), .error _, scopes, scopes' =>
    scopes' = scopes ∨ scopes' = insert plan.unitName scopes
  | .ask (.readScopeState .last unitName), _, scopes, scopes' => scopes' = scopes.erase unitName
  | _, _, scopes, scopes' => scopes' = scopes

/-- The transaction directories after a call. Nobody but the composition makes one. -/
def HostOp.Roots : (op : HostOp) → op.Reply → Finset TargetRoot → Finset TargetRoot → Prop
  | .gate (.createTargetRoot root), .ok _, roots, roots' => roots' ⊆ insert root roots
  | .gate (.removeTargetRoot root), .ok _, roots, roots' => roots' ⊆ roots.erase root
  -- a file is only found in a directory that exists
  | .ask (.consumedExists root), r, roots, roots' => roots' ⊆ roots ∧ (r = true → root ∈ roots)
  | _, _, roots, roots' => roots' ⊆ roots

/-- The consumed descriptors after a call. A validator may consume one as well. -/
def HostOp.Consumed : (op : HostOp) → op.Reply → Finset TargetRoot → Finset TargetRoot → Prop
  | .gate (.consumeDescriptor root _), .ok _, consumed, consumed' => insert root consumed ⊆ consumed'
  | _, _, consumed, consumed' => consumed ⊆ consumed'

/-- How the host may answer a call. -/
structure Host.Answers (h : Host) (op : HostOp) (r : op.Reply) (h' : Host) : Prop where
  workers : h'.workers = op.workers r h.workers
  targets : h'.targets = op.targets r h.targets
  scopes : op.Scopes r h.scopes h'.scopes
  roots : op.Roots r h.roots h'.roots
  consumed : op.Consumed r h.consumed h'.consumed

/-- A call and its answer, with the host as it was before. -/
structure Answer where
  before : Host
  event : Event compositionHost

/-- The host, and what was answered so far. -/
structure World where
  host : Host
  history : List Answer

/-- Any answer that the host may give, noted in the history. -/
def World.system : Env compositionHost Unit World := fun _ w op r w' =>
  w.host.Answers op r w'.host ∧ w'.history = w.history ++ [⟨w.host, ⟨op, r⟩⟩]

/-- The start of a composition: nothing has been spawned or started. -/
def World.start (roots consumed : Finset TargetRoot) : World where
  host :=
    { workers := ∅, scopes := ∅, targets := ∅, roots := roots, consumed := consumed }
  history := []

/-- The answer is one that a gate does not let through. -/
def Answer.Stops (env : Setting) : Answer → Prop
  | ⟨_, ⟨.gate g, r⟩⟩ => ∃ message, g.read env r = .error message
  | _ => False

/-- Such an answer while a worker is not reaped. -/
def Answer.Strands (env : Setting) (a : Answer) : Prop := a.before.workers ≠ ∅ ∧ a.Stops env

end Nemor.Capacity
