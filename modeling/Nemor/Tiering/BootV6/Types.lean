import Mathlib.Data.Finmap
import Nemor.Lib.UnixPath

/-!
# Boot validation v6: data model

The prepared manifest, the durable transaction, the observations that a backend reports and
the evidence documents made from them.
-/

namespace Nemor.Tiering.BootV6

open UnixPath

/-! ## §1 Versions -/

/-- Version that a manifest has to name; another one is refused. -/
def contractVersion : String := "tiering-boot-validation-v6"
/-- Version of the rules by which a prepared plan is judged. -/
def ruleVersion : String := "tiering-rules-v5-storage-profile-comparison"
/-- Version of the storage profiles in a topology identity. -/
def storageProfileVersion : String := "nemor-storage-profile-v1"
/-- Schema of a prepared manifest. -/
def preparedManifestSchema : String := "tiering-boot-prepared-manifest-v6"
/-- Schema of the transaction file. -/
def durableTransactionSchema : String := "tiering-boot-transaction-v6"
/-- Schema of what the privileged preflight observes. -/
def preflightSchema : String := "tiering-boot-preflight-v6"
/-- Schema of the evidence that an apply leaves. -/
def applyEvidenceSchema : String := "tiering-boot-apply-evidence-v6"
/-- Schema of what is observed after the one-shot boot. -/
def postBootEvidenceSchema : String := "tiering-post-boot-evidence-v6"
/-- Schema of what is observed after the boot back. -/
def finalRestoreSchema : String := "tiering-final-restore-evidence-v6"
/-- Schema of the measurements of the profile. -/
def profileBenchmarkEvidence : String := "tiering-profile-benchmark-v6"
/-- Schema of the measurements of the zram baseline. -/
def zramBaselineEvidence : String := "tiering-zram-baseline-v4"
/-- The one workload protocol that is compared. -/
def workloadProtocol : String := "tiering-bounded-workload-v3"
/-- The directory below which a validation keeps its files. -/
def transactionRoot : PathBuf := ⟨"/var/lib/nemor/validation/phase6"⟩
/-- Where Type 1 boot entries are. -/
def entryRoot : PathBuf := ⟨"/boot/loader/entries"⟩
/-- Where the validation unit is installed. -/
def unitRoot : PathBuf := ⟨"/etc/systemd/system"⟩

/-- A map keyed by text. -/
abbrev StringMap (α : Type) := Finmap fun _ : String => α

/-! ## §2 The manifest -/

/-- An executable: where it is, its digest and the commit it was built from. -/
structure BinaryIdentity where
  path : PathBuf
  sha256 : String
  embeddedCommit : String
  deriving BEq

/-- A copy of an executable, with the owner and the mode it is to have. -/
structure StagedBinaryPlan where
  source : BinaryIdentity
  destination : PathBuf
  destinationMode : UInt32
  destinationUid : UInt32
  destinationGid : UInt32
  requireSingleLink : Bool
  sourceUid : UInt32
  sourceGid : UInt32
  sourceMode : UInt32
  sourceLinkCount : UInt64
  sourceDevice : UInt64
  sourceInode : UInt64

/-- One layer of the block devices between a file system and its disk. -/
structure BlockLayerIdentity where
  path : PathBuf
  kind : String
  major : UInt32
  minor : UInt32
  parent : Option PathBuf
  deriving BEq, ReflBEq

/-- The disk at the bottom of the layers. -/
structure PhysicalDeviceIdentity where
  path : PathBuf
  major : UInt32
  minor : UInt32
  transport : String
  rotational : Bool
  model : String
  serial : Option String
  wwn : Option String
  capacityBytes : UInt64
  logicalBlockSize : UInt64
  physicalBlockSize : UInt64
  deriving BEq, ReflBEq

/-- The file system that holds the swap file. -/
structure FilesystemIdentity where
  filesystem : String
  uuidOrFsid : String
  mountSource : PathBuf
  mountPoint : PathBuf
  mountId : UInt64
  deviceMajor : UInt32
  deviceMinor : UInt32
  deriving BEq, ReflBEq

/-- What kind of device the swap file is on. -/
inductive StorageProfile where
  | nvmeSsd
  | sataSsd
  | sasSsd
  | usbSsd
  | otherNonRotational
  | rotational
  | composite
  | virtual
  | ambiguous
  deriving DecidableEq

/-- The profiles that a validation may boot into. -/
def StorageProfile.bootSupported : StorageProfile → Bool
  | .nvmeSsd | .sataSsd => true
  | _ => false

/-- The storage below the swap file, as it was when the plan was prepared. -/
structure StorageTopologyIdentity where
  storageProfileVersion : String
  profile : StorageProfile
  chain : List BlockLayerIdentity
  physical : PhysicalDeviceIdentity
  filesystem : FilesystemIdentity
  composite : Bool
  ambiguous : Bool
  confidence : String
  deriving BEq, ReflBEq

/-- One active swap area, a line of `/proc/swaps`. -/
structure SwapIdentity where
  path : PathBuf
  kind : String
  sizeBytes : UInt64
  priority : Int32
  uuid : Option String
  active : Bool
  deriving BEq, ReflBEq

/-- The zram swap of the host and who provides it. -/
structure ZramIdentity where
  device : PathBuf
  provider : String
  active : Bool
  priority : Int32
  disksizeBytes : UInt64
  compressor : String
  memoryLimitBytes : UInt64
  unit : String
  deriving BEq, ReflBEq

/-- The parameters of the zswap module, by name. -/
structure ZswapIdentity where
  parameters : StringMap String
  deriving BEq, ReflBEq

/-- A boot entry and the digest of its file. -/
structure BootEntryIdentity where
  id : String
  path : PathBuf
  sha256 : String
  title : String
  linuxOrEfi : PathBuf
  initrds : List PathBuf
  options : String

/-- A kernel or initrd that the entry names, with its digest. -/
structure ReferencedBootFile where
  path : PathBuf
  sha256 : String

/-- The three kinds of files that an apply creates. -/
inductive OwnedArtifactKind where
  | type1Entry
  | validationUnit
  | helperBinary
  deriving DecidableEq

/-- A file that the apply is to create, with everything the rollback checks before it removes it. -/
structure OwnedArtifact where
  kind : OwnedArtifactKind
  path : PathBuf
  sha256 : String
  mode : UInt32
  ownerUid : UInt32
  ownerGid : UInt32
  content : List UInt8

/-- The boot loader with its current and its default entry. -/
structure BootIdentity where
  bootloader : String
  bootloaderVersion : String
  currentEntry : BootEntryIdentity
  defaultEntry : BootEntryIdentity
  bootOrder : List String
  priorOneShot : Option String
  espMount : PathBuf
  espDevice : String
  espFilesystem : String
  espUuid : String
  espMountId : UInt64
  espDeviceMajor : UInt32
  espDeviceMinor : UInt32
  secureBoot : String
  kernelRelease : String
  referencedFiles : List ReferencedBootFile
  currentCommandLine : String

/-- The workload that baseline and profile are measured under. -/
structure WorkloadContract where
  protocol : String
  seed : UInt64
  bytes : UInt64
  iterations : UInt32
  timeoutSeconds : UInt64
  maximumWriteBytes : UInt64

/-- What is sealed when a validation is prepared. Nothing of it may change before the boot. -/
structure PreparedManifestPayload where
  contractVersion : String
  ruleVersion : String
  validationId : String
  preparedUid : UInt32
  preparedGid : UInt32
  sourceCommit : String
  sourceStateSha256 : String
  binaries : StringMap BinaryIdentity
  configPath : PathBuf
  configSha256 : String
  materialEnvironmentSha256 : String
  topology : StorageTopologyIdentity
  baselineSwaps : List SwapIdentity
  protectedZram : ZramIdentity
  baselineZswap : ZswapIdentity
  experimentalZswap : StringMap String
  boot : BootIdentity
  experimentalEntry : BootEntryIdentity
  validationMarker : String
  swapfile : SwapIdentity
  ownedArtifacts : List OwnedArtifact
  transactionRoot : PathBuf
  workload : WorkloadContract
  stagedHelper : StagedBinaryPlan
  recoveryEntry : String
  productionActivation : Bool

/-- A sealed payload: the digest covers all of it. -/
structure PreparedManifest where
  schema : String
  payload : PreparedManifestPayload
  payloadSha256 : String

/-! ## §3 The transaction -/

/-- How far a validation has come, from its preparation to its completion. -/
inductive TransactionStage where
  | prepared
  | rootPreflighted
  | baselineMeasuring
  | baselineMeasured
  | applying
  | applied
  | oneShotSelecting
  | oneShotSelected
  | experimentalBootDetected
  | activationPreparing
  | zswapDisabling
  | zswapParametersApplying
  | zswapEnabling
  | swapActivating
  | activationVerified
  | activationFailed
  | postBootMeasuring
  | postBootValidated
  | baselineSelecting
  | baselineSelected
  | baselineBoot
  | baselineVerified
  | cleaning
  | restored
  | recovered
  | failed
  deriving DecidableEq

/-- One entry of the journal. It is written before the mutation and completed after it. -/
structure MutationRecord where
  operation : String
  target : PathBuf
  completed : Bool
  evidenceSha256 : Option String
  bootId : String

/-- The figures of the measurement after the boot, as the transaction keeps them. -/
structure PostBootSummary where
  backingWriteBytes : UInt64
  latencyNs : UInt64
  writeBudgetPassed : Bool
  oom : Bool
  safetyFailure : Bool
  backingWriteConfidence : String

/-- The state of a validation between its commands and across its boots. -/
structure DurableTransactionPayload where
  validationId : String
  manifestSha256 : String
  stage : TransactionStage
  baselineBootId : String
  currentBootId : String
  artifactRegistry : List PathBuf
  swapfileRegistry : List PathBuf
  unitRegistry : List PathBuf
  transientUnitRegistry : List String
  appliedSwapIdentity : Option SwapIdentity
  evidenceHashes : StringMap String
  mutationRecords : List MutationRecord
  primaryError : Option String
  failedFromStage : Option TransactionStage
  secondaryErrors : List String
  recoveryState : String
  idempotenceVerified : Bool
  activationParameterIndex : ℕ
  originalPrimaryError : Option String
  terminalArchiveSha256 : Option String
  postBootSummary : Option PostBootSummary

/-- The transaction file. Every change seals it again. -/
structure DurableTransaction where
  schema : String
  payload : DurableTransactionPayload
  payloadSha256 : String

/-! ## §4 Observations -/

/-- What the preflight finds as root, to be compared with the manifest. -/
structure PreflightObservation where
  schema : String
  uid : UInt32
  gid : UInt32
  sudoUid : Option UInt32
  sudoGid : Option UInt32
  hostIdentitySha256 : String
  sourceMatches : Bool
  binariesMatch : Bool
  configMatches : Bool
  topologyMatches : Bool
  bootMatches : Bool
  bootloaderTypeMatches : Bool
  bootloaderVersionMatches : Bool
  currentEntrySemanticsMatch : Bool
  currentEntryHashMatches : Bool
  currentEntryPathMatches : Bool
  defaultEntrySemanticsMatch : Bool
  defaultEntryHashMatches : Bool
  defaultEntryPathMatches : Bool
  referencedBootFilesMatch : Bool
  kernelReleaseMatches : Bool
  commandLineMatches : Bool
  espDeviceMatches : Bool
  espFilesystemMatches : Bool
  espUuidMatches : Bool
  espMountMatches : Bool
  bootOrderMatches : Bool
  oneShotMatches : Bool
  zramMatches : Bool
  zswapMatches : Bool
  parentsSafe : Bool
  transactionHierarchySafe : Bool
  stagedSourceBinaryMatches : Bool
  validationDestinationsAbsent : Bool
  espFreeBytes : UInt64
  swapFreeBytes : UInt64
  packageUpdateAbsent : Bool
  secureBootCompatible : Bool
  acPower : Option Bool
  staleStateAbsent : Bool
  validationProcessAbsent : Bool
  unrelatedMutationAbsent : Bool
  mutationCount : UInt64
  ready : Bool

/-- What the measurement of the zram baseline says of its host and of its result. -/
structure BaselineMeasurementObservation where
  schema : String
  validationId : String
  bootId : String
  zram : ZramIdentity
  zswap : ZswapIdentity
  swaps : List SwapIdentity
  workloadProtocol : String
  workloadSha256 : String
  bytesTouched : UInt64
  latencyNs : Option UInt64
  cgroupOomDelta : Option UInt64
  cgroupOomKillDelta : Option UInt64
  contentVerified : Bool
  cleanupPassed : Bool
  scopeAbsent : Bool
  productionActivation : Bool

/-- The executable of a running process. -/
structure RuntimeBinaryIdentity where
  path : PathBuf
  sha256 : String
  pid : UInt32
  startTicks : UInt64

/-- Evidence that the daemon, if it runs, only observes. -/
structure RuntimeObserveOnlyEvidence where
  configSha256 : String
  configuredObserveOnly : Bool
  nemordActive : Bool
  nemordBinary : Option RuntimeBinaryIdentity
  effectiveMode : Option String
  productionTieringUnitAbsent : Bool
  unexpectedNemorUnits : List String
  unexpectedNemorCgroups : List String
  productionActivation : Bool

/-- What is found after the one-shot boot. -/
structure ActualPostBootObservation where
  schema : String
  bootId : String
  bootedEntry : String
  commandLine : String
  kernelRelease : String
  zswap : ZswapIdentity
  swaps : List SwapIdentity
  protectedZram : ZramIdentity
  topology : StorageTopologyIdentity
  unitActive : Bool
  workloadScopeAbsent : Bool
  daemonObserveOnly : Bool
  productionActivation : Bool
  zswapCounters : StringMap (Option UInt64)
  zswapCountersBefore : StringMap (Option UInt64)
  zswapCounterDeltas : StringMap (Option UInt64)
  cgroupPath : String
  workloadPid : UInt32
  workloadStartTicks : UInt64
  workloadReady : Bool
  workloadStarted : Bool
  workloadStopped : Bool
  progressSteps : UInt64
  cgroupOomDelta : Option UInt64
  cgroupOomKillDelta : Option UInt64
  hostOomKillDelta : Option UInt64
  memoryCurrentBytes : Option UInt64
  memoryPeakBytes : Option UInt64
  swapCurrentBytes : Option UInt64
  scopedPsiSomeMicros : Option UInt64
  blockWriteBytes : Option UInt64
  blockWriteAttribution : String
  latencyNs : Option UInt64
  bytesTouched : UInt64
  throughputBytesPerSecond : Option UInt64
  compressionRatioMilli : Option UInt64
  refaultObserved : Bool
  refaultContentVerified : Bool
  oom : Bool
  oomKill : Bool
  workloadCompleted : Bool
  workloadTimeout : Bool
  runtimeObservation : RuntimeObserveOnlyEvidence

/-- What is found after the boot into the old default entry. -/
structure BaselineRestoreObservation where
  schema : String
  bootId : String
  bootedEntry : String
  commandLine : String
  zswap : ZswapIdentity
  protectedZram : ZramIdentity
  swaps : List SwapIdentity
  defaultEntry : String
  bootOrder : List String
  oneShot : Option String
  productionActivation : Bool

/-- Measurements of zram on the host of the validation. -/
structure SameHostZramBaselineEvidence where
  schema : String
  validationId : String
  sourceCommit : String
  sourceStateSha256 : String
  environmentSha256 : String
  topologySha256 : String
  workloadSha256 : String
  real : Bool
  oom : Bool
  safetyFailure : Bool
  cleanupPassed : Bool
  finalRestorePassed : Bool
  archiveSha256 : String
  rawEvidenceSha256 : String
  workloadProtocol : String

/-- Measurements of the storage profile on the same host. -/
structure SameHostProfileEvidence where
  schema : String
  validationId : String
  profile : StorageProfile
  sourceCommit : String
  sourceStateSha256 : String
  environmentSha256 : String
  topologySha256 : String
  workloadSha256 : String
  real : Bool
  oom : Bool
  safetyFailure : Bool
  cleanupPassed : Bool
  finalRestorePassed : Bool
  writeBudgetPassed : Bool
  backingWriteBytes : Option UInt64
  latencyNs : Option UInt64
  archiveSha256 : String
  rawEvidenceSha256 : String
  workloadProtocol : String
  backingWriteConfidence : String

/-! ## §5 Documents and digests -/

/-- What an apply has activated and created. -/
structure ApplyEvidence where
  schema : String
  validationId : String
  swap : Option SwapIdentity
  artifactRegistry : List PathBuf
  mutationRecords : List MutationRecord
  productionActivation : Bool

/-- Which entry was asked for once, and what the boot loader then says. -/
structure OneShotEvidence where
  schema : String
  requested : String
  effective : Option String
  default : Option String
  bootOrder : Option (List String)

/-- Everything that is serialized. -/
inductive Document where
  | manifestPayload (p : PreparedManifestPayload)
  | manifest (m : PreparedManifest)
  | transactionPayload (p : DurableTransactionPayload)
  | topology (t : StorageTopologyIdentity)
  | workload (w : WorkloadContract)
  | swap (s : SwapIdentity)
  | entry (e : BootEntryIdentity)
  | text (s : String)
  | preflight (o : PreflightObservation)
  | baselineMeasurement (o : BaselineMeasurementObservation)
  | postBoot (o : ActualPostBootObservation)
  | baselineRestore (o : BaselineRestoreObservation)
  | applyEvidence (e : ApplyEvidence)
  | oneShotEvidence (e : OneShotEvidence)
  | zramBaseline (e : SameHostZramBaselineEvidence)
  | profile (e : SameHostProfileEvidence)

/-- The serializer and the hash function, which come from other crates. Nothing is assumed
    about them. -/
structure Codec where
  toVec : Document → List UInt8
  /-- The digest in hexadecimal. -/
  sha256 : List UInt8 → String

/-- `canonical_json_sha256`: the digest of the serialised document. -/
def Codec.canonicalJsonSha256 (c : Codec) (d : Document) : String := c.sha256 (c.toVec d)

/-- Why a command is refused or fails. -/
inductive BootValidationError where
  | version
  | identity (what : String)
  | topology
  | path
  | entry
  | swap
  | zswap
  | payload
  | sudoIdentity
  | preflight (reason : String)
  | transition
  | readback (what : String)
  | measurement (what : String)
  deriving DecidableEq

/-- Stop with `e` if something is wrong. -/
def refuseIf (bad : Bool) (e : BootValidationError) : Except BootValidationError Unit :=
  if bad then .error e else .ok ()

/-- A check that passes lets the rest run. -/
@[simp] theorem ok_bind {α β : Type} (a : α) (f : α → Except BootValidationError β) :
    (Except.ok a >>= f) = f a := rfl

theorem refuseIf_ok {bad : Bool} {e : BootValidationError} (h : refuseIf bad e = .ok ()) :
    bad = false := by
  cases bad with
  | true => cases h
  | false => rfl

end Nemor.Tiering.BootV6
