import Nemor.Common.Config
import Nemor.Tiering.Swapfile.Linux
import Nemor.Tiering.Topology

/-!
# Swapfiles: the plan and what comes of it

`planSwapfile` looks for everything that speaks against a swapfile and computes its size. Here the
plan is followed to the system: whatever an apply of it and the rollbacks after it ask of the
system, at any point and with any answers, nothing spoke against the plan, and every call is about
the one place where production swapfiles are, with the size and the priority of the plan.
-/

namespace Nemor.Tiering.Swapfile

open Effectful Fallible MachineNumbers UnixPath

open BootV6 (StorageProfile)

/-! ## §1 The plan -/

/-- Whose a swap file is. -/
inductive SwapfileOwnership where
  | nemorOwned
  | adopted
  | external
  | unknown
  deriving DecidableEq

/-- What is known of the place for a swap file. -/
structure SwapfileContext where
  path : PathBuf
  parentCanonical : PathBuf
  mountpoint : PathBuf
  filesystem : FilesystemKind
  topology : StorageTopology
  totalRamBytes : UInt64
  zramSizeBytes : UInt64
  freeBytes : UInt64
  filesystemSizeBytes : UInt64
  capacityTargetBytes : UInt64
  btrfsNocow : Bool
  btrfsPreallocated : Bool
  hasHoles : Bool
  activeExternal : Bool
  ownership : SwapfileOwnership
  gaming : Bool
  severePressure : Bool

/-- The tiering section with the fields that planning reads and validation does not. -/
structure PlanningConfig extends Common.TieringConfig where
  dryRun : Bool
  allowPersistentReconfigure : Bool
  allowSwapfileCreate : Bool
  minFreeDiskGib : UInt64

/-- The plan with the fields that only reports read. -/
structure ReportedPlan extends SwapfilePlan where
  mountpoint : PathBuf
  backingDevice : String
  physicalDeviceClass : StorageClass
  freeBytes : UInt64
  requiredHeadroomBytes : UInt64
  ownership : SwapfileOwnership
  createRequired : Bool
  formatRequired : Bool
  activateRequired : Bool
  persistenceRequested : Bool

/-- The name under which a profile is serialized. -/
def profileName : StorageProfile → String
  | .nvmeSsd => "nvme_ssd"
  | .sataSsd => "sata_ssd"
  | .sasSsd => "sas_ssd"
  | .usbSsd => "usb_ssd"
  | .otherNonRotational => "other_non_rotational"
  | .rotational => "rotational"
  | .composite => "composite"
  | .virtual => "virtual"
  | .ambiguous => "ambiguous"

/-- A normal absolute path below its own canonical parent. -/
def validateCandidatePath (path parentCanonical : PathBuf) : Except String Unit := do
  refuse (¬ path.isAbsolute ∨ .parentDir ∈ path.components ∨ .curDir ∈ path.components)
    "swapfile path must be absolute and normalized"
  refuse (path.fileName ≠ some "nemor-tiering.swap".toList)
    "swapfile name is outside the Nemor-owned namespace"
  let parent ← okOr path.parent "swapfile parent is missing"
  refuse (parent ≠ parentCanonical.components ∨ ¬ parentCanonical.isAbsolute)
    "swapfile parent canonicalization mismatch"

namespace SwapfileContext

variable (context : SwapfileContext) (config : PlanningConfig)

/-- What speaks against the path. -/
def pathReasons : List String :=
  match validateCandidatePath context.path context.parentCanonical with
  | .ok _ => []
  | .error error => [error]

/-- What the file system has against it. -/
def filesystemReasons : List String :=
  match context.filesystem with
  | .ext4 => refusals [(context.hasHoles, "ext4_swapfile_has_holes")]
  | .btrfs => refusals [
      (!context.btrfsNocow, "btrfs_swapfile_requires_nocow"),
      (!context.btrfsPreallocated || context.hasHoles,
        "btrfs_swapfile_requires_valid_preallocation")]
  | .unsupported => ["unsupported_filesystem"]

/-- The profile is one of those that the configuration supports. -/
def profileAuthorized : Bool :=
  context.topology.profile.any fun profile =>
    decide (profileName profile ∈ config.supportedStorageProfiles)

/-- The largest size that the configuration and the disk allow. -/
def proposedSize : UInt64 :=
  let percentLimit := U64.saturatingMul context.filesystemSizeBytes
    config.maxSwapfilePercentDisk.toUInt64 / 100
  min (min (max context.capacityTargetBytes (context.totalRamBytes / 4))
    (U64.saturatingMul context.totalRamBytes 2)) percentLimit

/-- What has to stay free. -/
def headroom : UInt64 := U64.saturatingMul config.minFreeDiskGib 1073741824

/-- Everything that speaks against the file. -/
def blockedReasons : List String :=
  context.pathReasons ++
  refusals [
    (context.activeExternal, "candidate_is_external_active_swap"),
    (decide (context.ownership ≠ .nemorOwned), "swapfile_not_nemor_owned")] ++
  context.filesystemReasons ++
  refusals [
    (context.topology.ambiguous || context.topology.physical.isNone, "backing_storage_ambiguous"),
    (!context.profileAuthorized config, "storage_profile_not_authorized"),
    (context.gaming, "gaming_defers_structural_io"),
    (context.severePressure, "severe_pressure_blocks_reconfiguration"),
    (!config.allowSwapfileCreate, "swapfile_creation_disabled"),
    (decide (context.freeBytes < U64.saturatingAdd (context.proposedSize config)
        (headroom config)),
      "insufficient_disk_headroom")]

end SwapfileContext

/-- `plan_swapfile`. -/
def planSwapfile (context : SwapfileContext) (config : PlanningConfig) : ReportedPlan where
  path := context.path
  mountpoint := context.mountpoint
  filesystem := context.filesystem
  backingDevice := context.topology.mountSource
  physicalDeviceClass := (context.topology.physical.map (·.class_)).getD .unknown
  proposedSize := context.proposedSize config
  priority := 10
  freeBytes := context.freeBytes
  requiredHeadroomBytes := SwapfileContext.headroom config
  ownership := context.ownership
  createRequired := true
  formatRequired := true
  activateRequired := true
  persistenceRequested := config.allowPersistentReconfigure
  allowed := (context.blockedReasons config).isEmpty
  blockedReasons := context.blockedReasons config
  dryRun := config.dryRun

/-! ## §2 When a plan is allowed -/

/-- Nothing speaks against the swapfile. -/
structure Permits (context : SwapfileContext) (config : PlanningConfig) : Prop where
  candidate : validateCandidatePath context.path context.parentCanonical = .ok ()
  inactive : context.activeExternal = false
  owned : context.ownership = .nemorOwned
  filesystem : context.filesystem ≠ .unsupported ∧ context.hasHoles = false
  btrfs : context.filesystem = .btrfs →
    context.btrfsNocow = true ∧ context.btrfsPreallocated = true
  storage : context.topology.ambiguous = false ∧ context.topology.physical.isSome = true
  profile : ∃ profile, context.topology.profile = some profile ∧
    profileName profile ∈ config.supportedStorageProfiles
  calm : context.gaming = false ∧ context.severePressure = false
  enabled : config.allowSwapfileCreate = true
  /-- The free space has room for the swapfile and the headroom, as far as numbers go. -/
  room : min ((context.proposedSize config).toNat + config.minFreeDiskGib.toNat * 2 ^ 30)
    (2 ^ 64 - 1) ≤ context.freeBytes.toNat

theorem pathReasons_eq_nil {context : SwapfileContext} :
    context.pathReasons = [] ↔
      validateCandidatePath context.path context.parentCanonical = .ok () := by
  unfold SwapfileContext.pathReasons
  cases validateCandidatePath context.path context.parentCanonical <;> simp

theorem filesystemReasons_eq_nil {context : SwapfileContext} :
    context.filesystemReasons = [] ↔
      (context.filesystem ≠ .unsupported ∧ context.hasHoles = false) ∧
        (context.filesystem = .btrfs →
          context.btrfsNocow = true ∧ context.btrfsPreallocated = true) := by
  unfold SwapfileContext.filesystemReasons
  cases context.filesystem with
  | ext4 => simp [refusals_eq_nil]
  | btrfs =>
    simp only [refusals_eq_nil, List.forall_mem_cons, Bool.not_eq_eq_eq_not, Bool.not_false,
      Bool.or_eq_false_iff]
    simp
    tauto
  | unsupported => simp

theorem profileAuthorized_iff {context : SwapfileContext} {config : PlanningConfig} :
    context.profileAuthorized config = true ↔
      ∃ profile, context.topology.profile = some profile ∧
        profileName profile ∈ config.supportedStorageProfiles := by
  simp [SwapfileContext.profileAuthorized, Option.any_eq_true]

theorem room_iff {context : SwapfileContext} {config : PlanningConfig} :
    ¬ context.freeBytes < U64.saturatingAdd (context.proposedSize config)
        (SwapfileContext.headroom config) ↔
      min ((context.proposedSize config).toNat + config.minFreeDiskGib.toNat * 2 ^ 30)
        (2 ^ 64 - 1) ≤ context.freeBytes.toNat := by
  have hgib : (1073741824 : UInt64).toNat = 2 ^ 30 := rfl
  rw [SwapfileContext.headroom, UInt64.lt_iff_toNat_lt, U64.toNat_saturatingAdd,
    U64.toNat_saturatingMul, hgib]
  omega

/-- **A plan is allowed exactly when nothing speaks against it.** -/
theorem planSwapfile_allowed_iff {context : SwapfileContext} {config : PlanningConfig} :
    (planSwapfile context config).allowed = true ↔ Permits context config := by
  simp only [planSwapfile, List.isEmpty_iff, SwapfileContext.blockedReasons,
    List.append_eq_nil_iff, pathReasons_eq_nil, filesystemReasons_eq_nil, refusals_eq_nil,
    List.forall_mem_cons, List.not_mem_nil, false_imp_iff, implies_true, and_true,
    decide_eq_false_iff_not, not_not, Bool.or_eq_false_iff, Bool.not_eq_false', room_iff,
    profileAuthorized_iff]
  constructor
  · rintro ⟨⟨⟨hpath, hactive, howned⟩, hfilesystem, hbtrfs⟩, ⟨hclear, hphysical⟩, hprofile, hgaming,
      hsevere, henabled, hroom⟩
    exact ⟨hpath, hactive, howned, hfilesystem, hbtrfs, ⟨hclear, by simpa using hphysical⟩,
      hprofile, ⟨hgaming, hsevere⟩, henabled, hroom⟩
  · intro h
    exact ⟨⟨⟨h.candidate, h.inactive, h.owned⟩, h.filesystem, h.btrfs⟩,
      ⟨h.storage.1, by simpa using h.storage.2⟩, h.profile, h.calm.1, h.calm.2, h.enabled, h.room⟩

/-- No swapfile is larger than twice the memory, or than its share of the disk. -/
theorem proposedSize_le (context : SwapfileContext) (config : PlanningConfig) :
    (context.proposedSize config).toNat ≤ 2 * context.totalRamBytes.toNat ∧
      (context.proposedSize config).toNat * 100 ≤
        context.filesystemSizeBytes.toNat * config.maxSwapfilePercentDisk.toNat := by
  have htwo : (2 : UInt64).toNat = 2 := rfl
  have hhundred : (100 : UInt64).toNat = 100 := rfl
  simp only [SwapfileContext.proposedSize, UInt64.toNat_min, UInt64.toNat_max, UInt64.toNat_div,
    U64.toNat_saturatingMul, UInt8.toNat_toUInt64, htwo, hhundred]
  omega

/-! ## §3 The place of a planned swapfile -/

/-- Where the swap file of the daemon is. -/
def productionPath : String := "/var/lib/nemor/swap/nemor-tiering.swap"

/-- A text that starts and ends as `between` asks has these ends. -/
theorem eq_of_between {first last : String} {text inner : List Char}
    (h : between first last text = some inner) :
    text = first.toList ++ (inner ++ last.toList) := by
  unfold between at h
  dsimp only at h
  split_ifs at h with hfirst hlast
  obtain ⟨tail, rfl⟩ := List.isPrefixOf_iff_prefix.1 hfirst
  rw [← String.length_toList, List.drop_left] at h hlast
  obtain ⟨front, rfl⟩ := List.isSuffixOf_iff_suffix.1 hlast
  rw [List.length_append, ← String.length_toList, Nat.add_sub_cancel, List.take_left] at h
  rw [Option.some.inj h]

/-- What is put behind a slash is the file name. -/
theorem fileName_eq {path : PathBuf} {front name : List Char}
    (h : path.text.toList = front ++ '/' :: name) (hslash : '/' ∉ name) (hname₀ : name ≠ [])
    (hname₁ : name ≠ ['.']) (hname₂ : name ≠ ['.', '.']) : path.fileName = some name := by
  apply PathBuf.fileName_of_splitOn (front.splitOn '/') _ hname₀ hname₁ hname₂
  rw [h, List.splitOn_append_cons_of_beq _ _ rfl, List.splitOn_eq_singleton hslash]

/-- Of the places that the backend accepts, a candidate of the planner is at the one for
production. The others have file names of their own. -/
theorem text_of_candidate {path parentCanonical : PathBuf}
    (hcandidate : validateCandidatePath path parentCanonical = .ok ())
    (hrequired : LinuxSwapfileBackend.requirePath path = .ok ()) :
    path.text = productionPath := by
  have hname : path.fileName = some "nemor-tiering.swap".toList := by
    obtain ⟨-, hrest⟩ := refuse_bind_eq_ok.1 hcandidate
    exact not_not.1 (refuse_bind_eq_ok.1 hrest).1
  unfold LinuxSwapfileBackend.requirePath at hrequired
  dsimp only at hrequired
  split_ifs at hrequired with hplace
  simp only [Bool.and_eq_true, Bool.or_eq_true] at hplace
  obtain ⟨⟨(⟨⟨hstart, -⟩, hslash⟩ | hphase6) | hproduction, -⟩, -⟩ := hplace
  · -- a file of a validation has its name behind `/var/tmp`
    obtain ⟨rest, hrest⟩ := List.isPrefixOf_iff_prefix.1 hstart
    have htext : path.text.toList =
        "/var/tmp".toList ++ '/' :: ("nemor-validation-tiering-".toList ++ rest) := hrest.symm
    have hdrop : path.text.toList.drop "/var/tmp/".length =
        "nemor-validation-tiering-".toList ++ rest := by
      rw [htext]
      rfl
    rw [hdrop] at hslash
    have hvalidation := fileName_eq htext (by simpa using hslash) (by simp) (by simp) (by simp)
    rw [hname] at hvalidation
    cases hvalidation
  · -- a file of a boot validation is `backing.swap`
    obtain ⟨id, hid, -⟩ := Option.any_eq_true _ _ |>.1 hphase6
    have htext : path.text.toList = ("/var/lib/nemor/validation/phase6/".toList ++ id) ++
        '/' :: "backing.swap".toList := by
      rw [eq_of_between hid, List.append_assoc]
      rfl
    have hbacking := fileName_eq htext (by decide) (by decide) (by decide) (by decide)
    rw [hname] at hbacking
    exact absurd hbacking (by decide)
  · exact beq_iff_eq.1 hproduction

/-! ## §4 Calls of an apply -/

/-- The call is about the swapfile of the plan, and about nothing else. -/
def SysOp.About (plan : SwapfilePlan) : SysOp → Prop
  | .readProcSwaps => True
  | .btrfs path size | .fallocate path size => path = plan.path ∧ size = plan.proposedSize
  | .swapon path priority => path = plan.path ∧ priority = plan.priority
  | .exists path | .chmod path | .mkswap path | .swapoff path | .cleanUp path
  | .removeFile path => path = plan.path

/-- The system may answer anything. Only the calls are noted. -/
def noted {μ : Type} : Env sys μ (List SysOp) := fun _ ops op _ ops' => ops' = ops ++ [op]

section Calls

variable {plan : SwapfilePlan}

theorem only_activeSwaps : Act.Only (SysOp.About plan) LinuxSwapfileBackend.activeSwaps :=
  Act.only_perform trivial

theorem only_helper {op : SysOp} {hop : op.Reply = Except BackendError Unit} (h : op.About plan) :
    Act.Only (SysOp.About plan) (LinuxSwapfileBackend.helper op hop) :=
  Act.only_perform h

theorem only_requireOwned (path : PathBuf) :
    Act.Only (SysOp.About plan) (LinuxSwapfileBackend.requireOwned path) :=
  Act.only_bind Act.only_current fun _ => Act.only_ite (Act.only_pure ()) (Act.only_fail _)

theorem only_format (filesystem : FilesystemKind) : Act.Only (SysOp.About plan)
    (LinuxSwapfileBackend.format plan.path plan.proposedSize filesystem) := by
  cases filesystem with
  | btrfs =>
    apply Act.only_attempt
    exact only_helper ⟨rfl, rfl⟩
  | ext4 =>
    apply Act.only_bind
    · exact only_helper ⟨rfl, rfl⟩
    intro _
    apply Act.only_bind
    · exact only_helper rfl
    intro _
    apply Act.only_attempt
    exact only_helper rfl
  | unsupported => exact Act.only_fail _

theorem only_createOwned : Act.Only (SysOp.About plan)
    (LinuxSwapfileBackend.createOwned plan.path plan.filesystem plan.proposedSize) := by
  apply Act.only_bind (Act.only_ofExcept _)
  intro _
  apply Act.only_bind
  · exact Act.only_request rfl
  intro _
  apply Act.only_ite (Act.only_fail _)
  apply Act.only_bind (only_format _)
  intro formatted
  cases formatted with
  | ok _ => exact Act.only_assign _
  | error error =>
    apply Act.only_bind
    · exact Act.only_request rfl
    intro _
    apply Act.only_ite
    · apply Act.only_bind
      · exact Act.only_request rfl
      intro _
      exact Act.only_fail _
    · exact Act.only_fail _

/-- The operations on a swapfile that has to be owned issue one call. -/
theorem only_owned {path : PathBuf} {m : LinuxSwapfileBackend.Linux Unit}
    (hm : Act.Only (SysOp.About plan) m) : Act.Only (SysOp.About plan) (do
      Act.ofExcept (LinuxSwapfileBackend.requirePath path)
      LinuxSwapfileBackend.requireOwned path
      m) :=
  Act.only_bind (Act.only_ofExcept _) fun _ => Act.only_bind (only_requireOwned path) fun _ => hm

theorem only_removeOwned :
    Act.Only (SysOp.About plan) (LinuxSwapfileBackend.removeOwned plan.path) := by
  apply only_owned
  apply Act.only_bind (Act.only_assign _)
  intro _
  exact Act.only_perform rfl

/-- The snapshot is about the swapfile of the plan, and so was every call. -/
structure Confined (plan : SwapfilePlan) (snapshot : MutationSnapshot) (ops : List SysOp) :
    Prop where
  path : snapshot.path = plan.path
  about : ∀ op ∈ ops, op.About plan

theorem confined_fresh (plan : SwapfilePlan) (baseline : Finset PathKey) :
    Confined plan (.fresh plan.path baseline) [] :=
  ⟨rfl, fun _ hop => by cases hop⟩

theorem onBackend_confined {α : Type} {m : LinuxSwapfileBackend.Linux α}
    (h : Act.Only (SysOp.About plan) m) :
    Act.Keeps noted (fun t => Confined plan t.2) (onBackend m) := by
  apply Act.keeps_focus
  intro t ops hK
  have hkeeps : Act.Keeps noted (fun _ ops => ∀ op ∈ ops, op.About plan) m := by
    apply h.keeps
    rintro _ ops op _ _ hop hops rfl
    exact List.forall_mem_append.2 ⟨hops, List.forall_mem_singleton.2 hop⟩
  apply Act.wp_mono (Act.wp_weaken (hkeeps t.1 ops hK.about) fun _ _ hops => ⟨hK.path, hops⟩)
  intro _ _ _ hops
  exact ⟨hK.path, hops⟩

theorem editSnapshot_confined {f : MutationSnapshot → MutationSnapshot}
    (hf : ∀ s, (f s).path = s.path) : Act.Keeps noted (fun t => Confined plan t.2)
      (editSnapshot f : Procedure sys LinuxSwapfileBackend Unit) :=
  Act.keeps_assign fun t _ h => ⟨(hf t.2).trans h.path, h.about⟩

theorem deactivateListed_confined :
    Act.Keeps noted (fun t => Confined plan t.2) (deactivateListed linux) := by
  apply Act.keeps_current_bind
  rintro ⟨b, snapshot⟩ ⟨ops, h⟩
  dsimp only
  rw [h.path]
  apply Act.keeps_ite
  · intro _
    apply Act.keeps_bind (onBackend_confined only_activeSwaps)
    intro active
    apply Act.keeps_ite
    · intro _
      apply Act.keeps_bind
      · apply onBackend_confined
        exact only_owned (only_helper rfl)
      intro _
      apply Act.keeps_bind (onBackend_confined only_activeSwaps)
      intro active
      exact Act.keeps_ite (fun _ => Act.keeps_fail _) fun _ => Act.keeps_pure ()
    · intro _
      exact Act.keeps_pure ()
  · intro _
    exact Act.keeps_pure ()

theorem removeCreated_confined :
    Act.Keeps noted (fun t => Confined plan t.2) (removeCreated linux) := by
  apply Act.keeps_current_bind
  rintro ⟨b, snapshot⟩ ⟨ops, h⟩
  dsimp only
  rw [h.path]
  apply Act.keeps_ite
  · intro _
    exact onBackend_confined only_removeOwned
  · intro _
    exact Act.keeps_pure ()

theorem rollbackSwapfile_confined :
    Act.Keeps noted (fun t => Confined plan t.2) (rollbackSwapfile linux) := by
  apply Act.keeps_bind Act.keeps_current
  rintro ⟨b, snapshot⟩
  apply Act.keeps_ite (fun _ => Act.keeps_pure _)
  intro _
  apply Act.keeps_ite (fun _ => Act.keeps_fail _)
  intro _
  apply Act.keeps_bind deactivateListed_confined
  intro _
  apply Act.keeps_bind removeCreated_confined
  intro _
  apply Act.keeps_bind
  · exact editSnapshot_confined fun _ => rfl
  · intro _
    exact Act.keeps_pure _

theorem createAndActivate_confined :
    Act.Keeps noted (fun t => Confined plan t.2) (createAndActivate linux plan) := by
  apply Act.keeps_bind (onBackend_confined only_createOwned)
  intro _
  apply Act.keeps_bind
  · exact editSnapshot_confined fun _ => rfl
  intro _
  apply Act.keeps_bind
  · apply onBackend_confined
    exact only_owned (only_helper ⟨rfl, rfl⟩)
  intro _
  apply Act.keeps_bind
  · exact editSnapshot_confined fun _ => rfl
  intro _
  apply Act.keeps_bind (onBackend_confined only_activeSwaps)
  intro active
  apply Act.keeps_ite (fun _ => Act.keeps_fail _)
  intro _
  apply Act.keeps_bind Act.keeps_current
  rintro ⟨b, snapshot⟩
  exact Act.keeps_ite (fun _ => Act.keeps_fail _) fun _ => Act.keeps_pure _

theorem applySwapfile_confined :
    Act.Keeps noted (fun t => Confined plan t.2) (applySwapfile linux plan) := by
  apply Act.keeps_ite (fun _ => Act.keeps_pure _)
  intro _
  apply Act.keeps_ite (fun _ => Act.keeps_fail _)
  intro _
  apply Act.keeps_bind (Act.keeps_attempt createAndActivate_confined)
  intro result
  cases result with
  | ok outcome => exact Act.keeps_pure outcome
  | error error =>
    apply Act.keeps_bind
    · exact editSnapshot_confined fun _ => rfl
    intro _
    apply Act.keeps_bind (Act.keeps_attempt rollbackSwapfile_confined)
    intro _
    exact Act.keeps_fail _

end Calls

/-! ## §5 Runs of a plan -/

/-- An apply of the plan gets as far as its first call. -/
def Carried (plan : SwapfilePlan) : Prop :=
  plan.dryRun = false ∧ plan.allowed = true ∧ LinuxSwapfileBackend.requirePath plan.path = .ok ()

/-- The snapshot claims nothing, and nothing was asked of the system. -/
structure Silent (snapshot : MutationSnapshot) (ops : List SysOp) : Prop where
  created : snapshot.created = false
  activated : snapshot.activated = false
  uncalled : ops = []

theorem applySwapfile_silent {plan : SwapfilePlan} (h : ¬ Carried plan) (b : LinuxSwapfileBackend)
    (baseline : Finset PathKey) :
    Act.wp noted (fun _ ops => ops = []) (applySwapfile linux plan)
      (fun _ t ops => Silent t.2 ops) (b, .fresh plan.path baseline) [] := by
  apply Act.wp_ite.2
  refine ⟨fun _ => ⟨rfl, rfl, rfl⟩, fun hlive => ?_⟩
  apply Act.wp_ite.2
  refine ⟨fun _ => ⟨rfl, rfl, rfl⟩, fun hallowed => ?_⟩
  apply Act.wp_bind.2
  apply Act.wp_attempt.2
  apply Act.wp_bind.2
  apply Act.wp_focus.2
  apply Act.wp_bind.2
  apply Act.wp_ofExcept.2
  -- only the place is left to be refused, and the refusal is before the first call
  cases hplace : LinuxSwapfileBackend.requirePath plan.path with
  | ok _ => exact absurd ⟨by simpa using hlive, by simpa using hallowed, hplace⟩ h
  | error error =>
    apply Act.wp_bind.2
    apply Act.wp_assign.2
    apply Act.wp_bind.2
    apply Act.wp_attempt.2
    apply wp_rollback_unused rfl rfl rfl
    exact ⟨rfl, rfl, rfl⟩

theorem rollbackSwapfile_silent {snapshot : MutationSnapshot} {ops : List SysOp}
    (h : Silent snapshot ops) (b : LinuxSwapfileBackend) :
    Act.wp noted (fun _ ops => ops = []) (rollbackSwapfile linux)
      (fun _ t ops => Silent t.2 ops) (b, snapshot) ops := by
  cases hrolled : snapshot.rolledBack with
  | true => exact wp_rollback_again hrolled h
  | false =>
    apply wp_rollback_unused h.created h.activated hrolled
    exact ⟨h.created, h.activated, h.uncalled⟩

/-- The snapshot and the calls after an apply and some rollbacks. A rollback may run on a backend
    of its own, as after a restart. -/
inductive Attempts (plan : SwapfilePlan) : MutationSnapshot → List SysOp → Prop
  | applied {b : LinuxSwapfileBackend} {baseline : Finset PathKey}
      {r : Except BackendError TransactionOutcome} {t : LinuxSwapfileBackend × MutationSnapshot}
      {ops : List SysOp} :
      Reaches noted (applySwapfile linux plan (b, .fresh plan.path baseline)) [] (.pure (r, t))
        ops → Attempts plan t.2 ops
  | rolledBack {snapshot : MutationSnapshot} {b : LinuxSwapfileBackend}
      {r : Except BackendError TransactionOutcome} {t : LinuxSwapfileBackend × MutationSnapshot}
      {ops ops' : List SysOp} :
      Attempts plan snapshot ops →
      Reaches noted (rollbackSwapfile linux (b, snapshot)) ops (.pure (r, t)) ops' →
      Attempts plan t.2 ops'

/-- The calls up to any point of an apply, or of a rollback after it. -/
inductive Issued (plan : SwapfilePlan) : List SysOp → Prop
  | applying {b : LinuxSwapfileBackend} {baseline : Finset PathKey} {ops : List SysOp}
      {q : Prog sys (LinuxSwapfileBackend × MutationSnapshot) _} :
      Reaches noted (applySwapfile linux plan (b, .fresh plan.path baseline)) [] q ops →
      Issued plan ops
  | rollingBack {snapshot : MutationSnapshot} {b : LinuxSwapfileBackend} {ops ops' : List SysOp}
      {q : Prog sys (LinuxSwapfileBackend × MutationSnapshot) _} :
      Attempts plan snapshot ops →
      Reaches noted (rollbackSwapfile linux (b, snapshot)) ops q ops' → Issued plan ops'

section Runs

variable {plan : SwapfilePlan}

theorem Attempts.silent (hplan : ¬ Carried plan) {snapshot : MutationSnapshot} {ops : List SysOp}
    (h : Attempts plan snapshot ops) : Silent snapshot ops := by
  induction h with
  | applied hr => exact Prog.wp_reaches (applySwapfile_silent hplan _ _) hr
  | rolledBack _ hr ih => exact Prog.wp_reaches (rollbackSwapfile_silent ih _) hr

theorem Attempts.confined {snapshot : MutationSnapshot} {ops : List SysOp}
    (h : Attempts plan snapshot ops) : Confined plan snapshot ops := by
  induction h with
  | applied hr => exact Prog.wp_reaches (applySwapfile_confined _ _ (confined_fresh plan _)) hr
  | rolledBack _ hr ih => exact Prog.wp_reaches (rollbackSwapfile_confined _ _ ih) hr

/-- A plan that is not carried out asks nothing of the system. -/
theorem Issued.silent (hplan : ¬ Carried plan) {ops : List SysOp} (h : Issued plan ops) :
    ops = [] := by
  cases h with
  | applying hr =>
    apply Act.wp_always (K := fun ops => ops = []) _ hr
    exact Act.wp_mono (applySwapfile_silent hplan _ _) fun _ _ _ h => h.uncalled
  | rollingBack hattempts hr =>
    apply Act.wp_always (K := fun ops => ops = []) _ hr
    exact Act.wp_mono (rollbackSwapfile_silent (hattempts.silent hplan) _) fun _ _ _ h => h.uncalled

theorem Issued.about {ops : List SysOp} (h : Issued plan ops) : ∀ op ∈ ops, op.About plan := by
  cases h with
  | @applying b baseline _ _ hr =>
    apply Act.wp_always (K := fun ops => ∀ op ∈ ops, op.About plan) _ hr
    have hrun := applySwapfile_confined (b, .fresh plan.path baseline) []
      (confined_fresh plan baseline)
    exact Act.wp_mono (Act.wp_weaken hrun fun _ _ h => h.about) fun _ _ _ h => h.about
  | @rollingBack snapshot b ops _ _ hattempts hr =>
    apply Act.wp_always (K := fun ops => ∀ op ∈ ops, op.About plan) _ hr
    have hrun := rollbackSwapfile_confined (b, snapshot) ops hattempts.confined
    exact Act.wp_mono (Act.wp_weaken hrun fun _ _ h => h.about) fun _ _ _ h => h.about

/-- A plan that is carried out asks for the file first, and goes no further when it is there. -/
theorem issued_exists (h : Carried plan) : Issued plan [.exists plan.path] := by
  obtain ⟨hlive, hallowed, hplace⟩ := h
  have hmay : Act.may noted (applySwapfile linux plan) (fun _ _ ops => ops = [.exists plan.path])
      (⟨∅⟩, .fresh plan.path ∅) [] := by
    apply Act.may_ite.2
    refine ⟨fun hdry => absurd (hlive.symm.trans hdry) (by simp), fun _ => ?_⟩
    apply Act.may_ite.2
    refine ⟨fun hnot => absurd hnot (by simp [hallowed]), fun _ => ?_⟩
    apply Act.may_bind.2
    apply Act.may_attempt.2
    apply Act.may_bind.2
    apply Act.may_focus.2
    apply Act.may_bind.2
    apply Act.may_ofExcept.2
    rw [hplace]
    apply Act.may_bind.2
    apply Act.may_request.2
    -- the path is taken, so nothing is created and nothing is rolled back
    refine ⟨true, _, rfl, ?_⟩
    apply Act.may_ite.2
    refine ⟨fun _ => ?_, fun hnot => absurd rfl hnot⟩
    apply Act.may_fail.2
    apply Act.may_bind.2
    apply Act.may_assign.2
    apply Act.may_bind.2
    apply Act.may_attempt.2
    show Prog.may _ (rollbackSwapfile linux _) _ _
    rw [rollbackSwapfile_unused rfl rfl rfl]
    rfl
  obtain ⟨_, _, hr, rfl⟩ := Prog.may_reaches hmay
  exact .applying hr

end Runs

/-- Every call that an apply of the plan or a rollback after it can issue, whatever the system
    answers, is one of `P`. -/
def EveryCall (plan : SwapfilePlan) (P : SysOp → Prop) : Prop :=
  ∀ ops, Issued plan ops → ∀ op ∈ ops, P op

/-- The plan may be carried out: nothing speaks against it, it is at the place of production
    swapfiles, and its size is bounded by the memory and by the disk. -/
structure Authorized (context : SwapfileContext) (config : PlanningConfig) : Prop
    extends Permits context config where
  live : config.dryRun = false
  place : context.path.text = productionPath
  memory : (context.proposedSize config).toNat ≤ 2 * context.totalRamBytes.toNat
  disk : (context.proposedSize config).toNat * 100 ≤
    context.filesystemSizeBytes.toNat * config.maxSwapfilePercentDisk.toNat

theorem carried_iff (context : SwapfileContext) (config : PlanningConfig) :
    Carried (planSwapfile context config).toSwapfilePlan ↔ Authorized context config := by
  constructor
  · rintro ⟨hlive, hallowed, hplace⟩
    have hpermits := planSwapfile_allowed_iff.1 hallowed
    obtain ⟨hmemory, hdisk⟩ := proposedSize_le context config
    exact ⟨hpermits, hlive, text_of_candidate hpermits.candidate hplace, hmemory, hdisk⟩
  · intro h
    have hpath : context.path = ⟨productionPath⟩ := congrArg PathBuf.mk h.place
    refine ⟨h.live, planSwapfile_allowed_iff.2 h.toPermits, ?_⟩
    show LinuxSwapfileBackend.requirePath context.path = .ok ()
    rw [hpath]
    unfold LinuxSwapfileBackend.requirePath
    exact if_pos (by decide +kernel)

/-- **Exactly an authorized plan asks anything of the system, and it asks it about its own
swapfile.** -/
theorem planned_calls (context : SwapfileContext) (config : PlanningConfig) :
    ((∃ ops, Issued (planSwapfile context config).toSwapfilePlan ops ∧ ops ≠ []) ↔
        Authorized context config) ∧
      EveryCall (planSwapfile context config).toSwapfilePlan
        (SysOp.About (planSwapfile context config).toSwapfilePlan) := by
  refine ⟨?_, fun ops hops => hops.about⟩
  rw [← carried_iff]
  constructor
  · rintro ⟨ops, hops, hne⟩
    by_contra hplan
    exact hne (hops.silent hplan)
  · intro hcarried
    exact ⟨_, issued_exists hcarried, List.cons_ne_nil _ _⟩

end Nemor.Tiering.Swapfile
