import Nemor.Tiering.BootV6.Types

/-!
# Boot validation v6: manifest validation

`PreparedManifest.validate` and the texts that a manifest must reproduce byte for byte. Each
check stops at the first condition that fails, in the order of the source.
-/

namespace Nemor.Tiering.BootV6

open UnixPath

/-! ## §1 Identifiers -/

/-- A digest in hexadecimal. -/
def isSha256 (value : String) : Bool :=
  value.toList.length == 64 && value.toList.all isHexDigit

/-- A commit in hexadecimal. -/
def isCommit (value : String) : Bool :=
  value.toList.length == 40 && value.toList.all isHexDigit

/-- An identity that can stand in a file name and in a kernel parameter. -/
def validId (value : String) : Bool :=
  8 ≤ value.toList.length && value.toList.length ≤ 64 &&
    value.toList.all fun c => ('a' ≤ c && c ≤ 'z') || c.isDigit || c == '-'

/-! ## §2 Topology and zswap -/

/-- The disk has a serial number or a WWN, by which it is known after a boot. -/
def StorageTopologyIdentity.stable (t : StorageTopologyIdentity) : Bool :=
  t.physical.serial.any (fun v => v != "") || t.physical.wwn.any fun v => v != ""

/-- The transport is one of the profile. -/
def StorageTopologyIdentity.transportOk (t : StorageTopologyIdentity) : Bool :=
  match t.profile with
  | .nvmeSsd => t.physical.transport == "nvme"
  | .sataSsd => t.physical.transport == "ata" || t.physical.transport == "sata"
  | _ => false

/-- The topology is one that can be validated. -/
def StorageTopologyIdentity.validate (t : StorageTopologyIdentity) :
    Except BootValidationError Unit := do
  refuseIf
    (t.storageProfileVersion != BootV6.storageProfileVersion
      || !t.profile.bootSupported
      || t.chain.isEmpty
      || t.composite
      || t.ambiguous
      || t.physical.rotational
      || t.physical.capacityBytes == 0
      || t.physical.logicalBlockSize == 0
      || t.physical.physicalBlockSize == 0
      || t.filesystem.uuidOrFsid.toList.all isWhiteSpace
      || t.filesystem.mountPoint != ⟨"/"⟩)
    .topology
  -- the physical device must be recognisable after a reboot
  refuseIf (!t.stable || t.confidence != "high") .topology
  refuseIf (!t.transportOk || t.chain.getLast?.map (·.path) != some t.physical.path) .topology

/-- The parameters that have to be known. -/
def zswapParameters : List String :=
  ["enabled", "compressor", "zpool", "max_pool_percent", "accept_threshold_percent",
    "shrinker_enabled"]

/-- Each of them is there. -/
def ZswapIdentity.validate (z : ZswapIdentity) : Except BootValidationError Unit :=
  refuseIf (zswapParameters.any fun name => (z.parameters.lookup name).isNone) .zswap

/-- The parameters of the experiment, and no others. -/
def validateExperimentalZswap (values : StringMap String) : Except BootValidationError Unit :=
  refuseIf
    (values.any (fun name _ => !zswapParameters.contains name)
      || values.lookup "enabled" != some "Y"
      -- all six parameters and no other
      || values.keys.card != zswapParameters.length)
    .zswap

/-! ## §3 Swaps -/

/-- Some baseline swap is inactive, is the swapfile, or repeats a path. -/
def badBaselineSwap (swapfile : PathBuf) : List PathBuf → List SwapIdentity → Bool
  | _, [] => false
  | seen, swap :: rest =>
    !swap.active || swap.path == swapfile || seen.any (· == swap.path)
      || badBaselineSwap swapfile (swap.path :: seen) rest

/-- The swap areas of the baseline are active, known and not the new one. -/
def validateBaselineSwaps (p : PreparedManifestPayload) : Except BootValidationError Unit :=
  refuseIf
    (p.baselineSwaps.isEmpty
      || badBaselineSwap p.swapfile.path [] p.baselineSwaps
      -- the protected zram device is one of them
      || !p.baselineSwaps.any fun swap =>
          swap.path == p.protectedZram.device
            && swap.priority == p.protectedZram.priority
            && swap.sizeBytes == p.protectedZram.disksizeBytes)
    (.identity "baseline swaps")

/-- An inactive file below the transaction directory, between 64 MiB and 2 GiB. -/
def validateSwap (p : PreparedManifestPayload) : Except BootValidationError Unit :=
  refuseIf
    (p.swapfile.path != p.transactionRoot.join "backing.swap"
      || p.swapfile.active
      || p.swapfile.uuid.isSome
      || p.swapfile.kind != "file"
      || p.swapfile.sizeBytes < 64 * 1024 * 1024
      || p.swapfile.sizeBytes > 2 * 1024 * 1024 * 1024
      -- the swapfile is used before zram, or the experiment measures nothing
      || p.swapfile.priority ≤ p.protectedZram.priority
      || p.swapfile.priority > 32767
      || p.protectedZram.device != ⟨"/dev/zram0"⟩
      || !p.protectedZram.active)
    .swap

/-! ## §4 Rendered texts -/

/-- The text of the boot entry. Its title is copied as it is. -/
def renderType1Entry (entry : BootEntryIdentity) : String :=
  "title " ++ entry.title ++ "\n"
    ++ "linux " ++ entry.linuxOrEfi.text ++ "\n"
    ++ String.join (entry.initrds.map fun initrd => "initrd " ++ initrd.text ++ "\n")
    ++ "options " ++ entry.options ++ "\n"

/-- The text of the validation unit. It runs only under the marker on the kernel command line. -/
def renderValidationUnit (p : PreparedManifestPayload) (validator : PathBuf) : String :=
  "[Unit]\nDescription=Nemor Phase 6 validation-only activation\nConditionKernelCommandLine="
    ++ p.validationMarker
    ++ "\nAfter=systemd-udev-settle.service dev-zram0.swap\n\n[Service]\nType=oneshot\nExecStart="
    ++ validator.text
    ++ " experimental-activate --validation-id "
    ++ p.validationId
    ++ "\nRemainAfterExit=yes\nNoNewPrivileges=yes\nProtectSystem=strict\nProtectHome=yes\n"
    ++ "PrivateTmp=yes\nReadWritePaths="
    ++ p.transactionRoot.text
    ++ " /sys/module/zswap/parameters\n\n[Install]\nWantedBy=multi-user.target\n"

/-! ## §5 The boot contract -/

/-- A supported boot loader, and an entry of its own for the current kernel. -/
def validateBootEntry (p : PreparedManifestPayload) : Except BootValidationError Unit := do
  refuseIf
    (p.boot.bootloader != "systemd-boot-type1"
      || p.boot.secureBoot != "disabled"
      || p.boot.currentEntry.id == ""
      || p.boot.defaultEntry.id == ""
      || p.boot.priorOneShot.isSome
      || !isSha256 p.boot.currentEntry.sha256
      || !isSha256 p.boot.defaultEntry.sha256
      || p.experimentalEntry.id == p.boot.currentEntry.id
      || p.experimentalEntry.id == p.boot.defaultEntry.id
      || p.experimentalEntry.path !=
          entryRoot.join ("nemor-phase6-" ++ p.validationId ++ ".conf"))
    .entry
  -- the experimental entry boots the current kernel with more options
  refuseIf
    (p.experimentalEntry.linuxOrEfi != p.boot.currentEntry.linuxOrEfi
      || p.experimentalEntry.initrds != p.boot.currentEntry.initrds
      || !contains p.experimentalEntry.options p.validationMarker
      || !contains p.experimentalEntry.options "zswap.enabled=1"
      || !contains p.experimentalEntry.options
          ("systemd.wants=nemor-phase6-" ++ p.validationId ++ ".service"))
    .entry
  -- everything it loads has a frozen digest
  let refs := p.boot.referencedFiles.map (·.path)
  refuseIf
    (!refs.any (· == p.experimentalEntry.linuxOrEfi)
      || p.experimentalEntry.initrds.any (fun v => !refs.any (· == v))
      || p.boot.referencedFiles.any fun r => !isSha256 r.sha256)
    .entry

/-- The first artifact of a kind. -/
def findArtifact (p : PreparedManifestPayload) (kind : OwnedArtifactKind)
    (e : BootValidationError) : Except BootValidationError OwnedArtifact :=
  match p.ownedArtifacts.find? fun a => a.kind == kind with
  | some a => .ok a
  | none => .error e

/-- The files to be created are the rendered texts. -/
def validateBootArtifacts (p : PreparedManifestPayload) : Except BootValidationError Unit := do
  let entryArtifact ← findArtifact p .type1Entry .entry
  refuseIf (entryArtifact.content != utf8 (renderType1Entry p.experimentalEntry)) .entry
  refuseIf (entryArtifact.sha256 != p.experimentalEntry.sha256) .entry
  let unitArtifact ← findArtifact p .validationUnit .entry
  let helper ← findArtifact p .helperBinary (.identity "staged helper artifact")
  -- the helper is copied from the running binary, so it carries no content
  refuseIf
    (helper.path != p.stagedHelper.destination
      || helper.sha256 != p.stagedHelper.source.sha256
      || helper.mode != 0o755
      || !helper.content.isEmpty)
    (.identity "staged helper artifact")
  refuseIf
    (unitArtifact.content != utf8 (renderValidationUnit p p.stagedHelper.destination))
    .entry

/-- The entry, and then its files. -/
def validateBoot (p : PreparedManifestPayload) : Except BootValidationError Unit := do
  validateBootEntry p
  validateBootArtifacts p

/-! ## §6 Owned artifacts -/

/-- A file is created only where its kind belongs. -/
def validateOwnedPath (p : PreparedManifestPayload) (a : OwnedArtifact) :
    Except BootValidationError Unit := do
  refuseIf
    (!a.path.isAbsolute
      || a.path.components.any (fun c => c == .parentDir || c == .curDir)
      || a.path.startsWith ⟨"/usr/lib"⟩)
    .path
  -- one path for each kind
  let allowed :=
    match a.kind with
    | .type1Entry => a.path == p.experimentalEntry.path
    | .validationUnit =>
      a.path == unitRoot.join ("nemor-phase6-" ++ p.validationId ++ ".service")
    | .helperBinary => a.path == p.transactionRoot.join "bin/nemor-tiering-boot-validation"
  refuseIf (!allowed) .path

/-- Each artifact in turn, with the paths of those before it. -/
def validateArtifacts (c : Codec) (p : PreparedManifestPayload) :
    List PathBuf → List OwnedArtifact → Except BootValidationError Unit
  | _, [] => .ok ()
  | seen, a :: rest => do
    validateOwnedPath p a
    refuseIf
      (seen.any (· == a.path)
        || a.ownerUid != 0
        || a.ownerGid != 0
        || !(a.mode == 0o600 || a.mode == 0o700 || a.mode == 0o644 || a.mode == 0o755)
        -- the helper has no content to hash
        || (a.kind != .helperBinary && c.sha256 a.content != a.sha256))
      (.identity "artifact")
    validateArtifacts c p (a.path :: seen) rest

/-! ## §7 The manifest -/

/-- The schema, the versions, the identity and the digests. -/
def validateSource (c : Codec) (m : PreparedManifest) : Except BootValidationError Unit := do
  let p := m.payload
  refuseIf
    (m.schema != preparedManifestSchema
      || p.contractVersion != contractVersion
      || p.ruleVersion != ruleVersion)
    .version
  refuseIf (c.canonicalJsonSha256 (.manifestPayload p) != m.payloadSha256) .payload
  refuseIf (!validId p.validationId || !isCommit p.sourceCommit) (.identity "source")
  refuseIf
    (p.validationMarker != "nemor.phase6_validation=" ++ p.validationId
      || !p.configPath.isAbsolute)
    (.identity "bounded inputs")
  refuseIf (!isSha256 p.sourceStateSha256) (.identity "hash")
  refuseIf (!isSha256 p.configSha256) (.identity "hash")
  refuseIf (!isSha256 p.materialEnvironmentSha256) (.identity "hash")

/-- Executables of the prepared commit, the validator among them. -/
def validateBinaries (p : PreparedManifestPayload) : Except BootValidationError Unit := do
  refuseIf
    (p.binaries.keys.card == 0
      || p.binaries.any fun _ b =>
          !b.path.isAbsolute || !isSha256 b.sha256 || b.embeddedCommit != p.sourceCommit)
    (.identity "binary")
  -- the staged helper is the validator itself, out of reach of other users
  match p.binaries.lookup "nemor-tiering-boot-validation" with
  | none => .error (.identity "validator binary")
  | some validator =>
    refuseIf
      (p.stagedHelper.source != validator
        || p.stagedHelper.destination !=
            p.transactionRoot.join "bin/nemor-tiering-boot-validation"
        || p.stagedHelper.destinationMode != 0o755
        || p.stagedHelper.destinationUid != 0
        || p.stagedHelper.destinationGid != 0
        || !p.stagedHelper.requireSingleLink
        || p.stagedHelper.sourceLinkCount != 1
        || p.stagedHelper.sourceMode &&& 0o022 != 0
        || p.stagedHelper.sourceDevice == 0
        || p.stagedHelper.sourceInode == 0)
      (.identity "staged helper")

/-- Apart from `enabled`, the experiment runs with the zswap parameters of the baseline. -/
def validateZswapUnchanged (p : PreparedManifestPayload) : Except BootValidationError Unit :=
  refuseIf
    ((zswapParameters.drop 1).any fun name =>
      p.experimentalZswap.lookup name != p.baselineZswap.parameters.lookup name)
    .zswap

/-- The way back is the current entry, and nothing is activated for production. -/
def validateRecovery (p : PreparedManifestPayload) : Except BootValidationError Unit :=
  refuseIf
    (p.productionActivation
      || p.recoveryEntry != p.boot.currentEntry.id
      || p.transactionRoot != BootV6.transactionRoot.join p.validationId)
    (.identity "recovery")

/-- The workload is the known one, within its bounds. -/
def validateWorkload (w : WorkloadContract) : Except BootValidationError Unit :=
  refuseIf
    (w.protocol != workloadProtocol
      || w.bytes == 0
      || w.bytes > 256 * 1024 * 1024
      || w.iterations == 0
      || w.timeoutSeconds == 0
      || w.timeoutSeconds > 600
      || w.maximumWriteBytes == 0)
    (.identity "workload")

namespace PreparedManifest

/-- A payload with its digest. -/
def sealed (c : Codec) (payload : PreparedManifestPayload) : PreparedManifest where
  schema := preparedManifestSchema
  payload := payload
  payloadSha256 := c.canonicalJsonSha256 (.manifestPayload payload)

/-- `PreparedManifest::validate`. -/
def validate (c : Codec) (m : PreparedManifest) : Except BootValidationError Unit := do
  let p := m.payload
  validateSource c m
  validateBinaries p
  p.topology.validate
  p.baselineZswap.validate
  validateBaselineSwaps p
  validateExperimentalZswap p.experimentalZswap
  validateZswapUnchanged p
  validateBoot p
  validateSwap p
  validateRecovery p
  validateArtifacts c p [] p.ownedArtifacts
  validateWorkload p.workload

/-- A sequence that succeeds succeeds in each part. -/
theorem bind_ok {x y : Except BootValidationError Unit} (h : (x >>= fun _ => y) = .ok ()) :
    x = .ok () ∧ y = .ok () := by
  cases x with
  | error e => cases h
  | ok u => exact ⟨rfl, h⟩

/-- What later phases use of a valid manifest. -/
theorem checks_of_validate {c : Codec} {m : PreparedManifest} (h : m.validate c = .ok ()) :
    validateBoot m.payload = .ok () ∧ validateRecovery m.payload = .ok () ∧
      validateArtifacts c m.payload [] m.payload.ownedArtifacts = .ok () ∧
      validateWorkload m.payload.workload = .ok () := by
  have h := (bind_ok h).2
  have h := (bind_ok h).2
  have h := (bind_ok h).2
  have h := (bind_ok h).2
  have h := (bind_ok h).2
  have h := (bind_ok h).2
  have h := (bind_ok h).2
  -- the checks come in the order of `validate`
  have hboot := (bind_ok h).1
  have h := (bind_ok h).2
  have h := (bind_ok h).2
  have hrecovery := (bind_ok h).1
  have h := (bind_ok h).2
  exact ⟨hboot, hrecovery, bind_ok h⟩

/-- The recovery entry of a valid manifest is the entry of the current boot. -/
theorem recoveryEntry_of_validate {c : Codec} {m : PreparedManifest} (h : m.validate c = .ok ()) :
    m.payload.recoveryEntry = m.payload.boot.currentEntry.id := by
  have hrecovery := refuseIf_ok (checks_of_validate h).2.1
  simp only [Bool.or_eq_false_iff, bne_eq_false_iff_eq] at hrecovery
  exact hrecovery.1.2

theorem experimental_ne_current_of_validate {c : Codec} {m : PreparedManifest}
    (h : m.validate c = .ok ()) :
    m.payload.experimentalEntry.id ≠ m.payload.boot.currentEntry.id := by
  have hentry := refuseIf_ok (bind_ok (bind_ok (checks_of_validate h).1).1).1
  simp only [Bool.or_eq_false_iff, beq_eq_false_iff_ne] at hentry
  exact hentry.1.1.2

theorem workload_nonempty_of_validate {c : Codec} {m : PreparedManifest}
    (h : m.validate c = .ok ()) : m.payload.workload.bytes ≠ 0 := by
  have hworkload := refuseIf_ok (checks_of_validate h).2.2.2
  simp only [Bool.or_eq_false_iff, beq_eq_false_iff_ne] at hworkload
  exact hworkload.1.1.1.1.1.2

theorem marked_of_validate {c : Codec} {m : PreparedManifest} (h : m.validate c = .ok ()) :
    contains m.payload.experimentalEntry.options m.payload.validationMarker = true := by
  have hentry := (bind_ok (bind_ok (checks_of_validate h).1).1).2
  have hoptions := refuseIf_ok (bind_ok hentry).1
  simp only [Bool.or_eq_false_iff, Bool.not_eq_false'] at hoptions
  exact hoptions.1.1.2

/-- No two artifacts share a path, nor is one at a path seen before. -/
theorem distinct_of_validateArtifacts {c : Codec} {p : PreparedManifestPayload}
    {artifacts : List OwnedArtifact} {seen : List PathBuf}
    (h : validateArtifacts c p seen artifacts = .ok ()) :
    (∀ a ∈ artifacts, ∀ path ∈ seen, path.components ≠ a.path.components) ∧
      (artifacts.map fun a => a.path.components).Nodup := by
  induction artifacts generalizing seen with
  | nil => simp
  | cons a rest ih =>
    have h := (bind_ok h).2
    have hfresh := refuseIf_ok (bind_ok h).1
    simp only [Bool.or_eq_false_iff, List.any_eq_false] at hfresh
    -- paths are compared component by component, in the source by `PartialEq` of `PathBuf`
    have hseen : ∀ path ∈ seen, path.components ≠ a.path.components := by
      intro path hpath heq
      exact hfresh.1.1.1.1 path hpath (PathBuf.beq_iff.2 heq)
    obtain ⟨hrest, hnodup⟩ := ih (bind_ok h).2
    constructor
    · intro b hb path hpath
      rcases List.mem_cons.1 hb with rfl | hb
      · exact hseen path hpath
      · exact hrest b hb path (List.mem_cons_of_mem _ hpath)
    · simp only [List.map_cons, List.nodup_cons, List.mem_map, not_exists, not_and]
      refine ⟨?_, hnodup⟩
      intro b hb heq
      exact hrest b hb a.path (by simp) heq.symm

theorem distinct_of_validate {c : Codec} {m : PreparedManifest} (h : m.validate c = .ok ()) :
    (m.payload.ownedArtifacts.map fun a => a.path.components).Nodup :=
  (distinct_of_validateArtifacts (checks_of_validate h).2.2.1).2

end PreparedManifest

end Nemor.Tiering.BootV6
