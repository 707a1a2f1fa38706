import Nemor.Tiering.BootV6.Discipline
import Nemor.Tiering.BootV6.HealthyHost

/-!
# Boot validation v6: the lifecycle does not complete

The first phase stores the evidence of the baseline under one name and the last phase asks
for it under another. No function ever stores evidence under the name that is asked for, so
no backend lets the lifecycle end well; on a host without faults everything else succeeds
and the transaction stops in the stage of cleaning, with its files already removed.
-/

namespace Nemor.Tiering.BootV6

open Effectful UnixPath

/-! ## §1 The lifecycle -/

/-- The phases from the transaction on. The activation enters the given stages. -/
def lifecyclePhases (c : Codec) (m : PreparedManifest) (stages : List TransactionStage) :
    Api DurableTransaction := do
  applyExactTransaction c m
  selectExactOneShot c m
  activate c stages
  let _ ← collectAndValidatePostBoot c m
  selectBaselineRollback c m
  verifyThenCleanup c m
  Act.current

/-- The commands of a validation, one after the other. -/
def lifecycle (c : Codec) (m : PreparedManifest) (preflight : PreflightObservation)
    (bootId : String) (stages : List TransactionStage) :
    Act backend Unit BootValidationError DurableTransaction := do
  let tx ← initializeAndMeasureBaseline c m preflight bootId
  Act.locally tx (lifecyclePhases c m stages)

/-- The result of a lifecycle and the state it leaves behind. -/
def lifecycleOn {σ : Type} (host : (op : Op) → σ → op.Reply × σ) (s : σ) (c : Codec)
    (m : PreparedManifest) (preflight : PreflightObservation) (bootId : String)
    (stages : List TransactionStage) : Except BootValidationError DurableTransaction × σ :=
  let out := (lifecycle c m preflight bootId stages ()).exec host s
  (out.1.1, out.2)

/-- Every phase returns `Ok` and the transaction is restored. The last call of the last phase
    seals the archive, and its failure would be returned. -/
def Completes {σ : Type} (host : (op : Op) → σ → op.Reply × σ) (s : σ) (c : Codec)
    (m : PreparedManifest) (preflight : PreflightObservation) (bootId : String)
    (stages : List TransactionStage) : Prop :=
  ∃ tx, (lifecycleOn host s c m preflight bootId stages).1 = .ok tx ∧
    tx.payload.stage = .restored

/-! ## §2 The name that nobody writes -/

section Unwritten

variable {c : Codec} {m : PreparedManifest} {σ : Type}

/-- The evidence that the last phase asks for is not there. -/
def Unwritten (tx : DurableTransaction) (_ : σ) : Prop :=
  tx.payload.evidenceHashes.lookup "zram-baseline-evidence-v2.json" = none

theorem unwritten_bookkeeping (R : Env backend DurableTransaction σ) :
    Bookkeeping c R Unwritten where
  edit tx tx' s _ _ he h := by
    simp only [Unwritten, he]
    exact h
  note tx tx' s name digest hn _ _ he h := by
    have hne : "zram-baseline-evidence-v2.json" ≠ name := by
      rintro rfl
      exact absurd hn (by decide)
    simp only [Unwritten, he, Finmap.lookup_insert_of_ne _ hne]
    exact h
  store _ _ _ _ h _ := h
  plain _ _ _ _ _ _ h _ := h

theorem unwritten_respects (R : Env backend DurableTransaction σ) :
    Respects c m R Unwritten where
  toBookkeeping := unwritten_bookkeeping R
  announced _ _ _ _ _ _ _ _ _ h _ _ := h

/-- Without that evidence the function stops before it touches the transaction. -/
theorem sealAuthorities_unwritten {tx : DurableTransaction} {s : σ} (h : Unwritten tx s) :
    sealAuthorities c m tx = .pure (.error (.readback "baseline raw evidence"), tx) := by
  have hnone : evidenceHash tx "zram-baseline-evidence-v2.json" (.readback "baseline raw evidence") =
      .error (.readback "baseline raw evidence") := by
    simp only [Unwritten] at h
    simp [evidenceHash, h]
  show ((Act.ofExcept (evidenceHash tx _ _) : Api String) tx).bind _ = _
  rw [hnone]
  rfl

theorem sealAuthorities_fails {R : Env backend DurableTransaction σ}
    {K : DurableTransaction → σ → Prop} (hK : ∀ tx s, K tx s → Unwritten tx s) :
    Act.Leads R K (fun _ _ _ => False) (sealAuthorities c m) := by
  intro tx s h
  simp only [Act.wp, sealAuthorities_unwritten (hK tx s h)]
  exact ⟨h, fun _ he => by cases he⟩

theorem verifyThenCleanup_fails (R : Env backend DurableTransaction σ) :
    Act.Leads R Unwritten (fun _ _ _ => False) (verifyThenCleanup c m) := by
  have h : Respects c m R Unwritten := unwritten_respects R
  apply Act.leads_after (enterBaselineBoot_keeps h.toBookkeeping)
  intro _
  apply Act.leads_bind (proveBaseline_leads h.toBookkeeping)
  intro _
  apply Act.leads_after (removeOwned_keeps h)
  intro _
  exact sealAuthorities_fails fun _ _ h => h.1

theorem lifecyclePhases_fails (R : Env backend DurableTransaction σ)
    (stages : List TransactionStage) (hm : m.validate c = .ok ()) :
    Act.Leads R Unwritten (fun _ _ _ => False) (lifecyclePhases c m stages) := by
  have h : Respects c m R Unwritten := unwritten_respects R
  apply Act.leads_after (applyExactTransaction_keeps h fun _ _ _ _ _ _ hK _ => hK)
  intro _
  apply Act.leads_after (selectExactOneShot_keeps h)
  intro _
  apply Act.leads_after (activate_keeps h.toBookkeeping stages)
  intro _
  apply Act.leads_after (collectAndValidatePostBoot_keeps h.toBookkeeping)
  intro _
  apply Act.leads_after (selectBaselineRollback_keeps h (recoveryOneShot_keeps h hm))
  intro _
  apply Act.leads_bind (verifyThenCleanup_fails R)
  intro _ tx s h
  exact h.2.elim

/-- A transaction comes out of the first phase only for a valid manifest, and without the
    evidence in question. -/
theorem initialize_unwritten {τ : Type} (R : Env backend τ σ) (preflight : PreflightObservation)
    (bootId : String) (t : τ) (s : σ) :
    Act.wp R (fun _ _ => True) (initializeAndMeasureBaseline c m preflight bootId)
      (fun r _ s => ∀ tx, r = .ok tx → m.validate c = .ok () ∧ Unwritten tx s) t s := by
  apply Act.wp_bind.2
  apply Act.wp_ofExcept.2
  cases hpre : validatePreflight c m preflight true with
  | error e => exact fun _ he => by cases he
  | ok _ =>
    -- the preflight has checked the manifest, so the transaction is built
    have hm : m.validate c = .ok () := (PreparedManifest.bind_ok hpre).1
    apply Act.wp_bind.2
    apply Act.wp_ofExcept.2
    rw [DurableTransaction.new_ok hm]
    apply Act.wp_bind.2
    apply wp_insist.2
    refine ⟨trivial, fun created s₁ _ => ?_⟩
    cases created with
    | error e => exact fun _ he => by cases he
    | ok _ =>
      apply Act.wp_bind.2
      apply wp_insist.2
      refine ⟨trivial, fun copied s₂ _ => ?_⟩
      cases copied with
      | error e => exact fun _ he => by cases he
      | ok _ =>
        apply Act.wp_locally.2
        have hleads := measureBaseline_leads (unwritten_respects (c := c) (m := m) fun _ => R t)
          preflight (DurableTransaction.initial c m bootId) s₂ rfl
        apply Act.wp_mono (Act.wp_weaken hleads fun _ _ _ => trivial)
        intro r tx s h tx' hr
        exact ⟨hm, h.2 tx' hr⟩

theorem lifecycle_fails (R : Env backend Unit σ) (preflight : PreflightObservation)
    (bootId : String) (stages : List TransactionStage) (s : σ) :
    Act.wp R (fun _ _ => True) (lifecycle c m preflight bootId stages)
      (fun r _ _ => ∃ e, r = .error e) () s := by
  apply Act.wp_bind.2
  apply Act.wp_mono (initialize_unwritten R preflight bootId () s)
  intro r _ s₁ h
  cases r with
  | error e => exact ⟨e, rfl⟩
  | ok tx =>
    obtain ⟨hm, htx⟩ := h tx rfl
    apply Act.wp_locally.2
    have hfails := lifecyclePhases_fails (fun _ => R ()) stages hm tx s₁ htx
    apply Act.wp_mono (Act.wp_weaken hfails fun _ _ _ => trivial)
    intro r t s₂ hr
    cases r with
    | error e => exact ⟨e, rfl⟩
    | ok a => exact (hr.2 a rfl).elim

end Unwritten

/-- No manifest, no backend and no way through the activation completes a lifecycle. -/
theorem lifecycle_never_completes {σ : Type} (host : (op : Op) → σ → op.Reply × σ) (s : σ)
    (c : Codec) (m : PreparedManifest) (preflight : PreflightObservation) (bootId : String)
    (stages : List TransactionStage) : ¬ Completes host s c m preflight bootId stages := by
  rintro ⟨tx, hok, -⟩
  obtain ⟨e, he⟩ := Act.wp_exec (lifecycle_fails (Env.ofHandler host) preflight bootId stages s)
  simp only [lifecycleOn] at hok
  rw [he] at hok
  cases hok

/-! ## §3 On a host without faults -/

section Healthy

variable {c : Codec} {m : PreparedManifest} {preflight : PreflightObservation} {boots : Boots}

theorem lifecyclePhases_healthy {p : DurableTransactionPayload} {host : Host}
    (h : Ready c m preflight boots) (hp : Recorded c m boots .baselineMeasured p)
    (hhelper : host.holds m.payload.stagedHelper.destination = true)
    (hmeasured : (p.evidenceHashes.lookup "zram-baseline-evidence-v4.json").isSome = true) :
    Runs c m boots (lifecyclePhases c m activationStages)
      (fun r _ host' => r = .error (.readback "baseline raw evidence") ∧
        Gone m.payload.ownedArtifacts host' ∧ host'.swapfile = false) p host := by
  apply runs_then (applyExactTransaction_healthy h hp hhelper hmeasured)
  intro _ p host hp hhelper
  apply runs_then (selectExactOneShot_healthy h hp hhelper)
  intro _ p host hp hhelper
  apply runs_then (activate_healthy hp hhelper)
  intro _ p host hp hhelper
  apply runs_then (collectAndValidatePostBoot_healthy h hp hhelper)
  intro _ p host hp hhelper
  apply runs_then (selectBaselineRollback_healthy hp hhelper)
  intro _ p host hp _
  apply Act.wp_bind.2
  apply Act.wp_mono (verifyThenCleanup_healthy h hp)
  rintro r t host ⟨rfl, hgone, hswap⟩
  exact ⟨rfl, hgone, hswap⟩

/-- The whole lifecycle on the host: it ends with the missing evidence, and what it had put
    in place is gone. -/
theorem lifecycle_healthy (h : Ready c m preflight boots) :
    Act.wp (Env.ofHandler (healthy c m boots)) (fun _ _ => True)
      (lifecycle c m preflight boots.first activationStages)
      (fun r _ host => r = .error (.readback "baseline raw evidence") ∧
        Gone m.payload.ownedArtifacts host ∧ host.swapfile = false) () Host.fresh := by
  apply Act.wp_bind.2
  apply Act.wp_bind.2
  apply Act.wp_ofExcept.2
  rw [h.preflight]
  apply Act.wp_bind.2
  apply Act.wp_ofExcept.2
  rw [DurableTransaction.new_ok h.manifest]
  apply Act.wp_bind.2
  apply wp_insist.2
  refine ⟨trivial, fun created host hr => ?_⟩
  obtain ⟨rfl, rfl⟩ := Prod.mk.inj hr
  apply Act.wp_bind.2
  apply wp_insist.2
  refine ⟨trivial, fun copied host hr => ?_⟩
  obtain ⟨rfl, rfl⟩ := Prod.mk.inj hr
  apply Act.wp_locally.2
  apply Act.wp_mono (measureBaseline_healthy h rfl rfl rfl rfl)
  rintro r t host ⟨rfl, hhelper, p, rfl, hp, hmeasured⟩
  apply Act.wp_locally.2
  exact lifecyclePhases_healthy h hp hhelper hmeasured

end Healthy

/-! ## §4 A manifest -/

/-- A digit many times over. -/
def digits (digit : Char) (count : ℕ) : String := String.ofList (List.replicate count digit)

/-- The identity of the validation below. -/
def sampleId : String := "phase6-sata-static-1"

/-- Its directory. -/
def sampleRoot : PathBuf := transactionRoot.join sampleId

/-- The entry that the host boots. -/
def currentEntry : BootEntryIdentity where
  id := "linux.conf"
  path := ⟨"/boot/loader/entries/linux.conf"⟩
  sha256 := digits 'a' 64
  title := "Linux"
  linuxOrEfi := ⟨"/vmlinuz-linux"⟩
  initrds := [⟨"/initramfs-linux.img"⟩]
  options := "root=UUID=x quiet"

/-- The entry of the experiment. -/
def experimentalEntry : BootEntryIdentity where
  id := "nemor-phase6-" ++ sampleId ++ ".conf"
  path := entryRoot.join ("nemor-phase6-" ++ sampleId ++ ".conf")
  sha256 := digits 'b' 64
  title := "Nemor validation"
  linuxOrEfi := currentEntry.linuxOrEfi
  initrds := currentEntry.initrds
  options := "root=UUID=x quiet nemor.phase6_validation=" ++ sampleId
    ++ " zswap.enabled=1 systemd.wants=nemor-phase6-" ++ sampleId ++ ".service"

/-- The executable of the validator. -/
def validatorBinary : BinaryIdentity where
  path := ⟨"/opt/nemor-validator"⟩
  sha256 := digits '2' 64
  embeddedCommit := digits 'a' 40

/-- Settings of zswap, on or off. -/
def zswapSettings (enabled : String) : StringMap String :=
  ((((((∅ : StringMap String).insert "enabled" enabled).insert "compressor" "zstd").insert
    "zpool" "zsmalloc").insert "max_pool_percent" "20").insert "accept_threshold_percent" "90").insert
    "shrinker_enabled" "N"

/-- The payload before the artifacts are rendered. -/
def samplePlan : PreparedManifestPayload where
  contractVersion := BootV6.contractVersion
  ruleVersion := BootV6.ruleVersion
  validationId := sampleId
  preparedUid := 1000
  preparedGid := 1000
  sourceCommit := digits 'a' 40
  sourceStateSha256 := digits '1' 64
  binaries := Finmap.singleton "nemor-tiering-boot-validation" validatorBinary
  configPath := ⟨"/etc/nemor.toml"⟩
  configSha256 := digits '3' 64
  materialEnvironmentSha256 := digits '4' 64
  topology :=
    { storageProfileVersion := BootV6.storageProfileVersion
      profile := .sataSsd
      chain :=
        [ { path := ⟨"/dev/sda2"⟩, kind := "part", major := 8, minor := 2,
            parent := some ⟨"/dev/sda"⟩ },
          { path := ⟨"/dev/sda"⟩, kind := "disk", major := 8, minor := 0, parent := none } ]
      physical :=
        { path := ⟨"/dev/sda"⟩
          major := 8
          minor := 0
          transport := "ata"
          rotational := false
          model := "Samsung"
          serial := some "serial"
          wwn := none
          capacityBytes := 1000000000
          logicalBlockSize := 512
          physicalBlockSize := 4096 }
      filesystem :=
        { filesystem := "btrfs"
          uuidOrFsid := "fsid"
          mountSource := ⟨"/dev/sda2"⟩
          mountPoint := ⟨"/"⟩
          mountId := 42
          deviceMajor := 8
          deviceMinor := 2 }
      composite := false
      ambiguous := false
      confidence := "high" }
  baselineSwaps :=
    [ { path := ⟨"/dev/zram0"⟩
        kind := "partition"
        sizeBytes := 8 * 1024 * 1024 * 1024
        priority := 100
        uuid := none
        active := true } ]
  protectedZram :=
    { device := ⟨"/dev/zram0"⟩
      provider := "systemd-zram-generator"
      active := true
      priority := 100
      disksizeBytes := 8 * 1024 * 1024 * 1024
      compressor := "zstd"
      memoryLimitBytes := 0
      unit := "dev-zram0.swap" }
  baselineZswap := { parameters := zswapSettings "N" }
  experimentalZswap := zswapSettings "Y"
  boot :=
    { bootloader := "systemd-boot-type1"
      bootloaderVersion := "systemd 261"
      currentEntry := currentEntry
      defaultEntry := currentEntry
      bootOrder := ["0001"]
      priorOneShot := none
      espMount := ⟨"/boot"⟩
      espDevice := "/dev/sda1"
      espFilesystem := "vfat"
      espUuid := "ESP"
      espMountId := 7
      espDeviceMajor := 8
      espDeviceMinor := 1
      secureBoot := "disabled"
      kernelRelease := "linux"
      referencedFiles :=
        [ { path := ⟨"/vmlinuz-linux"⟩, sha256 := digits '5' 64 },
          { path := ⟨"/initramfs-linux.img"⟩, sha256 := digits '6' 64 } ]
      currentCommandLine := currentEntry.options }
  experimentalEntry := experimentalEntry
  validationMarker := "nemor.phase6_validation=" ++ sampleId
  swapfile :=
    { path := sampleRoot.join "backing.swap"
      kind := "file"
      sizeBytes := 64 * 1024 * 1024
      priority := 110
      uuid := none
      active := false }
  ownedArtifacts := []
  transactionRoot := sampleRoot
  workload :=
    { protocol := workloadProtocol
      seed := 42
      bytes := 16 * 1024 * 1024
      iterations := 2
      timeoutSeconds := 60
      maximumWriteBytes := 64 * 1024 * 1024 }
  stagedHelper :=
    { source := validatorBinary
      destination := sampleRoot.join "bin/nemor-tiering-boot-validation"
      destinationMode := 0o755
      destinationUid := 0
      destinationGid := 0
      requireSingleLink := true
      sourceUid := 1000
      sourceGid := 1000
      sourceMode := 0o755
      sourceLinkCount := 1
      sourceDevice := 8
      sourceInode := 42 }
  recoveryEntry := "linux.conf"
  productionActivation := false

/-- The file of the entry, without its digest. -/
def entryFile : OwnedArtifact where
  kind := .type1Entry
  path := experimentalEntry.path
  sha256 := ""
  mode := 0o600
  ownerUid := 0
  ownerGid := 0
  content := utf8 (renderType1Entry samplePlan.experimentalEntry)

/-- The file of the unit, without its digest. -/
def unitFile : OwnedArtifact where
  kind := .validationUnit
  path := unitRoot.join ("nemor-phase6-" ++ sampleId ++ ".service")
  sha256 := ""
  mode := 0o644
  ownerUid := 0
  ownerGid := 0
  content := utf8 (renderValidationUnit samplePlan samplePlan.stagedHelper.destination)

/-- The staged executable. -/
def helperFile : OwnedArtifact where
  kind := .helperBinary
  path := samplePlan.stagedHelper.destination
  sha256 := samplePlan.stagedHelper.source.sha256
  mode := 0o755
  ownerUid := 0
  ownerGid := 0
  content := []

/-- The file with the digest of its content. -/
def OwnedArtifact.digested (c : Codec) (a : OwnedArtifact) : OwnedArtifact :=
  { a with sha256 := c.sha256 a.content }

/-- The payload with its artifacts, the first of which is the experimental entry. -/
def PreparedManifestPayload.rendered (p : PreparedManifestPayload) (sha256 : String)
    (artifacts : List OwnedArtifact) : PreparedManifestPayload :=
  { p with
    ownedArtifacts := artifacts
    experimentalEntry := { p.experimentalEntry with sha256 := sha256 } }

/-- The payload with another title of its experimental entry. -/
def PreparedManifestPayload.entitled (p : PreparedManifestPayload) (title : String) :
    PreparedManifestPayload :=
  { p with experimentalEntry := { p.experimentalEntry with title := title } }

/-- The file of an entry with this title. -/
def titledFile (title : String) : OwnedArtifact :=
  { entryFile with
    content := utf8 (renderType1Entry (samplePlan.entitled title).experimentalEntry) }

/-- A manifest whose entry has this title. -/
def titledManifest (c : Codec) (title : String) : PreparedManifest :=
  .sealed c ((samplePlan.entitled title).rendered ((titledFile title).digested c).sha256
    [(titledFile title).digested c, unitFile.digested c, helperFile])

/-- The manifest of the plan. -/
def sampleManifest (c : Codec) : PreparedManifest :=
  .sealed c (samplePlan.rendered (entryFile.digested c).sha256
    [entryFile.digested c, unitFile.digested c, helperFile])

/-! ## §5 The manifest is accepted -/

section Accepted

variable {c : Codec} {p : PreparedManifestPayload} {sha256 : String}
  {artifacts : List OwnedArtifact}

/-- The checks that do not look at the artifacts. -/
structure Planned (p : PreparedManifestPayload) : Prop where
  binaries : validateBinaries p = .ok ()
  topology : p.topology.validate = .ok ()
  zswap : p.baselineZswap.validate = .ok ()
  swaps : validateBaselineSwaps p = .ok ()
  experimental : validateExperimentalZswap p.experimentalZswap = .ok ()
  unchanged : validateZswapUnchanged p = .ok ()
  entry : validateBootEntry p = .ok ()
  swapfile : validateSwap p = .ok ()
  recovery : validateRecovery p = .ok ()
  workload : validateWorkload p.workload = .ok ()

theorem Planned.rendered (h : Planned p) : Planned (p.rendered sha256 artifacts) :=
  ⟨h.binaries, h.topology, h.zswap, h.swaps, h.experimental, h.unchanged, h.entry, h.swapfile,
    h.recovery, h.workload⟩

/-- No check looks at the title. -/
theorem Planned.entitled (h : Planned p) (title : String) : Planned (p.entitled title) :=
  ⟨h.binaries, h.topology, h.zswap, h.swaps, h.experimental, h.unchanged, h.entry, h.swapfile,
    h.recovery, h.workload⟩

theorem Planned.validate {m : PreparedManifest} (h : Planned m.payload)
    (hsource : validateSource c m = .ok ()) (hboot : validateBootArtifacts m.payload = .ok ())
    (hartifacts : validateArtifacts c m.payload [] m.payload.ownedArtifacts = .ok ()) :
    m.validate c = .ok () := by
  simp only [PreparedManifest.validate, validateBoot, hsource, h.binaries, h.topology, h.zswap,
    h.swaps, h.experimental, h.unchanged, h.entry, hboot, h.swapfile, h.recovery, hartifacts,
    h.workload, ok_bind]

theorem validateArtifacts_cons {seen : List PathBuf} {a : OwnedArtifact} {rest : List OwnedArtifact}
    (hpath : validateOwnedPath p a = .ok ())
    (hmeta : (seen.any (· == a.path) || a.ownerUid != 0 || a.ownerGid != 0
      || !(a.mode == 0o600 || a.mode == 0o700 || a.mode == 0o644 || a.mode == 0o755)) = false)
    (hcontent : (a.kind != .helperBinary && c.sha256 a.content != a.sha256) = false)
    (hrest : validateArtifacts c p (a.path :: seen) rest = .ok ()) :
    validateArtifacts c p seen (a :: rest) = .ok () := by
  simp only [validateArtifacts, hpath, ok_bind, hmeta, hcontent]
  exact hrest

theorem validateOwnedPath_congr {p p' : PreparedManifestPayload} {a a' : OwnedArtifact}
    (hpath : a.path = a'.path) (hkind : a.kind = a'.kind)
    (hentry : p.experimentalEntry.path = p'.experimentalEntry.path)
    (hid : p.validationId = p'.validationId) (hroot : p.transactionRoot = p'.transactionRoot) :
    validateOwnedPath p a = validateOwnedPath p' a' := by
  unfold validateOwnedPath
  rw [hpath, hkind, hentry, hid, hroot]

theorem renderValidationUnit_congr {p p' : PreparedManifestPayload} (validator : PathBuf)
    (hmarker : p.validationMarker = p'.validationMarker)
    (hid : p.validationId = p'.validationId) (hroot : p.transactionRoot = p'.transactionRoot) :
    renderValidationUnit p validator = renderValidationUnit p' validator := by
  unfold renderValidationUnit
  rw [hmarker, hid, hroot]

theorem renderType1Entry_congr {e e' : BootEntryIdentity} (htitle : e.title = e'.title)
    (hlinux : e.linuxOrEfi = e'.linuxOrEfi) (hinitrds : e.initrds = e'.initrds)
    (hoptions : e.options = e'.options) : renderType1Entry e = renderType1Entry e' := by
  unfold renderType1Entry
  rw [htitle, hlinux, hinitrds, hoptions]

theorem validateBootArtifacts_of {p : PreparedManifestPayload} {entry unit helper : OwnedArtifact}
    (hentry : findArtifact p .type1Entry .entry = .ok entry)
    (hunit : findArtifact p .validationUnit .entry = .ok unit)
    (hhelper : findArtifact p .helperBinary (.identity "staged helper artifact") = .ok helper)
    (hcontent : entry.content = utf8 (renderType1Entry p.experimentalEntry))
    (hsha : entry.sha256 = p.experimentalEntry.sha256)
    (hpath : helper.path = p.stagedHelper.destination)
    (hsource : helper.sha256 = p.stagedHelper.source.sha256)
    (hmode : helper.mode = 0o755) (hempty : helper.content = [])
    (hunitContent : unit.content = utf8 (renderValidationUnit p p.stagedHelper.destination)) :
    validateBootArtifacts p = .ok () := by
  simp only [validateBootArtifacts, hentry, hunit, hhelper, ok_bind, hcontent, hsha, hpath, hsource,
    hmode, hempty, hunitContent, bne_refl]
  rfl

end Accepted

/-- What the options of the experimental entry must name, and the running command line must not. -/
theorem samplePlan_options :
    contains samplePlan.experimentalEntry.options samplePlan.validationMarker = true ∧
    contains samplePlan.experimentalEntry.options "zswap.enabled=1" = true ∧
    contains samplePlan.experimentalEntry.options
      ("systemd.wants=nemor-phase6-" ++ samplePlan.validationId ++ ".service") = true ∧
    contains samplePlan.boot.currentCommandLine samplePlan.validationMarker = false := by
  -- searched character by character: appending the strings first is slow
  simp only [contains, samplePlan, experimentalEntry, currentEntry, sampleId, String.toList_append]
  decide +kernel

theorem samplePlan_planned : Planned samplePlan where
  binaries := by
    have hlookup : samplePlan.binaries.lookup "nemor-tiering-boot-validation" =
        some validatorBinary := Finmap.lookup_singleton_eq
    have hdestination : (samplePlan.stagedHelper.destination !=
        samplePlan.transactionRoot.join "bin/nemor-tiering-boot-validation") = false := bne_refl _
    simp only [validateBinaries, hlookup, hdestination]
    decide +kernel
  topology := by decide +kernel
  zswap := by decide +kernel
  swaps := by decide +kernel
  experimental := by decide +kernel
  unchanged := by decide +kernel
  entry := by
    obtain ⟨hmarker, hzswap, hwants, -⟩ := samplePlan_options
    have hpath : (samplePlan.experimentalEntry.path !=
        entryRoot.join ("nemor-phase6-" ++ samplePlan.validationId ++ ".conf")) = false := bne_refl _
    simp only [validateBootEntry, hmarker, hzswap, hwants, hpath]
    decide +kernel
  swapfile := by decide +kernel
  recovery := by decide +kernel
  workload := by decide +kernel

theorem isSha256_digits {digit : Char} (h : isHexDigit digit = true) :
    isSha256 (digits digit 64) = true := by
  simp [isSha256, digits, h]

theorem titledSource_valid (c : Codec) (title : String) :
    validateSource c (titledManifest c title) = .ok () := by
  have hsource : (!validId sampleId || !isCommit (digits 'a' 40)) = false := by decide
  have hstate : isSha256 (digits '1' 64) = true := isSha256_digits rfl
  have hconfig : isSha256 (digits '3' 64) = true := isSha256_digits rfl
  have henvironment : isSha256 (digits '4' 64) = true := isSha256_digits rfl
  simp only [validateSource, titledManifest, PreparedManifest.sealed,
    PreparedManifestPayload.rendered, PreparedManifestPayload.entitled, samplePlan,
    bne_self_eq_false, hsource, hstate, hconfig, henvironment]
  rfl

theorem titledArtifacts_valid (c : Codec) (title : String) :
    validateArtifacts c (titledManifest c title).payload []
      (titledManifest c title).payload.ownedArtifacts = .ok () := by
  have hentry : validateOwnedPath samplePlan entryFile = .ok () := by decide +kernel
  have hunit : validateOwnedPath samplePlan unitFile = .ok () := by decide +kernel
  have hhelper : validateOwnedPath samplePlan helperFile = .ok () := by
    have hpath : (helperFile.path ==
        samplePlan.transactionRoot.join "bin/nemor-tiering-boot-validation") = true := BEq.rfl
    have hkind : helperFile.kind = .helperBinary := rfl
    simp only [validateOwnedPath, hkind, hpath]
    decide +kernel
  have hfresh : ([entryFile.path].any (· == unitFile.path)) = false := by decide +kernel
  have hfresh' : ([unitFile.path, entryFile.path].any (· == helperFile.path)) = false := by
    decide +kernel
  have htitled : (titledFile title).path = entryFile.path := rfl
  apply validateArtifacts_cons
  · exact (validateOwnedPath_congr rfl rfl rfl rfl rfl).trans hentry
  · rfl
  · simp [OwnedArtifact.digested]
  apply validateArtifacts_cons
  · exact (validateOwnedPath_congr rfl rfl rfl rfl rfl).trans hunit
  · simp only [OwnedArtifact.digested, htitled, hfresh]
    rfl
  · simp [OwnedArtifact.digested]
  apply validateArtifacts_cons
  · exact (validateOwnedPath_congr rfl rfl rfl rfl rfl).trans hhelper
  · simp only [OwnedArtifact.digested, htitled, hfresh']
    rfl
  · rfl
  rfl

theorem titledBoot_valid (c : Codec) (title : String) :
    validateBootArtifacts (titledManifest c title).payload = .ok () := by
  have hentry : renderType1Entry (samplePlan.entitled title).experimentalEntry =
      renderType1Entry (titledManifest c title).payload.experimentalEntry :=
    renderType1Entry_congr rfl rfl rfl rfl
  have hunit : renderValidationUnit samplePlan samplePlan.stagedHelper.destination =
      renderValidationUnit (titledManifest c title).payload samplePlan.stagedHelper.destination :=
    renderValidationUnit_congr _ rfl rfl rfl
  have hentry' : ((titledFile title).digested c).content =
      utf8 (renderType1Entry (titledManifest c title).payload.experimentalEntry) := by
    rw [← hentry, OwnedArtifact.digested, titledFile]
  have hunit' : (unitFile.digested c).content =
      utf8 (renderValidationUnit (titledManifest c title).payload
        samplePlan.stagedHelper.destination) := by
    rw [← hunit, OwnedArtifact.digested, unitFile]
  exact @validateBootArtifacts_of _ ((titledFile title).digested c) (unitFile.digested c) helperFile
    rfl rfl rfl hentry' rfl rfl rfl rfl rfl hunit'

/-- Whatever the title, the manifest is accepted. -/
theorem titledManifest_valid (c : Codec) (title : String) :
    (titledManifest c title).validate c = .ok () :=
  Planned.validate (samplePlan_planned.entitled title).rendered (titledSource_valid c title)
    (titledBoot_valid c title) (titledArtifacts_valid c title)

theorem sampleManifest_valid (c : Codec) : (sampleManifest c).validate c = .ok () :=
  titledManifest_valid c samplePlan.experimentalEntry.title

/-- A preflight that agrees with the plan. -/
def samplePreflight : PreflightObservation where
  schema := preflightSchema
  uid := 0
  gid := 0
  sudoUid := some 1000
  sudoGid := some 1000
  hostIdentitySha256 := digits '4' 64
  sourceMatches := true
  binariesMatch := true
  configMatches := true
  topologyMatches := true
  bootMatches := true
  bootloaderTypeMatches := true
  bootloaderVersionMatches := true
  currentEntrySemanticsMatch := true
  currentEntryHashMatches := true
  currentEntryPathMatches := true
  defaultEntrySemanticsMatch := true
  defaultEntryHashMatches := true
  defaultEntryPathMatches := true
  referencedBootFilesMatch := true
  kernelReleaseMatches := true
  commandLineMatches := true
  espDeviceMatches := true
  espFilesystemMatches := true
  espUuidMatches := true
  espMountMatches := true
  bootOrderMatches := true
  oneShotMatches := true
  zramMatches := true
  zswapMatches := true
  parentsSafe := true
  transactionHierarchySafe := true
  stagedSourceBinaryMatches := true
  validationDestinationsAbsent := true
  espFreeBytes := 2 * 1024 * 1024
  swapFreeBytes := 256 * 1024 * 1024
  packageUpdateAbsent := true
  secureBootCompatible := true
  acPower := none
  staleStateAbsent := true
  validationProcessAbsent := true
  unrelatedMutationAbsent := true
  mutationCount := 0
  ready := true

/-- Three boots that are told apart. -/
def sampleBoots : Boots := ⟨"boot-a", "b", "c"⟩

theorem samplePreflight_valid (c : Codec) :
    validatePreflight c (sampleManifest c) samplePreflight true = .ok () := by
  have hsize : (sampleManifest c).payload.swapfile.sizeBytes = 64 * 1024 * 1024 := rfl
  have hready : derivedPreflightReady (sampleManifest c) samplePreflight = true := by
    simp [derivedPreflightReady, hsize, samplePreflight]
  simp only [validatePreflight, sampleManifest_valid c, hready, ok_bind]
  rfl

theorem sample_ready (c : Codec) (hdigests : ∀ bytes, isSha256 (c.sha256 bytes) = true) :
    Ready c (sampleManifest c) samplePreflight sampleBoots where
  digests := hdigests
  manifest := sampleManifest_valid c
  preflight := samplePreflight_valid c
  experimental := by decide
  last := by decide
  unmarked := by
    obtain ⟨-, -, -, hline⟩ := samplePlan_options
    exact hline

/-- With any digest function the manifest is accepted, the host agrees with it, and the
    lifecycle ends with an error after everything has been removed. -/
def StopsAtCleanup (m : Codec → PreparedManifest) (preflight : PreflightObservation)
    (boots : Boots) : Prop :=
  ∀ c : Codec, (∀ bytes, isSha256 (c.sha256 bytes) = true) →
    Ready c (m c) preflight boots ∧
    (lifecycleOn (healthy c (m c) boots) Host.fresh c (m c) preflight boots.first
      activationStages).1 = .error (.readback "baseline raw evidence") ∧
    ¬ Completes (healthy c (m c) boots) Host.fresh c (m c) preflight boots.first activationStages

/-- The fixture of the unit tests. -/
theorem sample_stops_at_cleanup : StopsAtCleanup sampleManifest samplePreflight sampleBoots := by
  intro c hdigests
  have hready := sample_ready c hdigests
  have herror := (Act.wp_exec (lifecycle_healthy hready)).1
  refine ⟨hready, herror, ?_⟩
  rintro ⟨tx, hok, -⟩
  exact absurd (hok.symm.trans herror) (by simp)

end Nemor.Tiering.BootV6
