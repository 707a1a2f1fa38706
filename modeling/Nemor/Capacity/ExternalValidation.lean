import Nemor.Capacity.CommandProtocol
import Nemor.Lib.Procedure
import Nemor.Lib.UnixPath

/-!
# The validation of an external target

The validation makes a directory, spawns a target that works in it, lets a privileged validator act
on the target, tells the target to stop, waits for it, keeps what the target has left as evidence
and removes the directory. Each step after the spawn can return at once.

The host answers each call in its own way. The answers of one validation are a record, and the
validation is a procedure on what it has in custody: the target and its directory.

- §1: the host
- §2: the validation
- §3: the part after the spawn
- §4: when no target is left behind
-/

namespace Nemor.Capacity.ExternalValidation

open UnixPath Procedure CommandProtocol

/-! ## §1 The host -/

/-- What the validation has to answer for. -/
structure TargetCustody where
  spawned : Bool
  /-- The commands written to the target. -/
  commands : List CapacityExternalTargetCommand
  /-- The state in the progress record that is read before the wait. -/
  progress : Option CapacityExternalTargetState
  waited : Bool
  /-- The wait was entered with a target that had not been told to stop. -/
  waitedUntold : Bool
  /-- The directory of the target is there. -/
  directory : Bool

/-- No target has been started. -/
def freshCustody : TargetCustody where
  spawned := false
  commands := []
  progress := none
  waited := false
  waitedUntold := false
  directory := false

/-- The target is on its way out. -/
def isFinishing (state : CapacityExternalTargetState) : Bool :=
  state == .stopping || state == .stopped

/-- A stop was written, or the target said that it stops or has stopped. -/
def TargetCustody.told (h : TargetCustody) : Bool :=
  h.commands.any (fun command => command.file == .stop) || h.progress.any isFinishing

/-- What is read of a prepared manifest. -/
structure ValidationManifest where
  outputRoot : PathBuf
  targetNonce : String
  targetSha256 : String
  gitHead : String

/-- The identity in the target's descriptor. -/
structure TargetIdentity where
  creatorPid : UInt32
  creatorStartTicks : UInt64
  executableSha256 : String
  embeddedSourceCommit : String
  deriving DecidableEq

/-- A check in the report of the shadow. -/
structure ComponentCheck where
  name : Option String
  passed : Option Bool

/-- What is read of the validator's component report. -/
structure ComponentReport where
  checks : List ComponentCheck
  requiredGatesPassed : Option Bool
  hostUnchanged : Option Bool

/-- The answers of the host to one validation. -/
structure ValidationAnswers where
  manifest : Except String ValidationManifest
  preflightReady : Except String Bool
  createDirectory : Option String
  setPermissions : Option String
  creatorPid : UInt32
  creatorStartTicks : Except String (Option UInt64)
  spawn : Option String
  descriptorTimeout : Option String
  descriptor : Except String TargetIdentity
  descriptorIntegrity : Option String
  validatorExit : Except String (Option Int)
  elapsedNs : UInt64
  progress : Except String CapacityExternalTargetProgress
  stopCommand : Option String
  report : Except String (ComponentReport × ValidatorReportLifecycleEvidence)
  finalProgress : Except String CapacityExternalTargetProgress
  copyDescriptor : Option String
  writeProgress : Option String
  /-- The entries of the directory, each with whether it is a directory itself. -/
  entries : Except String (List (Except String Bool))
  legacyReportAbsent : Bool
  validatorStateAbsent : Bool
  hashPayload : Except String String
  writeReport : Option String

/-- A program that keeps account of its target. -/
abbrev Exec := EStateM String TargetCustody

/-! ## §2 The validation -/

/-- Change the account. -/
def note (f : TargetCustody → TargetCustody) : Exec Unit := fun h => .ok () (f h)

/-- What a validation has shown. -/
inductive ExternalTargetClassification where
  | pass
  | targetHealthFailure
  | shadowCapabilityFailure
  | liveActionFailure
  | cleanupFailure
  | restoreFailure
  deriving DecidableEq

/-- The report of a validation. -/
structure ExternalTargetExecutionReport where
  state : ExternalTargetClassification
  reason : String
  identity : TargetIdentity
  finalProgress : CapacityExternalTargetProgress
  validatorExitSuccess : Bool
  validatorReportLifecycle : ValidatorReportLifecycleEvidence
  payloadSha256 : String

/-- A validation is over after three minutes. -/
def externalTargetMaxRuntimeMs : UInt64 := 180000

/-- A check of the component report is there and has passed. -/
def ComponentReport.checkPassed (report : ComponentReport) (name : String) : Bool :=
  report.checks.any fun check => check.name == some name && check.passed == some true

section Programs

variable (answers : ValidationAnswers)

/-- Everything up to the spawn. -/
def spawnTarget : Exec (ValidationManifest × UInt64) := do
  let manifest ← ofResult answers.manifest
  let ready ← ofResult answers.preflightReady
  refuse (ready = false) "external target bounded validation preflight failed"
  -- `create_dir`: a directory that is there already is an error
  failWith answers.createDirectory
  note fun h => { h with directory := true }
  failWith answers.setPermissions
  let ticks ← ofResult answers.creatorStartTicks
  let creatorStartTicks ← ofResult (ticks.elim (.error "runner start ticks unavailable") .ok)
  failWith (answers.spawn.map ("spawn exact external target: " ++ ·))
  note fun h => { h with spawned := true }
  pure (manifest, creatorStartTicks)

/-- The target that has published its descriptor is the one that was spawned. -/
def readDescriptor (manifest : ValidationManifest) (creatorStartTicks : UInt64) :
    Exec TargetIdentity := do
  -- from here on every error returns with the target running
  failWith answers.descriptorTimeout
  let identity ← ofResult answers.descriptor
  failWith answers.descriptorIntegrity
  refuse (identity ≠
      { creatorPid := answers.creatorPid, creatorStartTicks, executableSha256 := manifest.targetSha256,
        embeddedSourceCommit := manifest.gitHead })
    "actual external target differs from frozen target identity"
  pure identity

/-- A target whose progress can be read and that is not stopping is told to stop. -/
def stopTarget (manifest : ValidationManifest) : Exec Unit :=
  -- `is_ok_and`: a record that cannot be read counts as one that asks for nothing
  match answers.progress with
  | .error _ => pure ()
  | .ok progress => do
    note fun h => { h with progress := some progress.state }
    if isFinishing progress.state then pure ()
    else do
      failWith answers.stopCommand
      note fun h => { h with commands := h.commands ++ [.stop manifest.targetNonce] }

/-- Wait for the child. Whether it had been told to stop is noted. -/
def waitTarget : Exec Unit :=
  note fun h => { h with waited := true, waitedUntold := !h.told }

/-- The entries of the directory are removed one by one. A nested directory stops it. -/
def removeEntries : List (Except String Bool) → Exec Unit
  | [] => pure ()
  | entry :: entries => do
    let isDirectory ← ofResult entry
    refuse (isDirectory = true) "nested external target transaction content is forbidden"
    removeEntries entries

/-- Remove the directory of a transaction. Another one is refused. -/
def cleanupTransaction (root : PathBuf) : Exec Unit := do
  refuse (root.fileName ≠ some "target-transaction".toList)
    "refusing to clean unexpected external target transaction path"
  let entries ← ofResult answers.entries
  removeEntries entries
  -- the removed files are not tracked one by one: what matters is whether the directory is gone
  note fun h => { h with directory := false }

/-- What the target and the validator have left is kept as evidence. -/
def keepEvidence :
    Exec (ComponentReport × ValidatorReportLifecycleEvidence × CapacityExternalTargetProgress) := do
  let (component, lifecycle) ← ofResult answers.report
  let finalProgress ← ofResult answers.finalProgress
  failWith answers.copyDescriptor
  failWith answers.writeProgress
  pure (component, lifecycle, finalProgress)

/-- The target was active in all zones, was refaulted once and has stopped. -/
def targetHealth (progress : CapacityExternalTargetProgress) : Bool :=
  progress.hotCycles > 0 && progress.warmCycles > 0 && progress.controlledRefaults == 1 &&
    progress.state == .stopped

/-- The state of the report and its reason. -/
def classify (component : ComponentReport) (lifecycle : ValidatorReportLifecycleEvidence)
    (finalProgress : CapacityExternalTargetProgress) (exitSuccess : Bool) :
    ExternalTargetClassification × String :=
  let passed := component.checkPassed
  let direct := passed "vaddr_pageout_supported" && passed "shadow_session_passed" &&
    passed "shadow_cleanup" && passed "cold_address_fence"
  let cleanup := passed "cleanup" && passed "scheme_removed"
  let restore := component.hostUnchanged.getD false
  let lifecyclePass := lifecycle.legacyGlobalAbsentBefore && answers.legacyReportAbsent &&
    answers.validatorStateAbsent
  let pass := exitSuccess && answers.elapsedNs ≤ externalTargetMaxRuntimeMs * 1000000 && direct &&
    component.requiredGatesPassed.getD false && cleanup && passed "recovery" &&
    passed "recovery_idempotent" && restore && passed "zero_oom" && targetHealth finalProgress &&
    lifecyclePass
  if pass then
    (.pass, "exact external HOT/WARM/COLD ownership and bounded lifecycle passed")
  else
    (if !cleanup then .cleanupFailure
      else if !restore then .restoreFailure
      else if !targetHealth finalProgress then .targetHealthFailure
      else if !direct then .shadowCapabilityFailure
      else .liveActionFailure,
      "one or more mandatory external-target lifecycle gates failed")

/-- The report is sealed, verified and written, with the directory already gone. -/
def sealReport (identity : TargetIdentity) (exit : Option Int) (component : ComponentReport)
    (lifecycle : ValidatorReportLifecycleEvidence)
    (finalProgress : CapacityExternalTargetProgress) : Exec ExternalTargetExecutionReport := do
  let exitSuccess := exit == some 0
  let (state, reason) := classify answers component lifecycle finalProgress exitSuccess
  let lifecycle := { lifecycle with
    legacyGlobalAbsentAfter := answers.legacyReportAbsent
    validatorStateAbsent := answers.validatorStateAbsent }
  let payloadSha256 ← ofResult answers.hashPayload
  refuse (lifecycle.classification ≠ .pass ∨ lifecycle.legacyGlobalAbsentBefore = false ∨
      lifecycle.legacyGlobalAbsentAfter = false ∨ lifecycle.validatorStateAbsent = false)
    "external target execution evidence integrity or non-claim mismatch"
  failWith answers.writeReport
  pure {
    state, reason, identity, finalProgress
    validatorExitSuccess := exitSuccess
    validatorReportLifecycle := lifecycle
    payloadSha256 }

/-- Everything after the wait. -/
def finishValidation (manifest : ValidationManifest) (identity : TargetIdentity)
    (exit : Option Int) : Exec ExternalTargetExecutionReport := do
  let kept ← keepEvidence answers
  -- reached only if all the evidence was kept
  cleanupTransaction answers (manifest.outputRoot.join "target-transaction")
  sealReport answers identity exit kept.1 kept.2.1 kept.2.2

/-- Everything after the spawn. -/
def superviseTarget (manifest : ValidationManifest) (creatorStartTicks : UInt64) :
    Exec ExternalTargetExecutionReport := do
  let identity ← readDescriptor answers manifest creatorStartTicks
  let exit ← ofResult
    (answers.validatorExit.mapError ("launch external-target DAMOS controller: " ++ ·))
  stopTarget answers manifest
  waitTarget
  finishValidation answers manifest identity exit

/-- Start a target and look after it to its end. -/
def validateExternalTarget : Exec ExternalTargetExecutionReport := do
  let spawned ← spawnTarget answers
  superviseTarget answers spawned.1 spawned.2

end Programs

/-! ## §3 The part after the spawn -/

/-- The host between the spawn and the descriptor. -/
def spawnedCustody : TargetCustody := { freshCustody with directory := true, spawned := true }

/-- No target is left: one that was spawned has been told to stop and waited for, and its
    directory is gone. And the wait was not entered before the target had been told. -/
structure LeavesNoTarget (h : TargetCustody) : Prop where
  told : h.spawned = true → h.told = true
  waited : h.spawned = true → h.waited = true
  removed : h.spawned = true → h.directory = false
  notUntold : h.waitedUntold = false

section Answers

variable (answers : ValidationAnswers)

/-- The target is spawned. -/
structure Spawns (manifest : ValidationManifest) (creatorStartTicks : UInt64) : Prop where
  manifest : answers.manifest = .ok manifest
  ready : answers.preflightReady = .ok true
  createDirectory : answers.createDirectory = none
  setPermissions : answers.setPermissions = none
  ticks : answers.creatorStartTicks = .ok (some creatorStartTicks)
  spawn : answers.spawn = none

/-- The descriptor appears in time, can be read and is the one of the spawned target. -/
structure DescriptorAccepted (manifest : ValidationManifest) (creatorStartTicks : UInt64) :
    Prop where
  inTime : answers.descriptorTimeout = none
  identity : answers.descriptor = .ok
    { creatorPid := answers.creatorPid, creatorStartTicks,
      executableSha256 := manifest.targetSha256, embeddedSourceCommit := manifest.gitHead }
  integrity : answers.descriptorIntegrity = none

/-- The progress can be read, and a target that is not finishing gets its stop. -/
def StopReaches : Prop :=
  ∃ progress, answers.progress = .ok progress ∧
    (isFinishing progress.state = true ∨ answers.stopCommand = none)

/-- The evidence is kept. -/
structure EvidenceKept : Prop where
  report : ∃ report, answers.report = .ok report
  finalProgress : ∃ progress, answers.finalProgress = .ok progress
  copyDescriptor : answers.copyDescriptor = none
  writeProgress : answers.writeProgress = none

/-- The directory can be read and holds only files. -/
def OnlyFiles : Prop :=
  ∃ entries, answers.entries = .ok entries ∧ ∀ entry ∈ entries, entry = .ok false

/-- Every step between the spawn and the removal of the directory succeeds. -/
structure Supervised (manifest : ValidationManifest) (creatorStartTicks : UInt64) : Prop where
  descriptor : DescriptorAccepted answers manifest creatorStartTicks
  validator : ∃ exit, answers.validatorExit = .ok exit
  stop : StopReaches answers
  evidence : EvidenceKept answers
  files : OnlyFiles answers

end Answers

section Steps

variable {answers : ValidationAnswers} {manifest : ValidationManifest} {ticks : UInt64}
  {h : TargetCustody}

theorem run_note {f : TargetCustody → TargetCustody} : (note f).run h = .ok () (f h) := rfl

theorem readDescriptor_of_accepted (hd : DescriptorAccepted answers manifest ticks) :
    (readDescriptor answers manifest ticks).run h =
      .ok { creatorPid := answers.creatorPid, creatorStartTicks := ticks,
            executableSha256 := manifest.targetSha256,
            embeddedSourceCommit := manifest.gitHead } h := by
  unfold readDescriptor
  rw [hd.inTime, bind_ok run_failWith_none, hd.identity, bind_ok run_ofResult_ok, hd.integrity,
    bind_ok run_failWith_none, bind_ok (run_refuse_not (by simp))]
  rfl

theorem readDescriptor_fails (hd : ¬ DescriptorAccepted answers manifest ticks) :
    Fails (· = h) (readDescriptor answers manifest ticks) h := by
  unfold readDescriptor
  refine fails_failWith rfl fun htime => ?_
  refine fails_ofResult rfl fun identity hread => ?_
  refine fails_failWith rfl fun hintegrity => ?_
  -- the last check leaves one identity only
  refine fails_refuse rfl fun hidentity => ?_
  obtain rfl := not_not.1 hidentity
  exact absurd ⟨htime, hread, hintegrity⟩ hd

/-- Behind a stop that reaches the target, the target has been told. -/
theorem stopTarget_of_reaches (manifest : ValidationManifest) (hstop : StopReaches answers) :
    ∃ h', (stopTarget answers manifest).run h = .ok () h' ∧ h'.told = true ∧
      h'.spawned = h.spawned ∧ h'.directory = h.directory := by
  obtain ⟨progress, hprogress, hreach⟩ := hstop
  unfold stopTarget
  rw [hprogress]
  show ∃ h', (note (fun h => { h with progress := some progress.state }) >>= fun _ => _).run h =
    _ ∧ _
  rw [bind_ok run_note]
  cases hfinishing : isFinishing progress.state with
  | true =>
    refine ⟨_, rfl, ?_, rfl, rfl⟩
    simp [TargetCustody.told, hfinishing]
  | false =>
    have hcommand : answers.stopCommand = none := hreach.resolve_left (by simp [hfinishing])
    simp only [Bool.false_eq_true, if_false]
    rw [hcommand, bind_ok run_failWith_none]
    refine ⟨_, rfl, ?_, rfl, rfl⟩
    simp [TargetCustody.told, CapacityExternalTargetCommand.file]

/-- Otherwise the stop fails, or the target is not told and the custody stays as it was. -/
theorem stopTarget_of_not_reaches (manifest : ValidationManifest)
    (hstop : ¬ StopReaches answers) :
    (∃ e h', (stopTarget answers manifest).run h = .error e h' ∧ h'.waited = h.waited ∧
        h'.spawned = h.spawned) ∨
      (stopTarget answers manifest).run h = .ok () h := by
  unfold stopTarget
  cases hprogress : answers.progress with
  -- nothing is written, and nothing says so
  | error e => exact .inr rfl
  | ok progress =>
    left
    have hfinishing : isFinishing progress.state = false := by
      by_contra htrue
      exact hstop ⟨progress, hprogress, .inl (by simpa using htrue)⟩
    obtain ⟨e, hcommand⟩ : ∃ e, answers.stopCommand = some e := by
      rw [← Option.ne_none_iff_exists']
      intro hnone
      exact hstop ⟨progress, hprogress, .inr hnone⟩
    show ∃ e h', (note (fun h => { h with progress := some progress.state }) >>= fun _ => _).run h =
      .error e h' ∧ _
    rw [bind_ok run_note]
    simp only [hfinishing, Bool.false_eq_true, if_false]
    rw [hcommand]
    exact ⟨e, _, bind_error run_failWith_some, rfl, rfl⟩

theorem keepEvidence_of_kept (hkept : EvidenceKept answers) :
    ∃ kept, (keepEvidence answers).run h = .ok kept h := by
  obtain ⟨⟨component, lifecycle⟩, hreport⟩ := hkept.report
  obtain ⟨progress, hprogress⟩ := hkept.finalProgress
  refine ⟨(component, lifecycle, progress), ?_⟩
  unfold keepEvidence
  rw [hreport, bind_ok run_ofResult_ok, hprogress]
  show (ofResult (.ok progress) >>= fun finalProgress => _).run h = _
  rw [bind_ok run_ofResult_ok, hkept.copyDescriptor, bind_ok run_failWith_none,
    hkept.writeProgress, bind_ok run_failWith_none]
  rfl

theorem keepEvidence_fails (hkept : ¬ EvidenceKept answers) :
    Fails (· = h) (keepEvidence answers) h := by
  unfold keepEvidence
  refine fails_ofResult rfl fun report hreport => ?_
  obtain ⟨component, lifecycle⟩ := report
  refine fails_ofResult rfl fun progress hprogress => ?_
  refine fails_failWith rfl fun hcopy => ?_
  refine fails_failWith rfl fun hwrite => ?_
  exact absurd ⟨⟨_, hreport⟩, ⟨_, hprogress⟩, hcopy, hwrite⟩ hkept

theorem removeEntries_of_files {entries : List (Except String Bool)}
    (hfiles : ∀ entry ∈ entries, entry = .ok false) :
    (removeEntries entries).run h = .ok () h := by
  induction entries with
  | nil => rfl
  | cons entry entries ih =>
    obtain rfl : entry = .ok false := hfiles entry List.mem_cons_self
    unfold removeEntries
    rw [bind_ok run_ofResult_ok, bind_ok (run_refuse_not (by simp))]
    exact ih fun entry hentry => hfiles entry (List.mem_cons_of_mem _ hentry)

theorem removeEntries_fails {entries : List (Except String Bool)}
    (hfiles : ¬ ∀ entry ∈ entries, entry = .ok false) :
    Fails (· = h) (removeEntries entries) h := by
  induction entries with
  | nil => exact absurd (by simp) hfiles
  | cons entry entries ih =>
    unfold removeEntries
    refine fails_ofResult rfl fun isDirectory hentry => ?_
    refine fails_refuse rfl fun hfile => ih ?_
    intro hrest
    apply hfiles
    intro entry' hentry'
    -- the entry at hand is a file, so the one that is not is behind it
    rcases List.mem_cons.1 hentry' with rfl | hentry'
    · simpa [hentry] using hfile
    · exact hrest entry' hentry'

theorem fileName_transaction (p : PathBuf) :
    (p.join "target-transaction").fileName = some "target-transaction".toList :=
  p.fileName_join "target-transaction".toList (by decide) (by decide) (by decide) (by decide)

theorem cleanupTransaction_of_files (hfiles : OnlyFiles answers) :
    (cleanupTransaction answers (manifest.outputRoot.join "target-transaction")).run h =
      .ok () { h with directory := false } := by
  obtain ⟨entries, hentries, hfiles⟩ := hfiles
  unfold cleanupTransaction
  rw [bind_ok (run_refuse_not (by simp [fileName_transaction])), hentries, bind_ok run_ofResult_ok,
    bind_ok (removeEntries_of_files hfiles)]
  rfl

theorem cleanupTransaction_fails (manifest : ValidationManifest) (hfiles : ¬ OnlyFiles answers) :
    Fails (· = h)
      (cleanupTransaction answers (manifest.outputRoot.join "target-transaction")) h := by
  unfold cleanupTransaction
  apply fails_after (run_refuse_not (by simp [fileName_transaction]))
  refine fails_ofResult rfl fun entries hentries => ?_
  exact fails_bind (removeEntries_fails fun hall => hfiles ⟨entries, hentries, hall⟩)

/-- The report is made with nothing in custody any more. -/
theorem reads_sealReport {identity : TargetIdentity} {exit : Option Int}
    {component : ComponentReport} {lifecycle : ValidatorReportLifecycleEvidence}
    {progress : CapacityExternalTargetProgress} :
    Reads (sealReport answers identity exit component lifecycle progress) :=
  reads_bind (reads_ofResult _) fun _ => reads_bind (reads_refuse _) fun _ =>
    reads_bind (reads_failWith _) fun _ => reads_pure _

/-- The end of the validation removes the directory, or changes nothing. -/
theorem final_finishValidation_of {identity : TargetIdentity} {exit : Option Int}
    (hkept : EvidenceKept answers) (hfiles : OnlyFiles answers) :
    final ((finishValidation answers manifest identity exit).run h) =
      { h with directory := false } := by
  obtain ⟨kept, hkeep⟩ := keepEvidence_of_kept (h := h) hkept
  unfold finishValidation
  rw [bind_ok hkeep, bind_ok (cleanupTransaction_of_files hfiles)]
  exact reads_sealReport _

theorem final_finishValidation_of_not {identity : TargetIdentity} {exit : Option Int}
    (hnot : ¬ (EvidenceKept answers ∧ OnlyFiles answers)) :
    final ((finishValidation answers manifest identity exit).run h) = h := by
  unfold finishValidation
  by_cases hkept : EvidenceKept answers
  · obtain ⟨kept, hkeep⟩ := keepEvidence_of_kept (h := h) hkept
    obtain ⟨e, _, he, rfl⟩ := cleanupTransaction_fails manifest (h := h)
      fun hfiles => hnot ⟨hkept, hfiles⟩
    rw [bind_ok hkeep, bind_error he]
    rfl
  · obtain ⟨e, _, he, rfl⟩ := keepEvidence_fails (h := h) hkept
    rw [bind_error he]
    rfl

/-- A target that is never waited for is left behind. -/
theorem not_leavesNoTarget_of_not_waited (hspawned : h.spawned = true) (hwaited : h.waited = false) :
    ¬ LeavesNoTarget h := by
  intro hleft
  rw [hleft.waited hspawned] at hwaited
  cases hwaited

/-- The wait and what comes after it. -/
theorem leavesNoTarget_wait_iff {identity : TargetIdentity} {exit : Option Int}
    (hspawned : h.spawned = true) (hdirectory : h.directory = true) :
    LeavesNoTarget (final
        ((waitTarget >>= fun _ => finishValidation answers manifest identity exit).run h)) ↔
      h.told = true ∧ EvidenceKept answers ∧ OnlyFiles answers := by
  have hwait : waitTarget.run h = .ok () { h with waited := true, waitedUntold := !h.told } := rfl
  -- the wait has noted whether the target had been told; what is left is the directory
  rw [bind_ok hwait]
  by_cases hend : EvidenceKept answers ∧ OnlyFiles answers
  · rw [final_finishValidation_of hend.1 hend.2]
    constructor
    · intro hleft
      exact ⟨by simpa using hleft.notUntold, hend⟩
    · rintro ⟨htold, -⟩
      exact ⟨fun _ => htold, fun _ => rfl, fun _ => rfl, by simp [htold]⟩
  · rw [final_finishValidation_of_not hend]
    constructor
    · intro hleft
      have hgone : h.directory = false := hleft.removed hspawned
      rw [hdirectory] at hgone
      cases hgone
    · rintro ⟨-, hboth⟩
      exact absurd hboth hend

end Steps

/-! ## §4 When no target is left behind -/

section Validation

variable {answers : ValidationAnswers} {manifest : ValidationManifest} {ticks : UInt64}

theorem leavesNoTarget_superviseTarget_iff :
    LeavesNoTarget (final ((superviseTarget answers manifest ticks).run spawnedCustody)) ↔
      Supervised answers manifest ticks := by
  unfold superviseTarget
  by_cases hd : DescriptorAccepted answers manifest ticks
  swap
  · obtain ⟨e, _, he, rfl⟩ := readDescriptor_fails (h := spawnedCustody) hd
    rw [bind_error he]
    exact ⟨fun hleft => absurd hleft (not_leavesNoTarget_of_not_waited rfl rfl),
      fun hsup => absurd hsup.descriptor hd⟩
  rw [bind_ok (readDescriptor_of_accepted hd)]
  cases hexit : answers.validatorExit with
  -- the validator cannot be launched: the error returns past the stop and the wait
  | error e =>
    rw [bind_error run_mapError_error]
    refine ⟨fun hleft => absurd hleft (not_leavesNoTarget_of_not_waited rfl rfl), fun hsup => ?_⟩
    obtain ⟨exit, hok⟩ := hsup.validator
    rw [hexit] at hok
    cases hok
  | ok exit =>
  rw [bind_ok run_mapError_ok]
  by_cases hstop : StopReaches answers
  · obtain ⟨h', hrun, htold, hspawned, hdirectory⟩ :=
      stopTarget_of_reaches manifest (h := spawnedCustody) hstop
    rw [bind_ok hrun, leavesNoTarget_wait_iff hspawned hdirectory]
    constructor
    · rintro ⟨-, hkept, hfiles⟩
      exact ⟨hd, ⟨exit, hexit⟩, hstop, hkept, hfiles⟩
    · intro hsup
      exact ⟨htold, hsup.evidence, hsup.files⟩
  · rcases stopTarget_of_not_reaches manifest (h := spawnedCustody) hstop with
      ⟨e, h', hrun, hwaited, hspawned⟩ | hrun
    · -- the stop cannot be written
      rw [bind_error hrun]
      exact ⟨fun hleft => absurd hleft (not_leavesNoTarget_of_not_waited hspawned hwaited),
        fun hsup => absurd hsup.stop hstop⟩
    · -- the progress cannot be read: the wait is entered blindly
      rw [bind_ok hrun, leavesNoTarget_wait_iff rfl rfl]
      exact ⟨fun hcond => absurd hcond.1 (by decide), fun hsup => absurd hsup.stop hstop⟩

theorem spawnTarget_of_spawns (hspawns : Spawns answers manifest ticks) :
    (spawnTarget answers).run freshCustody = .ok (manifest, ticks) spawnedCustody := by
  unfold spawnTarget
  rw [hspawns.manifest, bind_ok run_ofResult_ok, hspawns.ready, bind_ok run_ofResult_ok,
    bind_ok (run_refuse_not (by simp)), hspawns.createDirectory, bind_ok run_failWith_none,
    bind_ok run_note, hspawns.setPermissions, bind_ok run_failWith_none, hspawns.ticks,
    bind_ok run_ofResult_ok, Option.elim_some, bind_ok run_ofResult_ok, hspawns.spawn,
    Option.map_none, bind_ok run_failWith_none, bind_ok run_note]
  rfl

/-- Without a spawn there is nothing to leave behind but the directory. -/
theorem spawnTarget_fails (hspawns : ∀ manifest ticks, ¬ Spawns answers manifest ticks) :
    Fails (fun h => ∃ directory, h = { freshCustody with directory := directory })
      (spawnTarget answers) freshCustody := by
  have hbefore : ∃ directory, freshCustody = { freshCustody with directory := directory } :=
    ⟨false, rfl⟩
  -- once the directory is made, each failure leaves it
  have hafter : ∃ directory, { freshCustody with directory := true } =
      { freshCustody with directory := directory } := ⟨true, rfl⟩
  unfold spawnTarget
  refine fails_ofResult hbefore fun manifest hmanifest => ?_
  refine fails_ofResult hbefore fun ready hready => ?_
  refine fails_refuse hbefore fun hpreflight => ?_
  refine fails_failWith hbefore fun hcreate => ?_
  apply fails_after run_note
  refine fails_failWith hafter fun hpermissions => ?_
  refine fails_ofResult hafter fun ticks? hticks? => ?_
  refine fails_ofResult hafter fun ticks hticks => ?_
  refine fails_failWith hafter fun hspawn => ?_
  have hready' : ready = true := by simpa using hpreflight
  have hticks' : ticks? = some ticks := by
    cases ticks? with
    | none => cases hticks
    | some n =>
      obtain rfl : n = ticks := Except.ok.inj hticks
      rfl
  subst hready' hticks'
  exact absurd ⟨hmanifest, hready, hcreate, hpermissions, hticks?, Option.map_eq_none_iff.1 hspawn⟩
    (hspawns manifest ticks)

end Validation

/-- Every exit of the validation after the spawn has told the target to stop, has waited for it and
    has removed its directory, and no wait is entered before the target was told, exactly when all
    steps between the spawn and the removal succeed. -/
theorem validateExternalTarget_leavesNoTarget_iff (answers : ValidationAnswers) :
    LeavesNoTarget (final ((validateExternalTarget answers).run freshCustody)) ↔
      ∀ manifest ticks, Spawns answers manifest ticks → Supervised answers manifest ticks := by
  unfold validateExternalTarget
  by_cases hspawns : ∃ manifest ticks, Spawns answers manifest ticks
  · obtain ⟨manifest, ticks, hspawns⟩ := hspawns
    rw [bind_ok (spawnTarget_of_spawns hspawns), leavesNoTarget_superviseTarget_iff]
    constructor
    · intro hsup manifest' ticks' hspawns'
      -- the answers fix the manifest and the ticks
      obtain rfl : manifest = manifest' :=
        Except.ok.inj (hspawns.manifest.symm.trans hspawns'.manifest)
      obtain rfl : ticks = ticks' :=
        Option.some.inj (Except.ok.inj (hspawns.ticks.symm.trans hspawns'.ticks))
      exact hsup
    · intro hall
      exact hall manifest ticks hspawns
  · have hnone : ∀ manifest ticks, ¬ Spawns answers manifest ticks :=
      fun manifest ticks h => hspawns ⟨manifest, ticks, h⟩
    obtain ⟨e, _, he, directory, rfl⟩ := spawnTarget_fails hnone
    rw [bind_error he]
    refine ⟨fun _ manifest ticks h => absurd h (hnone manifest ticks), fun _ => ?_⟩
    exact ⟨nofun, nofun, nofun, rfl⟩

/-- Answers up to the point where the target is running. -/
def spawningAnswers : ValidationAnswers where
  manifest := .ok {
    outputRoot := ⟨"/var/tmp/nemor-validation"⟩
    targetNonce := "7f"
    targetSha256 := "aa"
    gitHead := "bb" }
  preflightReady := .ok true
  createDirectory := none
  setPermissions := none
  creatorPid := 4242
  creatorStartTicks := .ok (some 99)
  spawn := none
  descriptorTimeout := none
  descriptor := .ok {
    creatorPid := 4242
    creatorStartTicks := 99
    executableSha256 := "aa"
    embeddedSourceCommit := "bb" }
  descriptorIntegrity := none
  validatorExit := .ok (some 1)
  elapsedNs := 1000
  progress := .error "invalid external target progress"
  stopCommand := none
  report := .error "validator report missing"
  finalProgress := .error "invalid external target progress"
  copyDescriptor := none
  writeProgress := none
  entries := .ok []
  legacyReportAbsent := true
  validatorStateAbsent := true
  hashPayload := .ok "cc"
  writeReport := none

/-- A target at work. -/
def activeProgress : CapacityExternalTargetProgress where
  protocolVersion := 1
  targetSessionId := "session"
  nonce := "7f"
  state := .active
  sequence := 9
  heartbeatMonotonicNs := 5
  hotCycles := 3
  warmCycles := 2
  hotPagesTouched := 30
  warmPagesTouched := 20
  coldCycles := 1
  controlledRefaults := 1
  hotFingerprint := "h"
  warmFingerprint := "w"
  coldFingerprint := "c"

/-- Answers of a validation whose report says nothing good but that runs to its end. -/
def completedAnswers : ValidationAnswers := { spawningAnswers with
  progress := .ok activeProgress
  report := .ok
    ({ checks := [], requiredGatesPassed := none, hostUnchanged := none },
      { version := 1, reportPath := none, rawSha256 := none, canonicalSemanticSha256 := none,
        metadata := none, validatorExitStatus := some 1, explicitPathMode := true,
        legacyGlobalAbsentBefore := true, legacyGlobalAbsentAfter := false,
        validatorStateAbsent := false, classification := .pass })
  finalProgress := .ok { activeProgress with state := .stopped }
  entries := .ok [.ok false, .ok false] }

/-- A validation that runs to its end leaves no target. -/
theorem completed_validation_leaves_no_target :
    LeavesNoTarget (final ((validateExternalTarget completedAnswers).run freshCustody)) := by
  apply (validateExternalTarget_leavesNoTarget_iff completedAnswers).2
  intro manifest ticks hspawns
  obtain rfl : _ = manifest := Except.ok.inj hspawns.manifest
  obtain rfl : _ = ticks := Option.some.inj (Except.ok.inj hspawns.ticks)
  exact {
    descriptor := ⟨rfl, rfl, rfl⟩
    validator := ⟨_, rfl⟩
    stop := ⟨_, rfl, .inr rfl⟩
    evidence := ⟨⟨_, rfl⟩, ⟨_, rfl⟩, rfl, rfl⟩
    files := ⟨_, rfl, by simp⟩ }

/-- A descriptor that does not appear in time leaves the target running, and a progress record
    that cannot be read sends the validation into a wait for a target that nobody has told to
    stop. -/
theorem target_left_behind :
    (∃ e, (validateExternalTarget { spawningAnswers with
          descriptorTimeout := some "timed out waiting for target-descriptor.json" }).run
        freshCustody = .error e spawnedCustody ∧ ¬ LeavesNoTarget spawnedCustody) ∧
    ∃ e h', (validateExternalTarget spawningAnswers).run freshCustody = .error e h' ∧
      h'.waitedUntold = true ∧ h'.commands = [] ∧ ¬ LeavesNoTarget h' := by
  constructor
  · exact ⟨_, rfl, not_leavesNoTarget_of_not_waited rfl rfl⟩
  · refine ⟨_, _, rfl, rfl, rfl, ?_⟩
    intro hleft
    cases hleft.notUntold

end Nemor.Capacity.ExternalValidation
