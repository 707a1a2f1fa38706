import Nemor.Observer.Start

/-!
# When a failed start leaves nothing behind

A start that fails before both files are staged puts everything back. After that it depends on the
service manager: without a connection the two files are forgotten, and the clean-up removes them
only behind a stop and a wait that have both succeeded, although the unit can be gone without
that. The harness adds a way out of its own, which cleans nothing up.

- §1, §2: staging one file and both
- §3: the clean-up
- §4: the three ways in which a start with staged files ends
- §5: when the start, the harness and a later clean-up leave nothing
-/

namespace Nemor.Observer

open UnixPath Procedure

/-! ## §1 Staged files -/

section Staging

variable {sha256 : List UInt8 → String} {h : ObserverHost} {path : PathBuf}

@[simp] theorem put_files_self {file : Option StagedFile} :
    (h.put path file).files path.components = file := by
  simp [ObserverHost.put]

@[simp] theorem put_put {file file' : Option StagedFile} :
    (h.put path file).put path file' = h.put path file' := by
  simp [ObserverHost.put]

/-- A file that was not there is removed without a trace. -/
theorem put_none (hfree : h.files path.components = none) : h.put path none = h := by
  unfold ObserverHost.put
  rw [← hfree, Function.update_eq_self]

theorem alterStaged_put {f : StagedFile → StagedFile} {file : StagedFile} :
    (alterStaged path f).run (h.put path (some file)) = .ok () (h.put path (some (f file))) := by
  show EStateM.Result.ok () _ = _
  simp

theorem statStaged_of_some {file : StagedFile} (hfile : h.files path.components = some file) :
    (statStaged path).run h = .ok file h := by
  show statStaged path h = _
  unfold statStaged
  rw [hfile]

theorem statStaged_put {file : StagedFile} :
    (statStaged path).run (h.put path (some file)) = .ok file (h.put path (some file)) :=
  statStaged_of_some put_files_self

section Filling

variable {f : StageFaults} {bytes : List UInt8} {mode : UInt32} {expected e : String}
  {file : StagedFile}

/-- Without faults a staged file is filled and verified. -/
theorem fillStaged_of_none (hfile : file.uid = 0 ∧ file.nlink = 1) (hmode : mode &&& 0o777 = mode)
    (hsha : sha256 bytes = expected) (hf : f.filling = none) :
    (fillStaged sha256 f path bytes mode 0 expected).run (h.put path (some file)) =
      .ok () (h.put path (some { content := bytes, uid := 0, mode := mode, nlink := 1 })) := by
  obtain ⟨hwriting, hpermissions, hsyncing, hmetadata, hhashing⟩ := by
    simpa only [StageFaults.filling, Option.or_eq_none_iff] using hf
  unfold fillStaged
  rw [hwriting, bind_ok run_failWith_none, bind_ok alterStaged_put, hpermissions,
    bind_ok run_failWith_none, bind_ok alterStaged_put, hsyncing, bind_ok run_failWith_none,
    hmetadata, bind_ok run_failWith_none, bind_ok statStaged_put,
    bind_ok (run_refuse_not (by simp [hfile, hmode])), hhashing, bind_ok run_failWith_none,
    bind_ok statStaged_put, run_refuse_not (by simp [hsha])]
  simp [hfile]

/-- The first fault ends the filling, with the file still there. -/
theorem fillStaged_fails (hfile : file.uid = 0 ∧ file.nlink = 1) (hmode : mode &&& 0o777 = mode)
    (hf : f.filling ≠ none) :
    Fails (fun h' => ∃ file', h' = h.put path (some file'))
      (fillStaged sha256 f path bytes mode 0 expected) (h.put path (some file)) := by
  unfold fillStaged
  apply fails_failWith ⟨_, rfl⟩
  intro hwriting
  apply fails_after alterStaged_put
  apply fails_failWith ⟨_, rfl⟩
  intro hpermissions
  apply fails_after alterStaged_put
  apply fails_failWith ⟨_, rfl⟩
  intro hsyncing
  apply fails_failWith ⟨_, rfl⟩
  intro hmetadata
  apply fails_after statStaged_put
  apply fails_after (run_refuse_not (by simp [hfile, hmode]))
  apply fails_failWith ⟨_, rfl⟩
  intro hhashing
  -- no fault was met: there is none
  exact absurd (by simp [StageFaults.filling, *]) hf

end Filling

/-- A file can be staged: it is not there yet, and no step of the staging fails. -/
def CanStage (f : StageFaults) (path : PathBuf) (h : ObserverHost) : Prop :=
  h.files path.components = none ∧ f.opening = none ∧ f.filling = none

section Stage

variable {f : StageFaults} {bytes : List UInt8} {mode : UInt32} {expected : String}

theorem stageVerifiedBytes_of_canStage (hmode : mode &&& 0o777 = mode)
    (hsha : sha256 bytes = expected) (hf : CanStage f path h) :
    (stageVerifiedBytes sha256 f path bytes mode 0 expected).run h =
      .ok () (h.put path (some { content := bytes, uid := 0, mode := mode, nlink := 1 })) := by
  obtain ⟨hfree, hopening, hfilling⟩ := hf
  have hcreate : (createStaged f.opening path mode).run h =
      .ok () (h.put path (some { content := [], uid := 0, mode := mode, nlink := 1 })) := by
    show createStaged f.opening path mode h = _
    unfold createStaged
    rw [hfree, hopening]
  unfold stageVerifiedBytes
  rw [bind_ok hcreate, attempt_bind, fillStaged_of_none ⟨rfl, rfl⟩ hmode hsha hfilling]
  rfl

/-- A staging that fails leaves no file that was not there before. -/
theorem stageVerifiedBytes_fails (hmode : mode &&& 0o777 = mode) (hf : ¬ CanStage f path h) :
    Fails (· = h) (stageVerifiedBytes sha256 f path bytes mode 0 expected) h := by
  unfold stageVerifiedBytes
  -- a file that was there before is not touched
  cases hfree : h.files path.components with
  | some file =>
    refine fails_bind ⟨"File exists (os error 17)", h, ?_, rfl⟩
    show createStaged f.opening path mode h = _
    unfold createStaged
    rw [hfree]
  | none =>
  cases hopening : f.opening with
  | some e =>
    refine fails_bind ⟨e, h, ?_, rfl⟩
    show createStaged (some e) path mode h = _
    unfold createStaged
    rw [hfree]
  | none =>
  have hcreate : (createStaged none path mode).run h =
      .ok () (h.put path (some { content := [], uid := 0, mode := mode, nlink := 1 })) := by
    show createStaged none path mode h = _
    unfold createStaged
    rw [hfree]
  have hfilling : f.filling ≠ none := fun hfilling => hf ⟨hfree, hopening, hfilling⟩
  -- what was written so far is removed again
  obtain ⟨e, _, hfill, file', rfl⟩ : Fails (fun h' => ∃ file', h' = h.put path (some file'))
      (fillStaged sha256 f path bytes mode 0 expected)
      (h.put path (some { content := [], uid := 0, mode := mode, nlink := 1 })) :=
    fillStaged_fails ⟨rfl, rfl⟩ hmode hfilling
  refine ⟨e, h, ?_, rfl⟩
  rw [bind_ok hcreate, attempt_bind, hfill]
  show EStateM.Result.error e ((h.put path (some file')).put path none) = _
  rw [put_put, put_none hfree]

end Stage

/-- A staged file under a staged name is removed. -/
theorem removeStagedInput_of_staged {lead expected : String} {mode : UInt32} {bytes : List UInt8}
    (hname : isStagedInput path lead = true) (hmode : mode &&& 0o777 = mode)
    (hsha : sha256 bytes = expected)
    (hfile : h.files path.components =
      some { content := bytes, uid := 0, mode := mode, nlink := 1 }) :
    (removeStagedInput sha256 path lead 0 mode expected).run h = .ok () (h.put path none) := by
  unfold removeStagedInput
  rw [bind_ok (run_refuse_not (by simp [hname])), bind_ok (statStaged_of_some hfile),
    bind_ok (run_refuse_not (by simp [hmode, hsha]))]
  rfl

end Staging

/-! ## §2 Both files -/

section Inputs

variable (sha256 : List UInt8 → String) (plan : ObserverServicePlan) (answers : ObserverAnswers)
  (sourceSha256 configSha256 : String)

/-- The start gets as far as the staging. -/
structure InputsAccepted : Prop where
  root : answers.root = true
  source : ∃ bytes, answers.source = .ok bytes ∧ sha256 bytes = sourceSha256
  valid : plan.validate = .ok ()
  runtimeMax : serviceRuntimeMaxUsec < plan.runtimeMaxUsec ∧
    plan.runtimeMaxUsec ≤ performanceServiceRuntimeMaxUsec
  config : ∃ bytes, answers.config = .ok bytes ∧ sha256 bytes = configSha256

/-- The start gets as far as the connection to the service manager, with both files staged. -/
structure StagesBoth (h : ObserverHost) : Prop where
  accepted : InputsAccepted sha256 plan answers sourceSha256 configSha256
  binary : CanStage answers.binaryStage plan.binary h
  config : CanStage answers.configStage plan.config h

end Inputs

/-- The host with both files of a plan staged. -/
def stagedHost (plan : ObserverServicePlan) (source config : List UInt8) (h : ObserverHost) :
    ObserverHost :=
  (h.put plan.binary (some { content := source, uid := 0, mode := 0o755, nlink := 1 })).put
    plan.config (some { content := config, uid := 0, mode := 0o644, nlink := 1 })

theorem binaryMode : (0o755 : UInt32) &&& 0o777 = 0o755 := by decide

theorem configMode : (0o644 : UInt32) &&& 0o777 = 0o644 := by decide

section Both

variable {sha256 : List UInt8 → String} {plan : ObserverServicePlan} {answers : ObserverAnswers}
  {sourceSha256 configSha256 : String} {h : ObserverHost} {source config : List UInt8}

theorem readVerified_ok {bytes : List UInt8} {expected mismatch : String}
    (hsha : sha256 bytes = expected) :
    (readVerified sha256 (.ok bytes) expected mismatch).run h = .ok bytes h := by
  unfold readVerified
  rw [bind_ok run_ofResult_ok, bind_ok (run_refuse_not (by simp [hsha]))]
  rfl

theorem readVerified_fails {read : Except String (List UInt8)} {expected mismatch : String}
    (hread : ¬ ∃ bytes, read = .ok bytes ∧ sha256 bytes = expected) :
    Fails (· = h) (readVerified sha256 read expected mismatch) h := by
  unfold readVerified
  refine fails_ofResult rfl fun bytes hbytes => ?_
  refine fails_refuse rfl fun hsha => ?_
  exact absurd ⟨bytes, hbytes, not_not.1 hsha⟩ hread

theorem readInputs_of_accepted
    (ha : InputsAccepted sha256 plan answers sourceSha256 configSha256) :
    ∃ source config, sha256 source = sourceSha256 ∧ sha256 config = configSha256 ∧
      (readInputs sha256 plan answers sourceSha256 configSha256).run h =
        .ok (source, config) h := by
  obtain ⟨source, hsource, hsourceSha⟩ := ha.source
  obtain ⟨config, hconfig, hconfigSha⟩ := ha.config
  have hmax : ¬ (plan.runtimeMaxUsec ≤ serviceRuntimeMaxUsec ∨
      plan.runtimeMaxUsec > performanceServiceRuntimeMaxUsec) := by
    rintro (hlow | hhigh)
    · exact absurd ha.runtimeMax.1 (UInt64.not_lt.2 hlow)
    · exact absurd hhigh (UInt64.not_lt.2 ha.runtimeMax.2)
  refine ⟨source, config, hsourceSha, hconfigSha, ?_⟩
  unfold readInputs
  rw [bind_ok (run_refuse_not (by simp [ha.root])), hsource, bind_ok (readVerified_ok hsourceSha),
    ha.valid, bind_ok run_ofResult_ok, bind_ok (run_refuse_not hmax), hconfig,
    bind_ok (readVerified_ok hconfigSha)]
  rfl

theorem readInputs_fails
    (ha : ¬ InputsAccepted sha256 plan answers sourceSha256 configSha256) :
    Fails (· = h) (readInputs sha256 plan answers sourceSha256 configSha256) h := by
  unfold readInputs
  refine fails_refuse rfl fun hroot => ?_
  by_cases hsource : ∃ bytes, answers.source = .ok bytes ∧ sha256 bytes = sourceSha256
  swap
  · exact fails_bind (readVerified_fails hsource)
  obtain ⟨source, hread, hsha⟩ := hsource
  rw [hread]
  apply fails_after (readVerified_ok hsha)
  refine fails_ofResult rfl fun _ hvalid => ?_
  refine fails_refuse rfl fun hmax => ?_
  by_cases hconfig : ∃ bytes, answers.config = .ok bytes ∧ sha256 bytes = configSha256
  swap
  · exact fails_bind (readVerified_fails hconfig)
  obtain ⟨hlow, hhigh⟩ := not_or.1 hmax
  exact absurd ⟨by simpa using hroot, ⟨source, hread, hsha⟩, hvalid,
    ⟨UInt64.not_le.1 hlow, UInt64.not_lt.1 hhigh⟩, hconfig⟩ ha

theorem put_files_of_ne {path path' : PathBuf} {file : Option StagedFile}
    (hne : path'.components ≠ path.components) :
    (h.put path file).files path'.components = h.files path'.components :=
  Function.update_of_ne hne _ _

theorem stagedHost_binary (hvalid : plan.validate = .ok ()) :
    (stagedHost plan source config h).files plan.binary.components =
      some { content := source, uid := 0, mode := 0o755, nlink := 1 } := by
  unfold stagedHost
  rw [put_files_of_ne (ObserverServicePlan.binary_ne_config hvalid), put_files_self]

theorem stagedHost_config :
    (stagedHost plan source config h).files plan.config.components =
      some { content := config, uid := 0, mode := 0o644, nlink := 1 } :=
  put_files_self

theorem stageInputs_of_canStage (hvalid : plan.validate = .ok ())
    (hsource : sha256 source = sourceSha256) (hconfig : sha256 config = configSha256)
    (hb : CanStage answers.binaryStage plan.binary h)
    (hc : CanStage answers.configStage plan.config h) :
    (stageInputs sha256 plan answers source config sourceSha256 configSha256).run h =
      .ok () (stagedHost plan source config h) := by
  have hne := ObserverServicePlan.binary_ne_config hvalid
  have hc' : CanStage answers.configStage plan.config (h.put plan.binary
      (some { content := source, uid := 0, mode := 0o755, nlink := 1 })) := by
    refine ⟨?_, hc.2⟩
    rw [put_files_of_ne hne.symm]
    exact hc.1
  unfold stageInputs
  rw [bind_ok (stageVerifiedBytes_of_canStage binaryMode hsource hb), attempt_bind,
    stageVerifiedBytes_of_canStage configMode hconfig hc']
  rfl

/-- A configuration that cannot be staged takes the binary with it. -/
theorem stageInputs_fails (hvalid : plan.validate = .ok ())
    (hsource : sha256 source = sourceSha256)
    (hboth : ¬ (CanStage answers.binaryStage plan.binary h ∧
      CanStage answers.configStage plan.config h)) :
    Fails (· = h)
      (stageInputs sha256 plan answers source config sourceSha256 configSha256) h := by
  have hne := ObserverServicePlan.binary_ne_config hvalid
  unfold stageInputs
  by_cases hb : CanStage answers.binaryStage plan.binary h
  swap
  · exact fails_bind (stageVerifiedBytes_fails binaryMode hb)
  apply fails_after (stageVerifiedBytes_of_canStage binaryMode hsource hb)
  -- the binary was staged, so it is the configuration that cannot be
  have hc : ¬ CanStage answers.configStage plan.config (h.put plan.binary
      (some { content := source, uid := 0, mode := 0o755, nlink := 1 })) := by
    intro hc
    refine hboth ⟨hb, ?_, hc.2⟩
    rw [← put_files_of_ne hne.symm]
    exact hc.1
  obtain ⟨e, _, he, rfl⟩ : Fails (· = h.put plan.binary _)
      (stageVerifiedBytes sha256 answers.configStage plan.config config 0o644 0 configSha256) _ :=
    stageVerifiedBytes_fails configMode hc
  refine ⟨e, h, ?_, rfl⟩
  rw [attempt_bind, he]
  show (attempt (removeStagedInput sha256 plan.binary stagedBinaryLead 0 0o755 sourceSha256) >>=
    fun _ => throw e).run _ = _
  rw [attempt_bind, final_error,
    removeStagedInput_of_staged (ObserverServicePlan.isStagedInput_binary hvalid) binaryMode hsource
      put_files_self, final_ok, put_put, put_none hb.1]
  rfl

theorem cleanupPaths_stagedHost (hvalid : plan.validate = .ok ())
    (hsource : sha256 source = sourceSha256) (hconfig : sha256 config = configSha256)
    (hb : h.files plan.binary.components = none) (hc : h.files plan.config.components = none) :
    (cleanupPaths sha256 plan sourceSha256 configSha256).run (stagedHost plan source config h) =
      .ok (.ok (), .ok ()) h := by
  have hne := ObserverServicePlan.binary_ne_config hvalid
  -- the configuration goes first, then the binary
  have hconfigGone : (stagedHost plan source config h).put plan.config none =
      h.put plan.binary (some { content := source, uid := 0, mode := 0o755, nlink := 1 }) := by
    unfold stagedHost
    rw [put_put, put_none]
    rw [put_files_of_ne hne.symm]
    exact hc
  unfold cleanupPaths
  rw [attempt_bind,
    removeStagedInput_of_staged (ObserverServicePlan.isStagedInput_config hvalid) configMode hconfig
      stagedHost_config, final_ok, hconfigGone, attempt_bind,
    removeStagedInput_of_staged (ObserverServicePlan.isStagedInput_binary hvalid) binaryMode hsource
      put_files_self, final_ok, put_put, put_none hb]
  rfl

end Both

/-! ## §3 The clean-up -/

/-- What the stop and the wait of one clean-up come to. -/
structure TearDown where
  stopped : Except String Unit
  absence : Except String Unit
  unit : ServiceUnit

/-- The stop is tried, and then the wait, whatever the stop has returned. -/
def tearDown (answers : ObserverAnswers) (u : ServiceUnit) : TearDown :=
  let stopped := (stop answers.stop).run u
  let absence := (waitAbsent answers.polls).run (final stopped)
  { stopped := result stopped, absence := result absence, unit := final absence }

/-- The stop and the wait both succeed. -/
def TearDown.Succeeds (t : TearDown) : Prop := t.stopped = .ok () ∧ t.absence = .ok ()

section Cleanup

variable {sha256 : List UInt8 → String} {plan : ObserverServicePlan} {answers : ObserverAnswers}
  {sourceSha256 configSha256 : String} {h : ObserverHost} {source config : List UInt8}
  {u : ServiceUnit}

theorem attempt_onUnit_bind {α β : Type} {x : Backend α} {g : Except String α → Exec β} :
    (attempt (onUnit x) >>= g).run h =
      (g (result (x.run h.unit))).run { h with unit := final (x.run h.unit) } := by
  rw [attempt_bind]
  unfold onUnit
  rw [result_zoom, final_zoom]

/-- Behind a stop and a wait that succeed, the staged files are removed. -/
theorem cleanupStartedObserver_of_succeeds (hvalid : plan.validate = .ok ())
    (hsource : sha256 source = sourceSha256) (hconfig : sha256 config = configSha256)
    (hb : h.files plan.binary.components = none) (hc : h.files plan.config.components = none)
    (hdown : (tearDown answers u).Succeeds) :
    (cleanupStartedObserver sha256 plan answers sourceSha256 configSha256).run
        (stagedHost plan source config { h with unit := u }) =
      .ok () { h with unit := (tearDown answers u).unit } := by
  obtain ⟨hstopped, habsence⟩ := hdown
  have hpaths : (cleanupPaths sha256 plan sourceSha256 configSha256).run
      (stagedHost plan source config { h with unit := (tearDown answers u).unit }) =
        .ok (.ok (), .ok ()) { h with unit := (tearDown answers u).unit } :=
    cleanupPaths_stagedHost hvalid hsource hconfig hb hc
  unfold cleanupStartedObserver
  -- what the two calls to the manager come to is what `tearDown` says
  rw [attempt_onUnit_bind, attempt_onUnit_bind]
  show (ofResult (Except.mapError _ (tearDown answers u).stopped) >>= fun _ =>
    ofResult (Except.mapError _ (tearDown answers u).absence) >>= _).run
      (stagedHost plan source config { h with unit := (tearDown answers u).unit }) = _
  rw [hstopped, bind_ok run_mapError_ok, habsence, bind_ok run_mapError_ok, bind_ok hpaths]
  rfl

/-- Otherwise both files stay. -/
theorem cleanupStartedObserver_fails (hdown : ¬ (tearDown answers u).Succeeds) :
    Fails (· = stagedHost plan source config { h with unit := (tearDown answers u).unit })
      (cleanupStartedObserver sha256 plan answers sourceSha256 configSha256)
      (stagedHost plan source config { h with unit := u }) := by
  unfold cleanupStartedObserver Fails
  rw [attempt_onUnit_bind, attempt_onUnit_bind]
  show Fails (· = stagedHost plan source config { h with unit := (tearDown answers u).unit })
    (ofResult (Except.mapError _ (tearDown answers u).stopped) >>= fun _ =>
      ofResult (Except.mapError _ (tearDown answers u).absence) >>= _)
    (stagedHost plan source config { h with unit := (tearDown answers u).unit })
  cases hstopped : (tearDown answers u).stopped with
  | error e => exact fails_bind ⟨_, _, run_mapError_error, rfl⟩
  | ok v =>
  apply fails_after run_mapError_ok
  cases habsence : (tearDown answers u).absence with
  | error e => exact fails_bind ⟨_, _, run_mapError_error, rfl⟩
  | ok v => exact absurd ⟨hstopped, habsence⟩ hdown

end Cleanup

/-! ## §4 The start -/

/-- Nothing that a start has made is left: the files are those from before, and the unit that was
    started is gone. -/
def LeavesNothing (before after : ObserverHost) : Prop :=
  after.files = before.files ∧ after.unit ≠ .owned

/-- The unit after the start, whether it has succeeded or not. -/
def unitAfterStart (answers : ObserverAnswers) (u : ServiceUnit) : ServiceUnit :=
  final ((start answers.start).run u)

/-- The service comes up, as declared, and writes its first sample. -/
def Completes (answers : ObserverAnswers) (u : ServiceUnit) (state : ObserverServiceState) : Prop :=
  result ((start answers.start).run u) = .ok state ∧ answers.declared = none ∧ answers.ready = none

/-- The stop and the wait succeed, and the unit is really gone. -/
def Gone (answers : ObserverAnswers) (u : ServiceUnit) : Prop :=
  (tearDown answers u).Succeeds ∧ (tearDown answers u).unit ≠ .owned

section Start

variable {sha256 : List UInt8 → String} {plan : ObserverServicePlan} {answers : ObserverAnswers}
  {sourceSha256 configSha256 : String} {h : ObserverHost} {source config : List UInt8}
  {u : ServiceUnit}

theorem stagedHost_files_ne (hvalid : plan.validate = .ok ())
    (hb : h.files plan.binary.components = none) {u : ServiceUnit} :
    (stagedHost plan source config { h with unit := u }).files ≠ h.files := by
  intro heq
  have hstaged : (stagedHost plan source config { h with unit := u }).files plan.binary.components =
      some _ := stagedHost_binary hvalid
  rw [heq, hb] at hstaged
  cases hstaged

/-- A clean-up leaves nothing exactly when the stop and the wait succeed and the unit is gone. -/
theorem leavesNothing_cleanup_iff (hvalid : plan.validate = .ok ())
    (hsource : sha256 source = sourceSha256) (hconfig : sha256 config = configSha256)
    (hb : h.files plan.binary.components = none) (hc : h.files plan.config.components = none) :
    LeavesNothing h (final
        ((cleanupStartedObserver sha256 plan answers sourceSha256 configSha256).run
          (stagedHost plan source config { h with unit := u }))) ↔ Gone answers u := by
  by_cases hdown : (tearDown answers u).Succeeds
  · rw [cleanupStartedObserver_of_succeeds hvalid hsource hconfig hb hc hdown]
    exact ⟨fun hleft => ⟨hdown, hleft.2⟩, fun hgone => ⟨rfl, hgone.2⟩⟩
  · obtain ⟨e, h', he, hh'⟩ : Fails (· = stagedHost plan source config
          { h with unit := (tearDown answers u).unit })
        (cleanupStartedObserver sha256 plan answers sourceSha256 configSha256)
        (stagedHost plan source config { h with unit := u }) := cleanupStartedObserver_fails hdown
    rw [he, hh', final_error]
    exact ⟨fun hleft => absurd hleft.1 (stagedHost_files_ne hvalid hb),
      fun hgone => absurd hgone.1 hdown⟩

theorem failCleaned_run {α : Type} {error : String} :
    ∃ e, (failCleaned (α := α) sha256 plan answers sourceSha256 configSha256 error).run h =
      .error e (final
        ((cleanupStartedObserver sha256 plan answers sourceSha256 configSha256).run h)) := by
  unfold failCleaned
  rw [attempt_bind]
  cases result ((cleanupStartedObserver sha256 plan answers sourceSha256 configSha256).run h) with
  | ok v => exact ⟨error, rfl⟩
  | error failure => exact ⟨error ++ "; cleanup failure: " ++ failure, rfl⟩

theorem startService_of_completes {state : ObserverServiceState}
    (hstate : Completes answers h.unit state) :
    (startService sha256 plan answers sourceSha256 configSha256).run h =
      .ok { plan, state, sourceSha256, configSha256 }
        { h with unit := unitAfterStart answers h.unit } := by
  obtain ⟨hstart, hdeclared, hready⟩ := hstate
  unfold startService
  rw [attempt_onUnit_bind, hstart, hdeclared, hready]
  rfl

theorem startService_of_not_completes (hnot : ¬ ∃ state, Completes answers h.unit state) :
    ∃ e, (startService sha256 plan answers sourceSha256 configSha256).run h =
      .error e (final
        ((cleanupStartedObserver sha256 plan answers sourceSha256 configSha256).run
          { h with unit := unitAfterStart answers h.unit })) := by
  unfold startService
  rw [attempt_onUnit_bind]
  cases hstart : result ((start answers.start).run h.unit) with
  -- each of the three errors is followed by the same clean-up
  | error e => exact failCleaned_run
  | ok state =>
  cases hdeclared : answers.declared with
  | some e => exact failCleaned_run
  | none =>
  cases hready : answers.ready with
  | some e => exact failCleaned_run
  | none => exact absurd ⟨state, hstart, hdeclared, hready⟩ hnot

/-- A start that does not stage both files leaves the host as it was. -/
theorem startPerformanceObserver_fails
    (hnot : ¬ StagesBoth sha256 plan answers sourceSha256 configSha256 h) :
    Fails (· = h) (startPerformanceObserver sha256 plan answers sourceSha256 configSha256) h := by
  unfold startPerformanceObserver
  by_cases ha : InputsAccepted sha256 plan answers sourceSha256 configSha256
  swap
  · exact fails_bind (readInputs_fails ha)
  obtain ⟨source, config, hsource, -, hread⟩ := readInputs_of_accepted (h := h) ha
  have hboth : ¬ (CanStage answers.binaryStage plan.binary h ∧
      CanStage answers.configStage plan.config h) := fun hboth => hnot ⟨ha, hboth.1, hboth.2⟩
  apply fails_after hread
  exact fails_bind (stageInputs_fails ha.valid hsource hboth)

/-- A start that stages both files goes on to the service manager with them. -/
theorem startPerformanceObserver_of_staged
    (hstaged : StagesBoth sha256 plan answers sourceSha256 configSha256 h) :
    ∃ source config, sha256 source = sourceSha256 ∧ sha256 config = configSha256 ∧
      (startPerformanceObserver sha256 plan answers sourceSha256 configSha256).run h =
        (failWith answers.connection >>= fun _ => failWith answers.preflight >>= fun _ =>
          startService sha256 plan answers sourceSha256 configSha256).run
            (stagedHost plan source config h) := by
  obtain ⟨ha, hb, hc⟩ := hstaged
  obtain ⟨source, config, hsource, hconfig, hread⟩ := readInputs_of_accepted (h := h) ha
  refine ⟨source, config, hsource, hconfig, ?_⟩
  unfold startPerformanceObserver
  rw [bind_ok hread]
  exact bind_ok (stageInputs_of_canStage ha.valid hsource hconfig hb hc)

/-- With both files staged, a start ends in one of three ways. -/
theorem startPerformanceObserver_staged_cases
    (hstaged : StagesBoth sha256 plan answers sourceSha256 configSha256 h) :
    ∃ source config, sha256 source = sourceSha256 ∧ sha256 config = configSha256 ∧
      let run := (startPerformanceObserver sha256 plan answers sourceSha256 configSha256).run h
      let reached := stagedHost plan source config { h with unit := unitAfterStart answers h.unit }
      -- no service manager: the files are forgotten
      ((¬ (answers.connection = none ∧ answers.preflight = none) ∧
          ∃ e, run = .error e (stagedHost plan source config h)) ∨
        -- a service that is up
        ((answers.connection = none ∧ answers.preflight = none) ∧
          ∃ state, Completes answers h.unit state ∧
            run = .ok { plan, state, sourceSha256, configSha256 } reached) ∨
        -- a service that is not, and the clean-up after it
        ((answers.connection = none ∧ answers.preflight = none) ∧
          (¬ ∃ state, Completes answers h.unit state) ∧
          ∃ e, run = .error e (final
            ((cleanupStartedObserver sha256 plan answers sourceSha256 configSha256).run
              reached)))) := by
  obtain ⟨source, config, hsource, hconfig, hrun⟩ := startPerformanceObserver_of_staged hstaged
  refine ⟨source, config, hsource, hconfig, ?_⟩
  simp only [hrun]
  cases hconnection : answers.connection with
  | some e => exact .inl ⟨by simp, e, bind_error run_failWith_some⟩
  | none =>
  rw [bind_ok run_failWith_none]
  cases hpreflight : answers.preflight with
  | some e => exact .inl ⟨by simp, e, bind_error run_failWith_some⟩
  | none =>
  rw [bind_ok run_failWith_none]
  right
  by_cases hcomplete : ∃ state, Completes answers h.unit state
  · obtain ⟨state, hstate⟩ := hcomplete
    exact .inl ⟨⟨rfl, rfl⟩, state, hstate,
      startService_of_completes (h := stagedHost plan source config h) hstate⟩
  · exact .inr ⟨⟨rfl, rfl⟩, hcomplete,
      startService_of_not_completes (h := stagedHost plan source config h) hcomplete⟩

end Start

/-! ## §5 All or nothing -/

/-- A procedure that returns an error leaves nothing behind. -/
def FailsClean {α : Type} (x : Exec α) (h : ObserverHost) : Prop :=
  ∀ e h', x.run h = .error e h' → LeavesNothing h h'

section AllOrNothing

variable (sha256 : List UInt8 → String) (plan : ObserverServicePlan) (answers : ObserverAnswers)
  (sourceSha256 configSha256 : String) (h : ObserverHost)

/-- Once both files are staged, the service manager is there, and either the service comes up or
    the stop and the wait after it succeed and the unit is gone. -/
def StartCleansUp : Prop :=
  StagesBoth sha256 plan answers sourceSha256 configSha256 h →
    (answers.connection = none ∧ answers.preflight = none) ∧
      ((∃ state, Completes answers h.unit state) ∨
        Gone answers (unitAfterStart answers h.unit))

/-- A service that comes up in the worker's group is torn down completely, and of any other one
    the processor time can be read. -/
def AdoptionCleansUp (workerControlGroup : String) : Prop :=
  StagesBoth sha256 plan answers sourceSha256 configSha256 h →
    ∀ state, Completes answers h.unit state →
      if state.controlGroup = workerControlGroup then Gone answers (unitAfterStart answers h.unit)
      else answers.cpuTicks ≠ none

variable {sha256 plan answers sourceSha256 configSha256 h}

theorem failsClean_startPerformanceObserver_iff (hunit : h.unit ≠ .owned) :
    FailsClean (startPerformanceObserver sha256 plan answers sourceSha256 configSha256) h ↔
      StartCleansUp sha256 plan answers sourceSha256 configSha256 h := by
  by_cases hstaged : StagesBoth sha256 plan answers sourceSha256 configSha256 h
  swap
  · obtain ⟨e, _, he, rfl⟩ := startPerformanceObserver_fails hstaged
    refine ⟨fun _ hboth => absurd hboth hstaged, fun _ e' h' hrun => ?_⟩
    rw [he] at hrun
    cases hrun
    exact ⟨rfl, hunit⟩
  have hvalid := hstaged.accepted.valid
  have hb := hstaged.binary.1
  have hc := hstaged.config.1
  obtain ⟨source, config, hsource, hconfig, hcases⟩ :=
    startPerformanceObserver_staged_cases hstaged
  -- only the last of the three ends depends on the clean-up
  rcases hcases with ⟨hbus, e, hrun⟩ | ⟨hbus, state, hstate, hrun⟩ | ⟨hbus, hnot, e, hrun⟩
  · constructor
    · intro hclean
      exact absurd (hclean e _ hrun).1 (stagedHost_files_ne (u := h.unit) hvalid hb)
    · intro hcond
      exact absurd (hcond hstaged).1 hbus
  · constructor
    · intro _ _
      exact ⟨hbus, .inl ⟨state, hstate⟩⟩
    · intro _ e' h' herror
      rw [hrun] at herror
      cases herror
  · have hiff : LeavesNothing h (final
          ((cleanupStartedObserver sha256 plan answers sourceSha256 configSha256).run
            (stagedHost plan source config { h with unit := unitAfterStart answers h.unit }))) ↔
        Gone answers (unitAfterStart answers h.unit) :=
      leavesNothing_cleanup_iff hvalid hsource hconfig hb hc
    constructor
    · intro hclean _
      exact ⟨hbus, .inr (hiff.1 (hclean e _ hrun))⟩
    · intro hcond e' h' herror
      rw [hrun] at herror
      cases herror
      exact hiff.2 ((hcond hstaged).2.resolve_left hnot)

/-- What the harness leaves of a started observer that it does not adopt. -/
theorem failsClean_adoptObserver_iff {state : ObserverServiceState} {group : String}
    {source config : List UInt8} {u : ServiceUnit} (hvalid : plan.validate = .ok ())
    (hsource : sha256 source = sourceSha256) (hconfig : sha256 config = configSha256)
    (hb : h.files plan.binary.components = none) (hc : h.files plan.config.components = none) :
    (∀ e h', (adoptObserver sha256 { plan, state, sourceSha256, configSha256 } group answers).run
        (stagedHost plan source config { h with unit := u }) = .error e h' → LeavesNothing h h') ↔
      if state.controlGroup = group then Gone answers u else answers.cpuTicks ≠ none := by
  unfold adoptObserver
  by_cases hgroup : state.controlGroup = group
  · simp only [hgroup, if_true]
    rw [attempt_bind]
    have hiff : LeavesNothing h (final
          ((cleanupStartedObserver sha256 plan answers sourceSha256 configSha256).run
            (stagedHost plan source config { h with unit := u }))) ↔ Gone answers u :=
      leavesNothing_cleanup_iff hvalid hsource hconfig hb hc
    constructor
    · intro hclean
      exact hiff.1 (hclean _ _ rfl)
    · intro hgone e h' hrun
      cases hrun
      exact hiff.2 hgone
  · simp only [hgroup, if_false]
    cases hticks : answers.cpuTicks with
    -- the error of the harness comes without a clean-up
    | none =>
      constructor
      · intro hclean
        exact absurd (hclean _ _ rfl).1 (stagedHost_files_ne hvalid hb)
      · intro hne
        exact absurd rfl hne
    | some ticks =>
      constructor
      · intro _ hnone
        cases hnone
      · intro _ e h' hrun
        cases hrun

/-- A start that succeeds has staged both files, found the service manager and brought the service
    up. -/
theorem startPerformanceObserver_ok {handle : PerformanceObserverHandle} {h' : ObserverHost}
    (hrun : (startPerformanceObserver sha256 plan answers sourceSha256 configSha256).run h =
      .ok handle h') :
    StagesBoth sha256 plan answers sourceSha256 configSha256 h ∧
      ∃ source config state, sha256 source = sourceSha256 ∧ sha256 config = configSha256 ∧
        Completes answers h.unit state ∧ handle = { plan, state, sourceSha256, configSha256 } ∧
        h' = stagedHost plan source config { h with unit := unitAfterStart answers h.unit } := by
  by_cases hstaged : StagesBoth sha256 plan answers sourceSha256 configSha256 h
  swap
  · obtain ⟨e, _, he, -⟩ := startPerformanceObserver_fails hstaged
    rw [he] at hrun
    cases hrun
  refine ⟨hstaged, ?_⟩
  obtain ⟨source, config, hsource, hconfig, hcases⟩ :=
    startPerformanceObserver_staged_cases hstaged
  rcases hcases with ⟨-, e, he⟩ | ⟨-, state, hstate, hok⟩ | ⟨-, -, e, he⟩
  · rw [he] at hrun
    cases hrun
  · rw [hok] at hrun
    cases hrun
    exact ⟨source, config, state, hsource, hconfig, hstate, rfl, rfl⟩
  · rw [he] at hrun
    cases hrun

/-- A sequence fails clean when its first part does, and its second part does after the first. -/
theorem failsClean_bind_iff {α β : Type} {x : Exec α} {f : α → Exec β} :
    FailsClean (x >>= f) h ↔
      FailsClean x h ∧ ∀ a h', x.run h = .ok a h' →
        ∀ e h'', (f a).run h' = .error e h'' → LeavesNothing h h'' := by
  constructor
  · intro hclean
    refine ⟨fun e h' hrun => hclean e h' (bind_error hrun), fun a h' hrun e h'' herror => ?_⟩
    exact hclean e h'' ((bind_ok hrun).trans herror)
  · rintro ⟨hfirst, hsecond⟩ e h' hrun
    cases hx : x.run h with
    | ok a h₁ =>
      rw [bind_ok hx] at hrun
      exact hsecond a h₁ hx e h' hrun
    | error e₁ h₁ =>
      rw [bind_error hx] at hrun
      cases hrun
      exact hfirst _ _ hx

theorem failsClean_adoption_iff {group : String}
    (hstart : StartCleansUp sha256 plan answers sourceSha256 configSha256 h) :
    (∀ handle h', (startPerformanceObserver sha256 plan answers sourceSha256 configSha256).run h =
        .ok handle h' → ∀ e h'', (adoptObserver sha256 handle group answers).run h' = .error e h'' →
          LeavesNothing h h'') ↔
      AdoptionCleansUp sha256 plan answers sourceSha256 configSha256 h group := by
  constructor
  · intro hadopt hstaged state hstate
    obtain ⟨source, config, hsource, hconfig, hcases⟩ :=
      startPerformanceObserver_staged_cases hstaged
    -- a service that comes up is handed over, so its state is the one asked about
    rcases hcases with ⟨hbus, -⟩ | ⟨-, state', hstate', hok⟩ | ⟨-, hnot, -⟩
    · exact absurd (hstart hstaged).1 hbus
    · obtain rfl : state = state' := Except.ok.inj (hstate.1.symm.trans hstate'.1)
      exact (failsClean_adoptObserver_iff hstaged.accepted.valid hsource hconfig hstaged.binary.1
        hstaged.config.1).1 (hadopt _ _ hok)
    · exact absurd ⟨state, hstate⟩ hnot
  · intro hcond handle h' hrun
    obtain ⟨hstaged, source, config, state, hsource, hconfig, hstate, rfl, rfl⟩ :=
      startPerformanceObserver_ok hrun
    exact (failsClean_adoptObserver_iff hstaged.accepted.valid hsource hconfig hstaged.binary.1
      hstaged.config.1).2 (hcond hstaged state hstate)

theorem failsClean_startObserver_iff {launch : ObserverLaunch} {group : String}
    {measurementMs : UInt64} (hunit : h.unit ≠ .owned) :
    FailsClean (startObserver sha256 launch group measurementMs answers) h ↔
      (measurementMs < checkpoint3aMinMeasurementMs ∨
        StartCleansUp sha256 launch.servicePlan answers launch.binarySha256 launch.configHash h ∧
          AdoptionCleansUp sha256 launch.servicePlan answers launch.binarySha256 launch.configHash h
            group) := by
  by_cases hms : measurementMs < checkpoint3aMinMeasurementMs
  · refine ⟨fun _ => .inl hms, fun _ e h' hrun => ?_⟩
    -- refused before anything is staged
    unfold startObserver at hrun
    rw [bind_error (run_refuse hms)] at hrun
    cases hrun
    exact ⟨rfl, hunit⟩
  · have hrest : FailsClean (startObserver sha256 launch group measurementMs answers) h ↔
        FailsClean (startPerformanceObserver sha256 launch.servicePlan answers launch.binarySha256
          launch.configHash >>= fun handle => adoptObserver sha256 handle group answers) h := by
      unfold FailsClean startObserver
      rw [bind_ok (run_refuse_not hms)]
    rw [hrest, failsClean_bind_iff, failsClean_startPerformanceObserver_iff hunit,
      or_iff_right hms]
    exact and_congr_right fun hstart => failsClean_adoption_iff hstart

/-- A clean-up of a started observer whose unit ends up absent leaves no staged file exactly when
    the stop and the wait have succeeded. -/
theorem stopAndCleanup_removes_iff {handle : PerformanceObserverHandle} {h' : ObserverHost}
    (hrun : (startPerformanceObserver sha256 plan answers sourceSha256 configSha256).run h =
      .ok handle h') (later : ObserverAnswers) (u : ServiceUnit) :
    let after := final ((handle.stopAndCleanup sha256 later).run { h' with unit := u })
    (after.unit = .absent → after.files plan.binary.components = none ∧
        after.files plan.config.components = none) ↔
      ((tearDown later u).unit = .absent → (tearDown later u).Succeeds) := by
  obtain ⟨hstaged, source, config, state, hsource, hconfig, -, rfl, rfl⟩ :=
    startPerformanceObserver_ok hrun
  have hvalid := hstaged.accepted.valid
  intro after
  by_cases hdown : (tearDown later u).Succeeds
  · -- the unit is gone: both files are removed
    have hafter : after = { h with unit := (tearDown later u).unit } :=
      congrArg final (cleanupStartedObserver_of_succeeds (h := h) hvalid hsource hconfig
        hstaged.binary.1 hstaged.config.1 hdown)
    rw [hafter]
    exact ⟨fun _ _ => hdown, fun _ _ => ⟨hstaged.binary.1, hstaged.config.1⟩⟩
  · -- the unit may still run: the files stay where they are
    obtain ⟨e, h', he, hh'⟩ : Fails (· = stagedHost plan source config
          { h with unit := (tearDown later u).unit })
        (cleanupStartedObserver sha256 plan later sourceSha256 configSha256)
        (stagedHost plan source config { h with unit := u }) := cleanupStartedObserver_fails hdown
    have hafter : after =
        stagedHost plan source config { h with unit := (tearDown later u).unit } :=
      (congrArg final he).trans hh'
    rw [hafter]
    constructor
    · intro hremoved habsent
      have hbinary := (hremoved habsent).1
      rw [stagedHost_binary hvalid] at hbinary
      cases hbinary
    · intro hcond habsent
      exact absurd (hcond habsent) hdown

end AllOrNothing

/-- A host before a start: any files, and possibly a unit of the plan's name. -/
def hostBefore (files : List Component → Option StagedFile) (loaded : Bool) : ObserverHost where
  files := files
  unit := if loaded then .foreign else .absent

/-- For every plan, every host and every pattern of answers: the start fails clean, the start of
    the harness does, and a later clean-up removes the files of an absent unit, each exactly on the
    stated condition. -/
theorem observer_start_all_or_nothing_iff (sha256 : List UInt8 → String) (launch : ObserverLaunch)
    (group : String) (measurementMs : UInt64) (answers : ObserverAnswers)
    (files : List Component → Option StagedFile) (loaded : Bool) :
    let plan := launch.servicePlan
    let h := hostBefore files loaded
    let start := startPerformanceObserver sha256 plan answers launch.binarySha256 launch.configHash
    (FailsClean start h ↔
      StartCleansUp sha256 plan answers launch.binarySha256 launch.configHash h) ∧
    (FailsClean (startObserver sha256 launch group measurementMs answers) h ↔
      (measurementMs < checkpoint3aMinMeasurementMs ∨
        StartCleansUp sha256 plan answers launch.binarySha256 launch.configHash h ∧
          AdoptionCleansUp sha256 plan answers launch.binarySha256 launch.configHash h group)) ∧
    (∀ handle h', start.run h = .ok handle h' → ∀ later u,
      let after := final ((handle.stopAndCleanup sha256 later).run { h' with unit := u })
      (after.unit = .absent → after.files plan.binary.components = none ∧
          after.files plan.config.components = none) ↔
        ((tearDown later u).unit = .absent → (tearDown later u).Succeeds)) := by
  intro plan h start
  have hunit : h.unit ≠ .owned := by
    cases loaded with
    | false => exact nofun
    | true => exact nofun
  refine ⟨failsClean_startPerformanceObserver_iff hunit, failsClean_startObserver_iff hunit, ?_⟩
  intro handle h' hrun later u
  exact stopAndCleanup_removes_iff hrun later u

/-- A launch of one run. -/
def sampleLaunch : ObserverLaunch where
  servicePlan := {
    unitName := "nemor-benchmark-observer-a1.service"
    binary := ⟨"/run/nemor-benchmark-observer-bin-a1"⟩
    serviceBinary := ⟨"/run/nemor-benchmark-observer-a1/nemord"⟩
    config := ⟨"/run/nemor-benchmark-observer-config-a1.toml"⟩
    serviceConfig := ⟨"/run/nemor-benchmark-observer-a1/observer.toml"⟩
    database := ⟨"/run/nemor-benchmark-observer-a1/nemor-observer.sqlite"⟩
    runtimeDirectory := "nemor-benchmark-observer-a1"
    runtimeMaxUsec := 60000000
    timeoutStartUsec := 5000000
    timeoutStopUsec := 5000000 }
  binarySha256 := "ca978112ca1bbdcafac231b39a23dc4da786eff8147c4e72b9807785afee48bb"
  configHash := "ca978112ca1bbdcafac231b39a23dc4da786eff8147c4e72b9807785afee48bb"

/-- Answers without an error: the service comes up, is stopped again and goes away. -/
def sampleAnswers : ObserverAnswers where
  root := true
  source := .ok [0x61]
  config := .ok [0x61]
  binaryStage := ⟨none, none, none, none, none, none⟩
  configStage := ⟨none, none, none, none, none, none⟩
  connection := none
  preflight := none
  start := {
    existing := .answered
    job := .accepted true none
    settled := .ok { mainPid := 4242, startTicks := 99, controlGroup := "/system.slice/o.service" } }
  declared := none
  ready := none
  stop := { existing := .answered, job := .accepted false none }
  polls := [{ unloaded := false, existing := .answered, runtimeDirectory := false }]
  cpuTicks := some 3

/-- The digest of the one-byte input `a`. -/
def sampleSha256 : List UInt8 → String :=
  fun _ => "ca978112ca1bbdcafac231b39a23dc4da786eff8147c4e72b9807785afee48bb"

/-- The sample stages both files, whatever the service manager does later. -/
theorem sample_stagesBoth {answers : ObserverAnswers} (hroot : answers.root = true)
    (hsource : answers.source = .ok [0x61]) (hconfig : answers.config = .ok [0x61])
    (hb : answers.binaryStage = sampleAnswers.binaryStage)
    (hc : answers.configStage = sampleAnswers.configStage) :
    StagesBoth sampleSha256 sampleLaunch.servicePlan answers sampleLaunch.binarySha256
      sampleLaunch.configHash (hostBefore (fun _ => none) false) where
  accepted := {
    root := hroot
    source := ⟨_, hsource, rfl⟩
    valid := by decide +kernel
    runtimeMax := by decide
    config := ⟨_, hconfig, rfl⟩ }
  binary := by
    rw [hb]
    exact ⟨rfl, rfl, rfl⟩
  config := by
    rw [hc]
    exact ⟨rfl, rfl, rfl⟩

theorem sample_start_ok :
    ∃ handle h', (startPerformanceObserver sampleSha256 sampleLaunch.servicePlan sampleAnswers
      sampleLaunch.binarySha256 sampleLaunch.configHash).run (hostBefore (fun _ => none) false) =
        .ok handle h' := by
  obtain ⟨source, config, -, -, hcases⟩ :=
    startPerformanceObserver_staged_cases (sample_stagesBoth rfl rfl rfl rfl rfl)
  rcases hcases with ⟨hbus, -⟩ | ⟨-, state, -, hok⟩ | ⟨-, hnot, -⟩
  · exact absurd ⟨rfl, rfl⟩ hbus
  · exact ⟨_, _, hok⟩
  · exact absurd ⟨_, rfl, rfl, rfl⟩ hnot

/-- A host with nothing of the sample on it. -/
def emptyHost : ObserverHost := hostBefore (fun _ => none) false

/-- The service comes up and does not get ready. -/
def unreadyAnswers : ObserverAnswers := { sampleAnswers with ready := some "observer is not ready" }

/-- A start whose service does not get ready fails and leaves nothing; one whose service comes up
    in the group of the worker leaves nothing; and an observer that was started is stopped again,
    and its files are gone. -/
theorem sample_start_all_or_nothing :
    Fails (LeavesNothing emptyHost) (startPerformanceObserver sampleSha256 sampleLaunch.servicePlan
        unreadyAnswers sampleLaunch.binarySha256 sampleLaunch.configHash) emptyHost ∧
    FailsClean (startObserver sampleSha256 sampleLaunch "/system.slice/o.service" 20000
        sampleAnswers) emptyHost ∧
    ∃ handle h', (startPerformanceObserver sampleSha256 sampleLaunch.servicePlan sampleAnswers
        sampleLaunch.binarySha256 sampleLaunch.configHash).run emptyHost = .ok handle h' ∧
      let after := final ((handle.stopAndCleanup sampleSha256 sampleAnswers).run
        { h' with unit := .owned })
      after.unit = .absent → after.files sampleLaunch.servicePlan.binary.components = none ∧
        after.files sampleLaunch.servicePlan.config.components = none := by
  refine ⟨?_, ?_, ?_⟩
  · have hclean := (observer_start_all_or_nothing_iff sampleSha256 sampleLaunch "/worker.scope"
      20000 unreadyAnswers (fun _ => none) false).1.2 fun _ => ⟨⟨rfl, rfl⟩, .inr ⟨⟨rfl, rfl⟩, nofun⟩⟩
    obtain ⟨source, config, -, -, hcases⟩ := startPerformanceObserver_staged_cases
      (@sample_stagesBoth unreadyAnswers rfl rfl rfl rfl rfl)
    rcases hcases with ⟨hbus, -⟩ | ⟨-, state, hcompletes, -⟩ | ⟨-, -, e, hrun⟩
    · exact absurd ⟨rfl, rfl⟩ hbus
    · cases hcompletes.2.2
    · exact ⟨e, _, hrun, hclean e _ hrun⟩
  · refine (observer_start_all_or_nothing_iff sampleSha256 sampleLaunch "/system.slice/o.service"
      20000 sampleAnswers (fun _ => none) false).2.1.2 (.inr ⟨fun _ => ⟨⟨rfl, rfl⟩, .inl ?_⟩, ?_⟩)
    · exact ⟨_, rfl, rfl, rfl⟩
    · rintro - state ⟨hstate, -, -⟩
      cases hstate
      rw [if_pos rfl]
      exact ⟨⟨rfl, rfl⟩, nofun⟩
  · obtain ⟨handle, h', hrun⟩ := sample_start_ok
    refine ⟨handle, h', hrun, ?_⟩
    have hiff := (observer_start_all_or_nothing_iff sampleSha256 sampleLaunch "/worker.scope" 20000
      sampleAnswers (fun _ => none) false).2.2 handle h' hrun sampleAnswers .owned
    exact hiff.2 fun _ => ⟨rfl, rfl⟩

/-- Without a bus connection both staged files stay behind; without the processor time of the
    observer they stay and the service runs on; and a stop that is refused keeps them although the
    unit has gone. -/
theorem staged_inputs_left_behind :
    ¬ FailsClean (startPerformanceObserver sampleSha256 sampleLaunch.servicePlan
        { sampleAnswers with connection := some "connection refused" } sampleLaunch.binarySha256
        sampleLaunch.configHash) (hostBefore (fun _ => none) false) ∧
    ¬ FailsClean (startObserver sampleSha256 sampleLaunch "/worker.scope" 20000
        { sampleAnswers with cpuTicks := none }) (hostBefore (fun _ => none) false) ∧
    ∃ handle h', (startPerformanceObserver sampleSha256 sampleLaunch.servicePlan sampleAnswers
        sampleLaunch.binarySha256 sampleLaunch.configHash).run
          (hostBefore (fun _ => none) false) = .ok handle h' ∧
      let after := final ((handle.stopAndCleanup sampleSha256
        { sampleAnswers with
          stop := { existing := .answered, job := .refused "job timed out" }
          polls := [{ unloaded := true, existing := .answered, runtimeDirectory := false }] }).run
        { h' with unit := .owned })
      ¬ (after.unit = .absent → after.files sampleLaunch.servicePlan.binary.components = none ∧
        after.files sampleLaunch.servicePlan.config.components = none) := by
  have hunit : (hostBefore (fun _ => none) false).unit ≠ .owned := nofun
  refine ⟨?_, ?_, ?_⟩
  · rw [failsClean_startPerformanceObserver_iff hunit]
    intro hcond
    have hbus := (hcond (sample_stagesBoth rfl rfl rfl rfl rfl)).1.1
    cases hbus
  · rw [failsClean_startObserver_iff hunit]
    rintro (hms | ⟨-, hadopt⟩)
    · exact absurd hms (by decide)
    · have hticks := hadopt (sample_stagesBoth rfl rfl rfl rfl rfl) _ ⟨rfl, rfl, rfl⟩
      rw [if_neg (by decide)] at hticks
      exact hticks rfl
  · obtain ⟨handle, h', hrun⟩ := sample_start_ok
    refine ⟨handle, h', hrun, ?_⟩
    intro after hremoved
    have hdown := (stopAndCleanup_removes_iff hrun _ .owned).1 hremoved rfl
    cases hdown.1

end Nemor.Observer
