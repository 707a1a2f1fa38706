import Nemor.Capacity.Custody

/-!
# Why no boundary is ever observed

A capacity run is accepted with a boundary when its last level is classified as unsustainable
health, and for that the level has to record that the descriptor of its target was consumed. The
record is made by looking for a file in the transaction directory of the target, after that
directory was removed. So the file is never found, and a level that shows a boundary is recorded
as invalid evidence.
-/

namespace Nemor.Capacity

open Effectful Act

/-! ## §1 Levels that show a boundary -/

/-- The load was reached with everything in order, but HOT or WARM made no progress. -/
structure BoundaryLevel (level : CapacityCompositionLevelEvidence) : Prop where
  exactLoad : level.actualTouchedBytes = level.targetTouchedBytes
  heartbeat : level.pressureHeartbeat = true
  workerAlive : level.pressureWorkerAlive = true
  oom : level.oom = 0
  oomKill : level.oomKill = 0
  fingerprints : level.target.fingerprintsValid = true
  cleanup : level.target.cleanupPassed = true
  restore : level.structuralRestorePassed = true
  stalled : level.target.hotProgress = false ∨ level.target.warmProgress = false

/-- The transaction directory of the target of a level. -/
def levelRoot (payload : CapacityCompositionPayload) (level : CapacityCompositionLevelEvidence) :
    TargetRoot where
  parent := payload.outputRoot
  name := "target-r" ++ toString level.runOrder ++ "-l" ++ toString level.levelIndex

/-- How a level is judged: the consumption of its descriptor is not seen, though the composition
    itself consumed it if no validator was asked, and so a boundary is missed. -/
structure Judged (payload : CapacityCompositionPayload) (level : CapacityCompositionLevelEvidence)
    (w : World) : Prop where
  unseen : level.target.descriptorConsumedOnce = false
  consumed : level.variant ≠ .nemorCapacity → levelRoot payload level ∈ w.host.consumed
  blind : level.classification ≠ .unsustainableHealth
  missed : BoundaryLevel level → level.classification = .invalidEvidence

/-- How a run is judged: none of its levels counts as a boundary, and a run with one in it is not
    accepted. -/
structure JudgedRun (payload : CapacityCompositionPayload) (expectedLevelsPerRun : ℕ)
    (record : CapacityCompositionRunEvidence) (w : World) : Prop where
  levels : ∀ level ∈ record.levels, Judged payload level w
  unobserved : observedBoundary expectedLevelsPerRun record.levels = false
  rejected : ∀ level ∈ record.levels, BoundaryLevel level →
    record.state = .invalidRun ∧ record.reason = "composition run mandatory evidence failed"

/-- Without the record of its descriptor a level is sustainable or invalid. -/
theorem levelEvidence_judged {payload : CapacityCompositionPayload} {expectedLevelsPerRun : ℕ}
    {run : CompositionRunPlan} {level : PlannedPressureLevel} {load : LevelLoad}
    {target : CompositionTargetEvidence} {reading : LevelReading} {w : World}
    (hunseen : target.descriptorConsumedOnce = false)
    (hconsumed : run.variant ≠ .nemorCapacity →
      targetRoot payload run level.levelIndex ∈ w.host.consumed) :
    Judged payload (levelEvidence expectedLevelsPerRun run level load target reading) w := by
  -- no level is valid and unsustainable
  have hinvalid (exactLoad pressureHeartbeat workerAlive : Bool) (oom oomKill : UInt64)
      (restore : Bool) :
      validUnsustainableHealth expectedLevelsPerRun exactLoad pressureHeartbeat workerAlive target
        oom oomKill restore = false := by
    simp [validUnsustainableHealth, hunseen]
  refine ⟨hunseen, hconsumed, ?_, ?_⟩
  · simp only [levelEvidence, classifyLevel, hinvalid]
    split <;> simp
  · intro hboundary
    simp only [levelEvidence, classifyLevel, hinvalid]
    rw [if_neg, if_neg Bool.false_ne_true]
    intro hsustainable
    simp only [levelIsSustainable, Bool.and_eq_true] at hsustainable
    -- a sustainable level needs progress in both
    have hhot : target.hotProgress = true := hsustainable.1.1.1.1.1.1.1.1.2
    have hwarm : target.warmProgress = true := hsustainable.1.1.1.1.1.1.1.2
    rcases hboundary.stalled with hstalled | hstalled
    · exact Bool.false_ne_true (hstalled.symm.trans hhot)
    · exact Bool.false_ne_true (hstalled.symm.trans hwarm)

theorem allSustainable_eq_false {levels : List CapacityCompositionLevelEvidence}
    {level : CapacityCompositionLevelEvidence} (hlevel : level ∈ levels)
    (h : level.classification ≠ .sustainable) : allSustainable levels = false := by
  apply List.all_eq_false.2
  exact ⟨level, hlevel, by simpa using h⟩

theorem observedBoundary_eq_false (expectedLevelsPerRun : ℕ)
    {levels : List CapacityCompositionLevelEvidence}
    (h : ∀ level ∈ levels, level.classification ≠ .unsustainableHealth) :
    observedBoundary expectedLevelsPerRun levels = false := by
  unfold observedBoundary
  cases hlast : levels.getLast? with
  | none => simp
  | some level =>
    have hlevel : level ∈ levels := List.mem_of_getLast? hlast
    simp [h level hlevel]

/-- A run whose levels are judged so. -/
theorem runEvidence_judged {payload : CapacityCompositionPayload} {expectedLevelsPerRun : ℕ}
    {successfulState : CompositionExperimentState} {run : CompositionRunPlan}
    {levels : List CapacityCompositionLevelEvidence} {workerStatus : ExitStatus}
    {scopeCleanup : CompositionScopeCleanupEvidence} {restored : Bool} {w : World}
    (hlevels : ∀ level ∈ levels, Judged payload level w) :
    JudgedRun payload expectedLevelsPerRun (runEvidence expectedLevelsPerRun successfulState run
      levels workerStatus scopeCleanup restored) w := by
  have hunobserved := observedBoundary_eq_false expectedLevelsPerRun
    fun level hlevel => (hlevels level hlevel).blind
  refine ⟨hlevels, hunobserved, fun level hlevel hboundary => ?_⟩
  have hsustainable : allSustainable levels = false := by
    apply allSustainable_eq_false hlevel
    rw [(hlevels level hlevel).missed hboundary]
    intro h
    cases h
  -- neither way to pass is open: not all levels are sustainable, and none is a boundary
  have hpassed : runPassed expectedLevelsPerRun levels workerStatus scopeCleanup restored =
      false := by
    simp [runPassed, hsustainable, hunobserved]
  simp [runEvidence, hpassed]

/-! ## §2 What happens to a directory -/

/-- A descriptor that was consumed stays so. -/
theorem World.system.subset_consumed {u : Unit} {w w' : World} {op : HostOp} {r : op.Reply}
    (hs : World.system u w op r w') : w.host.consumed ⊆ w'.host.consumed := by
  have hconsumed := hs.1.consumed
  cases op with
  | gate g =>
    cases g with
    | consumeDescriptor root descriptorHash =>
      cases r with
      | ok _ => exact (Finset.subset_insert root _).trans hconsumed
      | error _ => exact hconsumed
    | _ => exact hconsumed
  | ask q => exact hconsumed

theorem consumed_kept {α : Type} (p : Prop) (root : TargetRoot) (m : Exec α) :
    Triple World.system (fun w => p → root ∈ w.host.consumed) m
      (fun _ w => p → root ∈ w.host.consumed) (fun _ => True) := by
  have hkeeps : Keeps World.system (fun _ w => p → root ∈ w.host.consumed) m := by
    apply keeps_preserved
    intro _ w op r w' hconsumed hs hp
    exact hs.subset_consumed (hconsumed hp)
  exact hkeeps.triple.orElse fun _ _ => trivial

theorem triple_trivial {α : Type} {P : World → Prop} (m : Exec α) :
    Triple World.system P m (fun _ _ => True) (fun _ => True) := by
  intro t w _
  apply wp_mono wp_trivial
  intro r t' w' _
  cases r <;> trivial

/-- A directory that is gone stays so until it is made again. -/
theorem ask_root_gone {q : Question} {root : TargetRoot}
    (hq : ∀ other, q ≠ .consumedExists other) :
    Triple World.system (fun w => root ∉ w.host.roots) (ask q)
      (fun _ w => root ∉ w.host.roots) (fun _ => True) := by
  refine triple_request fun _ w r w' hgone hs hroot => ?_
  have hroots := hs.1.roots
  cases q with
  | consumedExists other => exact hq other rfl
  | _ => exact hgone (hroots hroot)

/-- In a directory that is gone no file is found. -/
theorem consumedExists_gone {root : TargetRoot} :
    Triple World.system (fun w => root ∉ w.host.roots) (ask (.consumedExists root))
      (fun found _ => found = false) (fun _ => True) := by
  refine triple_request fun _ w r w' hgone hs => ?_
  cases hr : r with
  | false => rfl
  -- a file that is found is in a directory that exists
  | true => exact (hgone (hs.1.roots.2 hr)).elim

theorem removeTargetRoot_gone (env : Setting) (root : TargetRoot) :
    Triple World.system (fun _ => True) (removeTargetRoot env root)
      (fun _ w => root ∉ w.host.roots) (fun _ => True) := by
  refine triple_ite (fun _ => triple_fail fun _ h => h) fun _ => ?_
  refine triple_bind (triple_trivial _) fun paths => ?_
  refine triple_bind (triple_trivial _) fun _ => ?_
  refine gate_triple fun w r w' _ hs => ?_
  cases r with
  | error e => trivial
  | ok _ =>
    intro hroot
    exact Finset.notMem_erase root _ (hs.1.roots hroot)

/-- The file is looked for when its directory is gone. -/
theorem concludeTarget_unseen (env : Setting) (run : CompositionRunPlan) (root : TargetRoot)
    (transactionId sessionId levelDir : String) (descriptor : CapacityExternalTargetDescriptor)
    (service : TargetService) (status : ExitStatus) :
    Triple World.system (fun _ => True)
      (concludeTarget env run root transactionId sessionId levelDir descriptor service status)
      (fun target _ => target.descriptorConsumedOnce = false) (fun _ => True) := by
  refine triple_bind (triple_trivial _) fun after => ?_
  refine triple_bind (triple_trivial _) fun _ => ?_
  refine triple_bind (triple_trivial _) fun _ => ?_
  -- from here on the directory is gone
  refine triple_bind (removeTargetRoot_gone env root) fun _ => ?_
  refine triple_bind (ask_root_gone fun _ h => by cases h) fun legacyAbsentAfter => ?_
  refine triple_bind (ask_root_gone fun _ h => by cases h) fun validatorStateAbsent => ?_
  exact triple_bind consumedExists_gone fun consumed => triple_pure fun _ h => h

/-- The guard of a target knows its directory. -/
theorem spawnTarget_root (env : Setting) (payload : CapacityCompositionPayload) (root : TargetRoot)
    (transactionId sessionId nonce : String) :
    Triple World.system (fun _ => True) (spawnTarget env payload root transactionId sessionId nonce)
      (fun started _ => started.1.root = root) (fun _ => True) := by
  refine triple_bind (triple_trivial _) fun _ => ?_
  refine triple_bind (triple_trivial _) fun _ => ?_
  refine triple_bind (triple_trivial _) fun creatorStartTicks => ?_
  refine triple_bind (triple_trivial _) fun pid => ?_
  refine triple_bind (triple_trivial _) fun startTicks => ?_
  refine triple_attempt_bind (triple_trivial _) (fun _ => triple_pure fun _ _ => rfl) fun e => ?_
  -- what is abandoned gives no guard
  refine triple_attempt_bind (triple_trivial _) (fun _ => ?_) fun cleanup => ?_
  · exact triple_attempt_bind (triple_trivial _) (fun _ => triple_fail fun _ h => h)
      fun _ => triple_fail fun _ h => h
  · exact triple_bind (triple_trivial _) fun _ => triple_fail fun _ h => h

theorem exerciseTarget_consumed (env : Setting) (p : Prop) (guard : ExactTargetGuard)
    (descriptorHash : String) (before : CapacityExternalTargetProgress) :
    Triple World.system (fun _ => True) (exerciseTarget env guard descriptorHash before)
      (fun _ w => p → guard.root ∈ w.host.consumed) (fun _ => True) := by
  have hconsume : Triple World.system (fun _ => True)
      (gate env (.consumeDescriptor guard.root descriptorHash))
      (fun _ w => p → guard.root ∈ w.host.consumed) (fun _ => True) := by
    refine gate_triple fun w r w' _ hs => ?_
    cases r with
    | error e => trivial
    | ok _ => exact fun _ => hs.1.consumed (Finset.mem_insert_self ..)
  exact triple_bind hconsume fun _ => consumed_kept p guard.root _

/-- Without a validator the composition consumes the descriptor itself. -/
theorem serveTarget_consumed (env : Setting) (payload : CapacityCompositionPayload)
    (variant : BenchmarkVariant) (guard : ExactTargetGuard)
    (descriptor : CapacityExternalTargetDescriptor) (transactionId sessionId levelDir : String) :
    Triple World.system (fun _ => True)
      (serveTarget env payload variant guard descriptor transactionId sessionId levelDir)
      (fun _ w => variant ≠ .nemorCapacity → guard.root ∈ w.host.consumed) (fun _ => True) := by
  refine triple_bind (triple_trivial _) fun before => ?_
  have hact : Triple World.system (fun _ => True)
      (actOnTarget env payload variant guard descriptor transactionId sessionId levelDir before)
      (fun _ w => variant ≠ .nemorCapacity → guard.root ∈ w.host.consumed) (fun _ => True) := by
    -- the validator consumes it out of sight, so nothing is said about that variant
    refine triple_ite (fun hvariant => ?_) fun _ => exerciseTarget_consumed env _ guard _ before
    refine (triple_trivial _).mono (fun _ h => h) ?_ fun _ h => h
    exact fun _ _ _ hother => absurd hvariant hother
  exact triple_bind hact fun service => consumed_kept _ guard.root _

theorem orDrop_triple {α : Type} {P : World → Prop} {Q : α → World → Prop} (env : Setting)
    {m : Exec α} (guard : ExactTargetGuard) (hm : Triple World.system P m Q (fun _ => True)) :
    Triple World.system P (guard.orDrop env m) Q (fun _ => True) :=
  triple_attempt_bind hm (fun _ => triple_pure fun _ h => h) fun _ =>
    triple_bind (triple_trivial _) fun _ => triple_fail fun _ h => h

/-- **What a level records about its target.** The consumption of the descriptor is not seen,
    though without a validator it was consumed. -/
theorem targetForLevel_unseen (env : Setting) (payload : CapacityCompositionPayload)
    (run : CompositionRunPlan) (levelIndex : ℕ) (levelDir : String) :
    Triple World.system (fun _ => True) (targetForLevel env payload run levelIndex levelDir)
      (fun target w => target.descriptorConsumedOnce = false ∧
        (run.variant ≠ .nemorCapacity → targetRoot payload run levelIndex ∈ w.host.consumed))
      (fun _ => True) := by
  refine triple_bind (spawnTarget_root env payload _ _ _ _) fun started => ?_
  refine triple_of_pre fun ⟨_, hroot⟩ => ?_
  have hserve := orDrop_triple env started.1 (serveTarget_consumed env payload run.variant started.1
    started.2 (transactionIdOf payload run levelIndex) (sessionIdOf run levelIndex) levelDir)
  rw [hroot] at hserve
  refine triple_bind (hserve.mono (fun _ _ => trivial) (fun _ _ h => h) fun _ h => h)
    fun service => ?_
  refine triple_bind (consumed_kept _ _ _) fun status => ?_
  have hconclude := concludeTarget_unseen env run (targetRoot payload run levelIndex)
    (transactionIdOf payload run levelIndex) (sessionIdOf run levelIndex) levelDir started.2
    service status
  exact (hconclude.and (consumed_kept _ _ _)).mono (fun _ h => ⟨trivial, h⟩) (fun _ _ h => h)
    fun _ _ => trivial

/-! ## §3 Every level on record -/

/-- The call writes the evidence of a level. -/
def HostOp.Records (level : CapacityCompositionLevelEvidence) : HostOp → Prop
  | .gate (.writeLevelEvidence _ evidence) | .gate (.insertLevel _ _ evidence) => evidence = level
  | _ => False

theorem HostOp.Aside.not_records {op : HostOp} (hop : op.Aside)
    (level : CapacityCompositionLevelEvidence) : ¬ op.Records level := by
  intro h
  cases op with
  | gate g => cases g <;> first | exact hop | exact h
  | ask q => exact h

/-- Whatever level was written down is judged so. -/
def OnRecord (payload : CapacityCompositionPayload) (w : World) : Prop :=
  ∀ a ∈ w.history, ∀ level, a.event.op.Records level → Judged payload level w

section Records

variable {env : Setting} {payload : CapacityCompositionPayload} {expectedLevelsPerRun : ℕ}

theorem Judged.step {level : CapacityCompositionLevelEvidence} {u : Unit} {w w' : World}
    {op : HostOp} {r : op.Reply} (h : Judged payload level w) (hs : World.system u w op r w') :
    Judged payload level w' :=
  ⟨h.unseen, fun hvariant => hs.subset_consumed (h.consumed hvariant), h.blind, h.missed⟩

/-- A call that writes only levels that are judged so. -/
theorem OnRecord.step {u : Unit} {w w' : World} {op : HostOp} {r : op.Reply}
    (h : OnRecord payload w) (hop : ∀ level, op.Records level → Judged payload level w)
    (hs : World.system u w op r w') : OnRecord payload w' := by
  intro a ha level hrecords
  rw [hs.2] at ha
  rcases List.mem_append.1 ha with ha | ha
  · -- what was on record stays judged, since consumed descriptors stay consumed
    exact (h a ha level hrecords).step hs
  · rw [List.mem_singleton.1 ha] at hrecords
    exact (hop level hrecords).step hs

theorem JudgedRun.step {record : CapacityCompositionRunEvidence} {u : Unit} {w w' : World}
    {op : HostOp} {r : op.Reply} (h : JudgedRun payload expectedLevelsPerRun record w)
    (hs : World.system u w op r w') : JudgedRun payload expectedLevelsPerRun record w' :=
  ⟨fun level hlevel => (h.levels level hlevel).step hs, h.unobserved, h.rejected⟩

/-- What is known in the middle of an execution: the levels on record, the runs that are over and
    the levels of the current one. -/
structure Known (payload : CapacityCompositionPayload) (expectedLevelsPerRun : ℕ)
    (runs : List CapacityCompositionRunEvidence)
    (levels : List CapacityCompositionLevelEvidence) (w : World) : Prop where
  onRecord : OnRecord payload w
  runs : ∀ record ∈ runs, JudgedRun payload expectedLevelsPerRun record w
  levels : ∀ level ∈ levels, Judged payload level w

section Steps

variable {runs : List CapacityCompositionRunEvidence}
  {levels : List CapacityCompositionLevelEvidence}

/-- A call that writes no other levels than known ones. -/
theorem Known.step {u : Unit} {w w' : World} {op : HostOp} {r : op.Reply}
    (h : Known payload expectedLevelsPerRun runs levels w)
    (hop : ∀ level, op.Records level → level ∈ levels) (hs : World.system u w op r w') :
    Known payload expectedLevelsPerRun runs levels w' where
  onRecord := h.onRecord.step (fun level hrecords => h.levels level (hop level hrecords)) hs
  runs := fun record hrecord => (h.runs record hrecord).step hs
  levels := fun level hlevel => (h.levels level hlevel).step hs

theorem known_aside {α : Type} {m : Exec α} (hm : Only HostOp.Aside m) :
    Triple World.system (Known payload expectedLevelsPerRun runs levels) m
      (fun _ => Known payload expectedLevelsPerRun runs levels) (OnRecord payload) := by
  have hkeeps : Keeps World.system (fun _ => Known payload expectedLevelsPerRun runs levels) m := by
    apply hm.keeps
    intro _ w op r w' hop hknown hs
    exact hknown.step (fun level hrecords => (hop.not_records level hrecords).elim) hs
  exact hkeeps.triple.orElse fun _ h => h.onRecord

theorem known_gate {g : Gate} (hg : ∀ level, (HostOp.gate g).Records level → level ∈ levels) :
    Triple World.system (Known payload expectedLevelsPerRun runs levels) (gate env g)
      (fun _ => Known payload expectedLevelsPerRun runs levels) (OnRecord payload) := by
  refine gate_triple fun w r w' hknown hs => ?_
  have hknown' := hknown.step hg hs
  cases g.read env r with
  | error e => exact hknown'.onRecord
  | ok v => exact hknown'

theorem known_ask (q : Question) :
    Triple World.system (Known payload expectedLevelsPerRun runs levels) (ask q)
      (fun _ => Known payload expectedLevelsPerRun runs levels) (OnRecord payload) := by
  have hnone (level : CapacityCompositionLevelEvidence) : ¬ (HostOp.ask q).Records level :=
    fun h => h
  exact triple_request fun _ _ _ _ hknown hs =>
    hknown.step (fun level hrecords => (hnone level hrecords).elim) hs

/-! ## §4 Every execution -/

theorem Known.subset {levels' : List CapacityCompositionLevelEvidence} {w : World}
    (h : Known payload expectedLevelsPerRun runs levels w) (hsub : ∀ level ∈ levels', level ∈ levels) :
    Known payload expectedLevelsPerRun runs levels' w :=
  ⟨h.onRecord, h.runs, fun level hlevel => h.levels level (hsub level hlevel)⟩

theorem recordLevel_known (levelDir : String) {evidence : CapacityCompositionLevelEvidence}
    (hevidence : evidence ∈ levels) :
    Triple World.system (Known payload expectedLevelsPerRun runs levels)
      (recordLevel env levelDir evidence)
      (fun _ => Known payload expectedLevelsPerRun runs levels) (OnRecord payload) := by
  have hconvert (n : ℕ) : Only HostOp.Aside (ofExcept (i64TryFrom n) : Exec ℕ) := only_ofExcept _
  refine triple_bind (known_gate fun level hrecords => ?_) fun _ => ?_
  · rw [← (hrecords : evidence = level)]
    exact hevidence
  refine triple_bind (known_aside (hconvert _)) fun runOrder => ?_
  refine triple_bind (known_aside (hconvert _)) fun levelIndex => ?_
  refine known_gate fun level hrecords => ?_
  rw [← (hrecords : evidence = level)]
  exact hevidence

theorem executeLevel_known (run : CompositionRunPlan) (identity : OwnedProcessIdentity)
    (scope : ScopeState) (before : StructuralSnapshot) (prior : UInt64)
    (level : PlannedPressureLevel) :
    Triple World.system (Known payload expectedLevelsPerRun runs levels)
      (executeLevel env payload expectedLevelsPerRun run identity scope before prior level)
      (fun evidence => Known payload expectedLevelsPerRun runs (evidence :: levels))
      (OnRecord payload) := by
  refine triple_bind (known_aside (loadLevel_aside env payload identity _ level prior))
    fun load => ?_
  -- what is known of the target is kept to the end of the level
  refine triple_bind (Triple.mono (Triple.and (known_aside (targetForLevel_aside env payload run
    level.levelIndex _)) (targetForLevel_unseen env payload run level.levelIndex _))
    (fun _ h => ⟨h, trivial⟩) (fun _ _ h => h) fun _ h => h.1) fun target => ?_
  refine triple_of_pre fun ⟨_, _, hunseen, _⟩ => ?_
  refine triple_bind (Triple.mono (Triple.and (known_aside (readLevel_aside env identity scope
    before level)) (consumed_kept _ _ _)) (fun _ h => ⟨h.1, h.2.2⟩) (fun _ _ h => h)
    fun _ h => h.1) fun reading => ?_
  have hjudged : ∀ w, (Known payload expectedLevelsPerRun runs levels w ∧
        (run.variant ≠ .nemorCapacity →
          targetRoot payload run level.levelIndex ∈ w.host.consumed)) →
      Known payload expectedLevelsPerRun runs
        (levelEvidence expectedLevelsPerRun run level load target reading :: levels) w := by
    intro w h
    refine ⟨h.1.onRecord, h.1.runs, ?_⟩
    exact List.forall_mem_cons.2 ⟨levelEvidence_judged hunseen h.2, h.1.levels⟩
  refine triple_bind ((recordLevel_known _ (List.mem_cons_self ..)).mono hjudged (fun _ _ h => h)
    fun _ h => h) fun _ => ?_
  exact triple_pure fun _ h => h

/-- Level after level is judged. -/
theorem executeLevels_known (run : CompositionRunPlan) (identity : OwnedProcessIdentity)
    (scope : ScopeState) (before : StructuralSnapshot) (prior : UInt64)
    (planned : List PlannedPressureLevel) :
    Triple World.system (Known payload expectedLevelsPerRun runs levels)
      (executeLevels env payload expectedLevelsPerRun run identity scope before prior planned)
      (fun found => Known payload expectedLevelsPerRun runs (found ++ levels))
      (OnRecord payload) := by
  induction planned generalizing prior levels with
  | nil => exact triple_pure fun _ h => h
  | cons level planned ih =>
    refine triple_bind (executeLevel_known run identity scope before prior level)
      fun evidence => ?_
    refine triple_ite (fun _ => ?_) fun _ => triple_pure fun _ h => h
    refine triple_bind (ih _) fun rest => ?_
    refine triple_pure fun w h => h.subset fun found hfound => ?_
    simp only [List.cons_append, List.mem_cons, List.mem_append] at hfound ⊢
    tauto

end Steps

variable {runs : List CapacityCompositionRunEvidence}

theorem executeRun_known (successfulState : CompositionExperimentState) (run : CompositionRunPlan) :
    Triple World.system (Known payload expectedLevelsPerRun runs [])
      (executeRun env payload expectedLevelsPerRun successfulState run)
      (fun result => Known payload expectedLevelsPerRun (runs ++ [result.1]) [])
      (OnRecord payload) := by
  refine triple_bind (known_ask _) fun before => ?_
  refine triple_bind (known_aside (startWorker_aside env payload run)) fun identity => ?_
  refine triple_bind (known_aside (only_ofExcept _)) fun plan => ?_
  refine triple_bind (known_aside (startScope_aside env payload plan)) fun scope => ?_
  refine triple_bind (executeLevels_known run identity scope before 0 run.levels) fun levels => ?_
  rw [List.append_nil]
  refine triple_bind (known_ask _) fun _ => ?_
  refine triple_bind (known_gate fun level hrecords => (hrecords : False).elim)
    fun workerStatus => ?_
  -- no question writes a level, so the reconciliation needs no closer look
  refine triple_bind (reconcileCompositionScope_leads (fun q _ => known_ask q)
    (fun q _ => known_ask q) plan (known_ask _) scope _) fun scopeCleanup => ?_
  refine triple_bind (known_ask _) fun after => ?_
  refine triple_pure fun w h => ⟨h.onRecord, ?_, fun _ hlevel => by cases hlevel⟩
  intro record hrecord
  rcases List.mem_append.1 hrecord with hrecord | hrecord
  · exact h.runs record hrecord
  · rw [List.mem_singleton.1 hrecord]
    exact runEvidence_judged h.levels

/-- Run after run is judged. -/
theorem executeRuns_known (successfulState : CompositionExperimentState)
    (planned : List CompositionRunPlan) (evidence : CapacityCompositionExecutionEvidence) :
    Triple World.system (Known payload expectedLevelsPerRun evidence.runs [])
      (executeRuns env payload expectedLevelsPerRun successfulState planned evidence)
      (fun found => Known payload expectedLevelsPerRun found.runs []) (OnRecord payload) := by
  induction planned generalizing evidence with
  | nil => exact triple_pure fun _ h => h
  | cons run planned ih =>
    refine triple_bind (executeRun_known successfulState run) fun result => ?_
    refine triple_ite (fun _ => ?_) fun _ => triple_pure fun _ h => h
    refine triple_bind (known_aside (persistExecution_aside env _)) fun _ => ?_
    exact Triple.mono (ih _) (fun _ h => h) (fun _ _ h => h) fun _ h => h

theorem concludeEvidence_runs (expectedLevelsPerRun : ℕ)
    (successfulState : CompositionExperimentState) (evidence : CapacityCompositionExecutionEvidence) :
    (concludeEvidence expectedLevelsPerRun successfulState evidence).runs = evidence.runs := by
  unfold concludeEvidence
  split
  · rfl
  · split <;> rfl

theorem sealExecution_known (successfulState : CompositionExperimentState)
    (evidence : CapacityCompositionExecutionEvidence) :
    Triple World.system (Known payload expectedLevelsPerRun evidence.runs [])
      (sealExecution env expectedLevelsPerRun successfulState evidence)
      (fun found => Known payload expectedLevelsPerRun found.runs []) (OnRecord payload) := by
  rw [← concludeEvidence_runs expectedLevelsPerRun successfulState evidence]
  refine triple_bind (known_aside (only_ofExcept _)) fun _ => ?_
  refine triple_bind (known_aside (persistExecution_aside env _)) fun _ => ?_
  exact triple_bind (known_gate fun level hrecords => (hrecords : False).elim)
    fun _ => triple_pure fun _ h => h

theorem executeCapacityCompositionPayload_known (successfulState : CompositionExperimentState) :
    Triple World.system (Known payload expectedLevelsPerRun [] [])
      (executeCapacityCompositionPayload env payload expectedLevelsPerRun successfulState)
      (fun found => Known payload expectedLevelsPerRun found.runs []) (OnRecord payload) := by
  refine triple_bind (known_gate fun level hrecords => (hrecords : False).elim) fun _ => ?_
  refine triple_ite (fun _ => triple_fail fun _ h => h.onRecord) fun _ => ?_
  refine triple_bind (known_gate fun level hrecords => (hrecords : False).elim) fun _ => ?_
  refine triple_bind (known_aside (persistExecution_aside env _)) fun _ => ?_
  refine triple_bind (executeRuns_known successfulState payload.runPlan
    (initialEvidence payload expectedLevelsPerRun)) fun evidence => ?_
  exact sealExecution_known successfulState evidence

/-- **No boundary is ever observed.** In every execution, each level on record has missed the
    consumption of its descriptor: it is not classified as unsustainable health, and one that
    shows a boundary is classified as invalid evidence. Each run of the final evidence is without
    an observed boundary, and a run with a level that shows one is rejected. -/
theorem boundary_never_observed (successfulState : CompositionExperimentState)
    (roots consumed : Finset TargetRoot) {r : Except String CapacityCompositionExecutionEvidence}
    {w : World}
    (hrun : Reaches World.system
      (executeCapacityCompositionPayload env payload expectedLevelsPerRun successfulState ())
      (World.start roots consumed) (.pure (r, ())) w) :
    (∀ a ∈ w.history, ∀ level, a.event.op.Records level → Judged payload level w) ∧
      ∀ evidence, r = .ok evidence →
        ∀ record ∈ evidence.runs, JudgedRun payload expectedLevelsPerRun record w := by
  have hstart : Known payload expectedLevelsPerRun [] [] (World.start roots consumed) :=
    ⟨fun _ h => absurd h List.not_mem_nil, fun _ h => absurd h List.not_mem_nil,
      fun _ h => absurd h List.not_mem_nil⟩
  have hend := (executeCapacityCompositionPayload_known successfulState).reaches hstart hrun
  cases r with
  | error e => exact ⟨hend, fun evidence h => by cases h⟩
  | ok evidence =>
    refine ⟨hend.onRecord, fun found h => ?_⟩
    cases h
    exact hend.runs

end Records

/-! ## §5 A target that does not get on -/

instance (level : CapacityCompositionLevelEvidence) : Decidable (BoundaryLevel level) :=
  decidable_of_iff
    (level.actualTouchedBytes = level.targetTouchedBytes ∧ level.pressureHeartbeat = true ∧
      level.pressureWorkerAlive = true ∧ level.oom = 0 ∧ level.oomKill = 0 ∧
      level.target.fingerprintsValid = true ∧ level.target.cleanupPassed = true ∧
      level.structuralRestorePassed = true ∧
      (level.target.hotProgress = false ∨ level.target.warmProgress = false))
    ⟨fun ⟨h₁, h₂, h₃, h₄, h₅, h₆, h₇, h₈, h₉⟩ => ⟨h₁, h₂, h₃, h₄, h₅, h₆, h₇, h₈, h₉⟩,
      fun ⟨h₁, h₂, h₃, h₄, h₅, h₆, h₇, h₈, h₉⟩ => ⟨h₁, h₂, h₃, h₄, h₅, h₆, h₇, h₈, h₉⟩⟩

/-- How a worker that was waited for has exited. -/
def Answer.workerExit : Answer → Option ExitStatus
  | ⟨_, ⟨.gate (.waitWorker _), .ok status⟩⟩ => some status
  | _ => none

/-- The execution against the calm host, on which no target gets on. -/
theorem calmExecution_ok : ∃ evidence, (calmExecution calmReply).1 = (.ok evidence, ()) := by
  have hok : (calmExecution calmReply).1.1.isOk = true := by decide +kernel
  rcases hresult : (calmExecution calmReply).1 with ⟨_ | evidence, _⟩
  · rw [hresult] at hok
    cases hok
  · exact ⟨evidence, rfl⟩

/-- **A boundary that is missed.** Everything is in order at the first level of the first run, and
    the descriptor was consumed; only HOT and WARM make no progress. The worker exits well, its
    scope is clean and the structure is restored. Still the level is classified as invalid
    evidence and the run is rejected. -/
theorem stalled_level_not_boundary :
    ∃ evidence w, Reaches World.system
        (executeCapacityCompositionPayload calmSetting calmPayload 4
          .completedCompositionFrameworkValidation ())
        (World.start ∅ ∅) (.pure (.ok evidence, ())) w ∧
      w.history.filterMap Answer.workerExit = [⟨some 0⟩] ∧
      ∃ record ∈ evidence.runs, record.scopeCleanup.passed = true ∧
        record.structuralRestorePassed = true ∧ record.state = .invalidRun ∧
        record.levels.length = 1 ∧ ∃ level ∈ record.levels, BoundaryLevel level ∧
          levelRoot calmPayload level ∈ w.host.consumed ∧
          level.target.descriptorConsumedOnce = false ∧
          level.classification = .invalidEvidence := by
  obtain ⟨evidence, hevidence⟩ := calmExecution_ok
  have hreaches := @calmExecution_reaches calmReply fun _ _ => rfl
  have hfacts : ∃ record ∈ ((calmExecution calmReply).1.1.toOption.map
      CapacityCompositionExecutionEvidence.runs).getD [],
      record.scopeCleanup.passed = true ∧ record.structuralRestorePassed = true ∧
        record.state = .invalidRun ∧ record.levels.length = 1 ∧
        ∃ level ∈ record.levels, BoundaryLevel level ∧
          levelRoot calmPayload level ∈ (calmExecution calmReply).2.host.consumed ∧
          level.target.descriptorConsumedOnce = false ∧
          level.classification = .invalidEvidence := by decide +kernel
  have hexit : (calmExecution calmReply).2.history.filterMap Answer.workerExit = [⟨some 0⟩] := by
    decide +kernel
  rw [hevidence] at hreaches hfacts
  exact ⟨evidence, _, hreaches, hexit, hfacts⟩

/-- That execution is judged as every other. -/
theorem stalled_execution_judged :
    ∃ evidence w, Reaches World.system
        (executeCapacityCompositionPayload calmSetting calmPayload 4
          .completedCompositionFrameworkValidation ())
        (World.start ∅ ∅) (.pure (.ok evidence, ())) w ∧
      ∀ record ∈ evidence.runs, JudgedRun calmPayload 4 record w := by
  obtain ⟨evidence, hevidence⟩ := calmExecution_ok
  have hreaches := @calmExecution_reaches calmReply fun _ _ => rfl
  rw [hevidence] at hreaches
  exact ⟨evidence, _, hreaches, (boundary_never_observed _ ∅ ∅ hreaches).2 evidence rfl⟩

end Nemor.Capacity
