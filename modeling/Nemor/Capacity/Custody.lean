import Nemor.Capacity.Calls

/-!
# What an execution leaves running

The worker of a run is reaped and its scope is reconciled only at the end of the run. A gate that
stops the execution before that leaves both behind: nothing holds them. A target is held by a
guard from soon after its start to its end.

`Held` follows the processes and the scopes as long as nothing was stopped while a worker was
running, and `Lost` is what is true from then on.
-/

namespace Nemor.Capacity

open Effectful Act Pressure

/-! ## §1 Steps of the host -/

/-- Calls that leave the workers, the targets and the scopes as they are. -/
def HostOp.Quiet : HostOp → Prop
  | .gate (.spawnWorker ..) | .gate (.waitWorker _) | .gate (.startOwnedScope _)
  | .gate (.spawnTarget _) | .gate (.awaitExit _) | .gate (.waitTarget _)
  | .ask (.readScopeState .last _) | .ask (.pollExit _) | .ask (.dropWait _) => False
  | _ => True

/-- What a quiet call leaves as it is. -/
theorem Host.Answers.quiet {h h' : Host} {op : HostOp} {r : op.Reply} (ha : h.Answers op r h')
    (hop : op.Quiet) :
    h'.workers = h.workers ∧ h'.targets = h.targets ∧ h'.scopes = h.scopes := by
  obtain ⟨hworkers, htargets, hscopes, -, -⟩ := ha
  rw [hworkers, htargets]
  cases op with
  | gate g =>
    cases g <;> first | exact ⟨rfl, rfl, hscopes⟩ | exact hop.elim
  | ask q =>
    cases q with
    | readScopeState reading unitName =>
      cases reading <;> first | exact ⟨rfl, rfl, hscopes⟩ | exact hop.elim
    | _ => first | exact ⟨rfl, rfl, hscopes⟩ | exact hop.elim

/-- A worker is reaped by waiting for it only. -/
theorem HostOp.subset_workers {op : HostOp} (hop : op.Aside) (r : op.Reply)
    (workers : Finset UInt32) : workers ⊆ op.workers r workers := by
  cases op with
  | gate g =>
    cases g with
    | spawnWorker socket experimentId runId seed =>
      cases r with
      | ok pid => exact Finset.subset_insert pid workers
      | error e => exact subset_rfl
    | waitWorker pid => exact hop.elim
    | _ => exact subset_rfl
  | ask q => exact subset_rfl

/-- A gate that stops has changed nothing about the workers. -/
theorem Gate.workers_of_error {env : Setting} {g : Gate} {r : g.Reply} {e : String}
    (h : g.read env r = .error e) (workers : Finset UInt32) :
    (HostOp.gate g).workers r workers = workers := by
  cases g with
  | spawnWorker socket experimentId runId seed =>
    cases r with
    | ok pid => cases h
    | error e => rfl
  | waitWorker pid =>
    cases r with
    | ok status => cases h
    | error e => rfl
  | _ => rfl

/-! ## §2 Held and lost -/

/-- These processes and scopes are there, and nothing was stopped while a worker was running. -/
structure Held (env : Setting) (workers targets : Finset UInt32) (scopes : Finset String)
    (w : World) : Prop where
  workers : w.host.workers = workers
  targets : w.host.targets = targets
  scopes : w.host.scopes = scopes
  smooth : ∀ a ∈ w.history, ¬ a.Strands env

/-- A worker is there, and something was stopped while a worker was running. -/
structure Lost (env : Setting) (w : World) : Prop where
  workers : w.host.workers ≠ ∅
  stranded : ∃ a ∈ w.history, a.Strands env

section Steps

variable {env : Setting} {workers targets : Finset UInt32} {scopes : Finset String} {w w' : World}

/-- A smooth history stays smooth with an answer that strands nothing. -/
theorem smooth_snoc {a : Answer} {history : List Answer} (h : ∀ a ∈ history, ¬ a.Strands env)
    (ha : ¬ a.Strands env) : ∀ b ∈ history ++ [a], ¬ b.Strands env := by
  intro b hb
  rcases List.mem_append.1 hb with hb | hb
  · exact h b hb
  · rw [List.mem_singleton.1 hb]
    exact ha

/-- Through a gate nothing is stranded. -/
theorem Held.pass (h : Held env workers targets scopes w) {g : Gate} {r : g.Reply} {v : g.Value}
    (hs : World.system () w (.gate g) r w') (hr : g.read env r = .ok v) :
    Held env ((HostOp.gate g).workers r workers) ((HostOp.gate g).targets r targets)
      w'.host.scopes w' := by
  refine ⟨?_, ?_, rfl, ?_⟩
  · rw [hs.1.workers, h.workers]
  · rw [hs.1.targets, h.targets]
  · rw [hs.2]
    refine smooth_snoc h.smooth fun ha => ?_
    obtain ⟨-, e, he⟩ := ha
    rw [hr] at he
    cases he

/-- A question stops nothing. -/
theorem Held.answer (h : Held env workers targets scopes w) {q : Question} {r : q.Reply}
    (hs : World.system () w (.ask q) r w') :
    Held env ((HostOp.ask q).workers r workers) ((HostOp.ask q).targets r targets)
      w'.host.scopes w' := by
  refine ⟨?_, ?_, rfl, ?_⟩
  · rw [hs.1.workers, h.workers]
  · rw [hs.1.targets, h.targets]
  · rw [hs.2]
    exact smooth_snoc h.smooth fun ha => ha.2

/-- A gate that stops while a worker is running. -/
theorem Held.strand (h : Held env workers targets scopes w) (hw : workers ≠ ∅) {g : Gate}
    {r : g.Reply} {e : String} (hs : World.system () w (.gate g) r w')
    (hr : g.read env r = .error e) : Lost env w' := by
  refine ⟨?_, ?_⟩
  · -- the gate that stops is not the wait that would have reaped the worker
    rw [hs.1.workers, Gate.workers_of_error hr, h.workers]
    exact hw
  · refine ⟨⟨w.host, ⟨.gate g, r⟩⟩, ?_, ?_, e, hr⟩
    · rw [hs.2]
      exact List.mem_append_right _ (List.mem_singleton_self _)
    · rw [h.workers]
      exact hw

/-- A gate that stops while no worker is running. -/
theorem Held.stop (h : Held env ∅ targets scopes w) {g : Gate} {r : g.Reply}
    (hs : World.system () w (.gate g) r w') (hg : (HostOp.gate g).Quiet) :
    Held env ∅ targets scopes w' := by
  obtain ⟨hworkers, htargets, hscopes⟩ := hs.1.quiet hg
  refine ⟨hworkers.trans h.workers, htargets.trans h.targets, hscopes.trans h.scopes, ?_⟩
  rw [hs.2]
  exact smooth_snoc h.smooth fun ha => ha.1 h.workers

/-- Lost stays lost. -/
theorem Lost.step (h : Lost env w) {op : HostOp} {r : op.Reply} (hop : op.Aside)
    (hs : World.system () w op r w') : Lost env w' := by
  obtain ⟨a, ha, hstrands⟩ := h.stranded
  refine ⟨?_, a, ?_, hstrands⟩
  · -- aside from that wait, workers only come
    rw [hs.1.workers]
    intro hempty
    have hsubset := HostOp.subset_workers hop r w.host.workers
    rw [hempty] at hsubset
    exact h.workers (Finset.subset_empty.1 hsubset)
  · rw [hs.2]
    exact List.mem_append_left _ ha

end Steps

/-! ## §3 Gates and questions -/

section Calls

variable {env : Setting} {workers targets : Finset UInt32} {scopes : Finset String} {α : Type}

theorem gate_triple {g : Gate} {P E : World → Prop} {Q : g.Value → World → Prop}
    (h : ∀ w r w', P w → World.system () w (.gate g) r w' → Ends Q E (g.read env r) w') :
    Triple World.system P (gate env g) Q E :=
  triple_perform fun _ w r w' hw hs => h w r w' hw hs

/-- While a worker is running, a gate is passed with the given effect or all is lost. -/
theorem gate_busy {g : Gate} {targets' : g.Value → Finset UInt32} {workers' : Finset UInt32}
    {scopes' : Finset String} (hw : workers ≠ ∅)
    (h : ∀ r v found, g.read env r = .ok v → (HostOp.gate g).Scopes r scopes found →
      (HostOp.gate g).workers r workers = workers' ∧
        (HostOp.gate g).targets r targets = targets' v ∧ found = scopes') :
    Triple World.system (Held env workers targets scopes) (gate env g)
      (fun v => Held env workers' (targets' v) scopes') (Lost env) := by
  refine gate_triple fun w r w' hheld hs => ?_
  cases hr : g.read env r with
  | error e => exact hheld.strand hw hs hr
  | ok v =>
    have hscopes := hs.1.scopes
    rw [hheld.scopes] at hscopes
    obtain ⟨hworkers, htargets, hscopes⟩ := h r v w'.host.scopes hr hscopes
    have hpass := hheld.pass hs hr
    rw [hworkers, htargets, hscopes] at hpass
    exact hpass

/-- A quiet gate while a worker is running. -/
theorem gate_quiet {g : Gate} (hw : workers ≠ ∅) (hg : (HostOp.gate g).Quiet) :
    Triple World.system (Held env workers targets scopes) (gate env g)
      (fun _ => Held env workers targets scopes) (Lost env) := by
  refine gate_triple fun w r w' hheld hs => ?_
  cases hr : g.read env r with
  | error e => exact hheld.strand hw hs hr
  | ok v =>
    obtain ⟨hworkers, htargets, hscopes⟩ := hs.1.quiet hg
    exact ⟨hworkers.trans hheld.workers, htargets.trans hheld.targets,
      hscopes.trans hheld.scopes, (hheld.pass hs hr).smooth⟩

/-- A quiet gate while no worker is running. -/
theorem gate_idle {g : Gate} (hg : (HostOp.gate g).Quiet) :
    Triple World.system (Held env ∅ targets scopes) (gate env g)
      (fun _ => Held env ∅ targets scopes) (Held env ∅ targets scopes) := by
  refine gate_triple fun w r w' hheld hs => ?_
  have hstop := hheld.stop hs hg
  cases g.read env r with
  | error e => exact hstop
  | ok v => exact hstop

theorem ask_quiet {q : Question} {E : World → Prop} (hq : (HostOp.ask q).Quiet) :
    Triple World.system (Held env workers targets scopes) (ask q)
      (fun _ => Held env workers targets scopes) E := by
  refine triple_request fun _ w r w' hheld hs => ?_
  obtain ⟨hworkers, htargets, hscopes⟩ := hs.1.quiet hq
  exact ⟨hworkers.trans hheld.workers, htargets.trans hheld.targets, hscopes.trans hheld.scopes,
    (hheld.answer hs).smooth⟩

/-- What goes on aside cannot save what is lost. -/
theorem lost_aside {m : Exec α} (hm : Only HostOp.Aside m) :
    Triple World.system (Lost env) m (fun _ => Lost env) (Lost env) :=
  (hm.keeps fun _ _ _ _ _ hop hlost hs => hlost.step hop hs).triple

end Calls

/-! ## §4 Targets -/

section Targets

variable {env : Setting} {workers targets : Finset UInt32} {scopes : Finset String}
  (hw : workers ≠ ∅)

include hw

theorem removeEntries_custody (paths : List String) :
    Triple World.system (Held env workers targets scopes) (removeEntries env paths)
      (fun _ => Held env workers targets scopes) (Lost env) := by
  induction paths with
  | nil => exact triple_pure fun _ h => h
  | cons path paths ih =>
    refine triple_bind (gate_quiet hw trivial) fun _ => ?_
    exact triple_bind (gate_quiet hw trivial) fun _ => ih

theorem removeTargetRoot_custody {root : TargetRoot}
    (hroot : "target-".toList.isPrefixOf root.name.toList = true) :
    Triple World.system (Held env workers targets scopes) (removeTargetRoot env root)
      (fun _ => Held env workers targets scopes) (Lost env) := by
  refine triple_ite (fun h => ?_) fun _ => ?_
  · rw [hroot] at h
    cases h
  · refine triple_bind (gate_quiet hw trivial) fun paths => ?_
    exact triple_bind (removeEntries_custody hw paths) fun _ => gate_quiet hw trivial

/-- A target that is waited for is no longer there. -/
theorem waitTarget_custody (pid : UInt32) :
    Triple World.system (Held env workers {pid} scopes) (gate env (.waitTarget pid))
      (fun _ => Held env workers ∅ scopes) (Lost env) := by
  refine gate_busy hw fun r v found hr hscopes => ⟨rfl, ?_, hscopes⟩
  cases r with
  | error e => cases hr
  | ok status => exact Finset.erase_singleton pid

theorem killAndWait_custody (guard : ExactTargetGuard) :
    Triple World.system (Held env workers {guard.pid} scopes) (killAndWait env guard)
      (fun _ => Held env workers ∅ scopes) (Lost env) := by
  refine triple_bind (gate_quiet hw trivial) fun startTicks => ?_
  refine triple_ite (fun _ => ?_) fun _ => waitTarget_custody hw guard.pid
  exact triple_bind (gate_quiet hw trivial) fun _ => waitTarget_custody hw guard.pid

theorem stopAndReap_custody (guard : ExactTargetGuard) :
    Triple World.system (Held env workers {guard.pid} scopes) (guard.stopAndReap env)
      (fun _ => Held env workers ∅ scopes) (Lost env) := by
  refine triple_bind (ask_quiet trivial) fun _ => ?_
  -- the target has exited, or it is still there
  have hawait : Triple World.system (Held env workers {guard.pid} scopes)
      (gate env (.awaitExit guard.pid))
      (fun exited => Held env workers (if exited.isSome then ∅ else {guard.pid}) scopes)
      (Lost env) := by
    refine gate_busy hw fun r v found hr hscopes => ⟨rfl, ?_, hscopes⟩
    rcases r with e | _ | status
    · cases hr
    · cases hr
      rfl
    · cases hr
      exact Finset.erase_singleton guard.pid
  refine triple_bind hawait fun exited => ?_
  cases exited with
  | some status => exact triple_pure fun _ h => h
  | none => exact killAndWait_custody hw guard

omit hw in
/-- A guard that is dropped comes too late for the worker. -/
theorem orDrop_custody {α : Type} {P : World → Prop} {Q : α → World → Prop} {m : Exec α}
    (guard : ExactTargetGuard) (hm : Triple World.system P m Q (Lost env)) :
    Triple World.system P (guard.orDrop env m) Q (Lost env) := by
  -- the drop may still reap the target; the worker it cannot
  refine triple_attempt_bind hm (fun a => triple_pure fun _ h => h) fun e => ?_
  exact triple_bind (lost_aside (only_attempt (drop_aside env guard))) fun _ => triple_fail fun _ h => h

theorem awaitTarget_custody (payload : CapacityCompositionPayload) (guard : ExactTargetGuard)
    (creatorStartTicks : UInt64) :
    Triple World.system (Held env workers targets scopes)
      (awaitTarget env payload guard creatorStartTicks)
      (fun _ => Held env workers targets scopes) (Lost env) := by
  refine triple_bind (gate_quiet hw trivial) fun _ => ?_
  refine triple_bind (gate_quiet hw trivial) fun descriptor => ?_
  refine triple_bind (gate_quiet hw trivial) fun _ => ?_
  exact triple_bind (gate_quiet hw trivial) fun _ => triple_pure fun _ h => h

omit hw in
/-- A target that is abandoned ends the execution. -/
theorem abandonTarget_custody {α : Type} {Q : α → World → Prop} (guard : ExactTargetGuard)
    (error : String) :
    Triple World.system (Lost env) (abandonTarget env guard error : Exec α) Q (Lost env) := by
  refine triple_bind (lost_aside (only_attempt (stopAndReap_aside env guard))) fun r => ?_
  cases r with
  | error cleanup =>
    refine triple_bind (lost_aside (only_attempt (drop_aside env guard))) fun _ => ?_
    exact triple_fail fun _ h => h
  | ok _ =>
    refine triple_bind (lost_aside (only_attempt (removeIfThere_aside env guard.root))) fun r => ?_
    cases r with
    | error cleanup => exact triple_fail fun _ h => h
    | ok _ => exact triple_fail fun _ h => h

theorem spawnTarget_custody (payload : CapacityCompositionPayload) (root : TargetRoot)
    (transactionId sessionId nonce : String) :
    Triple World.system (Held env workers ∅ scopes)
      (spawnTarget env payload root transactionId sessionId nonce)
      (fun started => Held env workers {started.1.pid} scopes) (Lost env) := by
  refine triple_bind (gate_quiet hw trivial) fun _ => ?_
  refine triple_bind (gate_quiet hw trivial) fun _ => ?_
  refine triple_bind (gate_quiet hw trivial) fun creatorStartTicks => ?_
  have hspawn (arguments : TargetArguments) :
      Triple World.system (Held env workers ∅ scopes) (gate env (.spawnTarget arguments))
        (fun pid => Held env workers {pid} scopes) (Lost env) := by
    refine gate_busy hw fun r v found hr hscopes => ⟨rfl, ?_, hscopes⟩
    cases r with
    | error e => cases hr
    | ok pid =>
      cases hr
      rfl
  -- the guard comes after the next gate, but a stop there loses the worker anyway
  refine triple_bind (hspawn _) fun pid => ?_
  refine triple_bind (gate_quiet hw trivial) fun startTicks => ?_
  refine triple_attempt_bind (awaitTarget_custody hw payload _ creatorStartTicks) ?_ ?_
  · intro descriptor
    exact triple_pure fun _ h => h
  · intro error
    exact abandonTarget_custody _ error

theorem validateTarget_custody (payload : CapacityCompositionPayload) (guard : ExactTargetGuard)
    (transactionId sessionId levelDir : String) (before : CapacityExternalTargetProgress) :
    Triple World.system (Held env workers targets scopes)
      (validateTarget env payload guard transactionId sessionId levelDir before)
      (fun _ => Held env workers targets scopes) (Lost env) := by
  refine triple_bind (gate_quiet hw trivial) fun _ => ?_
  refine triple_bind (gate_quiet hw trivial) fun _ => ?_
  refine triple_bind (ask_quiet trivial) fun legacyAbsentBefore => ?_
  refine triple_bind (gate_quiet hw trivial) fun creatorStartTicks => ?_
  refine triple_bind (gate_quiet hw trivial) fun status => ?_
  exact triple_bind (gate_quiet hw trivial) fun report => triple_pure fun _ h => h

omit hw in
theorem baselineReportLifecycle_custody {E : World → Prop} :
    Triple World.system (Held env workers targets scopes) baselineReportLifecycle
      (fun _ => Held env workers targets scopes) E := by
  refine triple_bind (ask_quiet trivial) fun legacyBefore => ?_
  refine triple_bind (ask_quiet trivial) fun legacyAfter => ?_
  exact triple_bind (ask_quiet trivial) fun stateAbsent => triple_pure fun _ h => h

theorem exerciseTarget_custody (guard : ExactTargetGuard) (descriptorHash : String)
    (before : CapacityExternalTargetProgress) :
    Triple World.system (Held env workers targets scopes)
      (exerciseTarget env guard descriptorHash before)
      (fun _ => Held env workers targets scopes) (Lost env) := by
  refine triple_bind (gate_quiet hw trivial) fun _ => ?_
  refine triple_bind (gate_quiet hw trivial) fun _ => ?_
  refine triple_bind (gate_quiet hw trivial) fun _ => ?_
  exact triple_bind baselineReportLifecycle_custody fun lifecycle => triple_pure fun _ h => h

omit hw in
theorem stopIfActive_custody {E : World → Prop} (guard : ExactTargetGuard) (progressPath : String) :
    Triple World.system (Held env workers targets scopes) (stopIfActive guard progressPath)
      (fun _ => Held env workers targets scopes) E := by
  refine triple_bind (ask_quiet trivial) fun r => ?_
  cases r with
  | error error => exact triple_pure fun _ h => h
  | ok progress =>
    refine triple_ite (fun _ => triple_pure fun _ h => h) fun _ => ?_
    exact triple_bind (ask_quiet trivial) fun _ => triple_pure fun _ h => h

theorem serveTarget_custody (payload : CapacityCompositionPayload) (variant : BenchmarkVariant)
    (guard : ExactTargetGuard) (descriptor : CapacityExternalTargetDescriptor)
    (transactionId sessionId levelDir : String) :
    Triple World.system (Held env workers targets scopes)
      (serveTarget env payload variant guard descriptor transactionId sessionId levelDir)
      (fun _ => Held env workers targets scopes) (Lost env) := by
  refine triple_bind (gate_quiet hw trivial) fun before => ?_
  have hact : Triple World.system (Held env workers targets scopes)
      (actOnTarget env payload variant guard descriptor transactionId sessionId levelDir before)
      (fun _ => Held env workers targets scopes) (Lost env) :=
    triple_ite
      (fun _ => validateTarget_custody hw payload guard transactionId sessionId levelDir before)
      fun _ => exerciseTarget_custody hw guard descriptor.payloadSha256 before
  refine triple_bind hact fun service => ?_
  exact triple_bind (stopIfActive_custody guard _) fun _ => triple_pure fun _ h => h

theorem concludeTarget_custody (run : CompositionRunPlan) {root : TargetRoot}
    (hroot : "target-".toList.isPrefixOf root.name.toList = true)
    (transactionId sessionId levelDir : String) (descriptor : CapacityExternalTargetDescriptor)
    (service : TargetService) (status : ExitStatus) :
    Triple World.system (Held env workers targets scopes)
      (concludeTarget env run root transactionId sessionId levelDir descriptor service status)
      (fun _ => Held env workers targets scopes) (Lost env) := by
  refine triple_bind (gate_quiet hw trivial) fun after => ?_
  refine triple_bind (gate_quiet hw trivial) fun _ => ?_
  refine triple_bind (gate_quiet hw trivial) fun _ => ?_
  refine triple_bind (removeTargetRoot_custody hw hroot) fun _ => ?_
  refine triple_bind (ask_quiet trivial) fun legacyAbsentAfter => ?_
  refine triple_bind (ask_quiet trivial) fun validatorStateAbsent => ?_
  exact triple_bind (ask_quiet trivial) fun consumed => triple_pure fun _ h => h

omit hw in
theorem targetRoot_name (payload : CapacityCompositionPayload) (run : CompositionRunPlan)
    (levelIndex : ℕ) :
    "target-".toList.isPrefixOf (targetRoot payload run levelIndex).name.toList = true := by
  simp [targetRoot, String.toList_append]

/-- **A target comes and goes.** It is reaped, or the worker is lost. -/
theorem targetForLevel_custody (payload : CapacityCompositionPayload) (run : CompositionRunPlan)
    (levelIndex : ℕ) (levelDir : String) :
    Triple World.system (Held env workers ∅ scopes)
      (targetForLevel env payload run levelIndex levelDir)
      (fun _ => Held env workers ∅ scopes) (Lost env) := by
  refine triple_bind (spawnTarget_custody hw payload _ _ _ _) fun started => ?_
  refine triple_bind (orDrop_custody started.1 (serveTarget_custody hw _ _ _ _ _ _ _))
    fun service => ?_
  refine triple_bind (orDrop_custody started.1 (stopAndReap_custody hw started.1)) fun status => ?_
  exact concludeTarget_custody hw run (targetRoot_name payload run levelIndex) _ _ _ _ _ _

end Targets

/-! ## §5 Levels -/

/-- What the composition asks of its payload on the way, all at once: the limit of the scope is
    within bounds, the load never shrinks and the indices fit into the database. -/
structure WellPlanned (payload : CapacityCompositionPayload) : Prop where
  positive : payload.pressureMemoryMaxBytes ≠ 0
  bounded : payload.pressureMemoryMaxBytes ≤ 16 * 1024 * 1024 * 1024
  growing : ∀ run ∈ payload.runPlan,
    (run.levels.map PlannedPressureLevel.targetTouchedBytes).Pairwise (· ≤ ·)
  orders : ∀ run ∈ payload.runPlan, run.orderIndex < 2 ^ 63
  indices : ∀ run ∈ payload.runPlan, ∀ level ∈ run.levels, level.levelIndex < 2 ^ 63

/-- A sustainable level has the load it was planned with. -/
theorem levelEvidence_exact {expectedLevelsPerRun : ℕ} {run : CompositionRunPlan}
    {level : PlannedPressureLevel} {load : LevelLoad} {target : CompositionTargetEvidence}
    {reading : LevelReading}
    (h : (levelEvidence expectedLevelsPerRun run level load target reading).classification =
      .sustainable) :
    (levelEvidence expectedLevelsPerRun run level load target reading).actualTouchedBytes =
      level.targetTouchedBytes := by
  simp only [levelEvidence, classifyLevel] at h
  split at h
  · rename_i hsustainable
    simp only [levelIsSustainable, Bool.and_eq_true, decide_eq_true_eq] at hsustainable
    exact hsustainable.1.1.1.1.1.1.1.1.1.1.1
  · split at h <;> cases h

section Levels

variable {env : Setting} {workers : Finset UInt32} {scopes : Finset String}
  {payload : CapacityCompositionPayload} {expectedLevelsPerRun : ℕ} (hw : workers ≠ ∅)

include hw

theorem loadLevel_custody (identity : OwnedProcessIdentity) (levelDir : String)
    {level : PlannedPressureLevel} {prior : UInt64} (hgrows : prior ≤ level.targetTouchedBytes) :
    Triple World.system (Held env workers ∅ scopes)
      (loadLevel env payload identity levelDir level prior)
      (fun _ => Held env workers ∅ scopes) (Lost env) := by
  refine triple_bind (gate_quiet hw trivial) fun _ => ?_
  -- the only refusal that is not the host's: a load that shrinks
  have hcommand : Triple World.system (Held env workers ∅ scopes)
      (ofExcept (commandForLevel payload.experimentId identity.runId level prior) : Exec _)
      (fun _ => Held env workers ∅ scopes) (Lost env) := by
    refine triple_ofExcept fun w h => ?_
    rw [commandForLevel, if_neg (UInt64.not_lt.2 hgrows)]
    exact h
  refine triple_bind hcommand fun command => ?_
  refine triple_bind (gate_quiet hw trivial) fun monotonicNs => ?_
  refine triple_bind (gate_quiet hw trivial) fun acknowledgement => ?_
  refine triple_bind (gate_quiet hw trivial) fun pressureIntegrityIdentity => ?_
  exact triple_bind (gate_quiet hw trivial) fun heartbeat => triple_pure fun _ h => h

theorem readLevel_custody (identity : OwnedProcessIdentity) (scope : ScopeState)
    (before : StructuralSnapshot) (level : PlannedPressureLevel) :
    Triple World.system (Held env workers ∅ scopes) (readLevel env identity scope before level)
      (fun _ => Held env workers ∅ scopes) (Lost env) := by
  refine triple_bind (gate_quiet hw trivial) fun heartbeat => ?_
  refine triple_bind (ask_quiet trivial) fun _ => ?_
  refine triple_bind (ask_quiet trivial) fun oom => ?_
  refine triple_bind (ask_quiet trivial) fun oomKill => ?_
  refine triple_bind (ask_quiet trivial) fun now => ?_
  refine triple_bind (ask_quiet trivial) fun memoryCurrentBytes => ?_
  refine triple_bind (ask_quiet trivial) fun memoryPeakBytes => ?_
  refine triple_bind (ask_quiet trivial) fun hostPsi => ?_
  exact triple_bind (ask_quiet trivial) fun cgroupPsi => triple_pure fun _ h => h

omit hw in
/-- An index that fits is converted. -/
theorem i64TryFrom_custody {P E : World → Prop} {n : ℕ} (hn : n < 2 ^ 63) :
    Triple World.system P (ofExcept (i64TryFrom n) : Exec ℕ) (fun _ => P) E := by
  refine triple_ofExcept fun w h => ?_
  rw [i64TryFrom, if_pos hn]
  exact h

theorem recordLevel_custody (levelDir : String) {evidence : CapacityCompositionLevelEvidence}
    (horder : evidence.runOrder < 2 ^ 63) (hindex : evidence.levelIndex < 2 ^ 63) :
    Triple World.system (Held env workers ∅ scopes) (recordLevel env levelDir evidence)
      (fun _ => Held env workers ∅ scopes) (Lost env) := by
  refine triple_bind (gate_quiet hw trivial) fun _ => ?_
  refine triple_bind (i64TryFrom_custody horder) fun runOrder => ?_
  refine triple_bind (i64TryFrom_custody hindex) fun levelIndex => ?_
  exact gate_quiet hw trivial

theorem executeLevel_custody {run : CompositionRunPlan} (horder : run.orderIndex < 2 ^ 63)
    (identity : OwnedProcessIdentity) (scope : ScopeState) (before : StructuralSnapshot)
    {prior : UInt64} {level : PlannedPressureLevel} (hgrows : prior ≤ level.targetTouchedBytes)
    (hindex : level.levelIndex < 2 ^ 63) :
    Triple World.system (Held env workers ∅ scopes)
      (executeLevel env payload expectedLevelsPerRun run identity scope before prior level)
      (fun evidence w => Held env workers ∅ scopes w ∧
        (evidence.classification = .sustainable →
          evidence.actualTouchedBytes = level.targetTouchedBytes)) (Lost env) := by
  refine triple_bind (loadLevel_custody hw identity _ hgrows) fun load => ?_
  refine triple_bind (targetForLevel_custody hw payload run level.levelIndex _) fun target => ?_
  refine triple_bind (readLevel_custody hw identity scope before level) fun reading => ?_
  refine triple_bind (recordLevel_custody hw _ horder hindex) fun _ => ?_
  exact triple_pure fun _ h => ⟨h, levelEvidence_exact⟩

/-- Level after level the load grows, so no level is refused. -/
theorem executeLevels_custody {run : CompositionRunPlan} (horder : run.orderIndex < 2 ^ 63)
    (identity : OwnedProcessIdentity) (scope : ScopeState) (before : StructuralSnapshot)
    {prior : UInt64} {levels : List PlannedPressureLevel}
    (hgrowing : (prior :: levels.map PlannedPressureLevel.targetTouchedBytes).Pairwise (· ≤ ·))
    (hindices : ∀ level ∈ levels, level.levelIndex < 2 ^ 63) :
    Triple World.system (Held env workers ∅ scopes)
      (executeLevels env payload expectedLevelsPerRun run identity scope before prior levels)
      (fun _ => Held env workers ∅ scopes) (Lost env) := by
  induction levels generalizing prior with
  | nil => exact triple_pure fun _ h => h
  | cons level levels ih =>
    obtain ⟨hprior, hrest⟩ := List.pairwise_cons.1 hgrowing
    obtain ⟨hindex, hindices⟩ := List.forall_mem_cons.1 hindices
    have hgrows : prior ≤ level.targetTouchedBytes := hprior _ (List.mem_cons_self ..)
    refine triple_bind (executeLevel_custody hw horder identity scope before hgrows hindex)
      fun evidence => ?_
    refine triple_ite (fun hsustainable => ?_) fun _ => triple_pure fun _ h => h.1
    -- the next level starts from the load of this one
    have hnext : Triple World.system (fun w => Held env workers ∅ scopes w ∧
          (evidence.classification = .sustainable →
            evidence.actualTouchedBytes = level.targetTouchedBytes))
        (executeLevels env payload expectedLevelsPerRun run identity scope before
          evidence.actualTouchedBytes levels)
        (fun _ => Held env workers ∅ scopes) (Lost env) := by
      intro t w hheld
      rw [hheld.2 hsustainable]
      exact ih hrest hindices t w hheld.1
    exact triple_bind hnext fun rest => triple_pure fun _ h => h

end Levels

/-! ## §6 Runs -/

section Runs

variable {env : Setting} {payload : CapacityCompositionPayload} {expectedLevelsPerRun : ℕ}

/-- How an execution stops: with nothing left, or with a worker lost. -/
def Settled (env : Setting) (w : World) : Prop := Held env ∅ ∅ ∅ w ∨ Lost env w

theorem spawnWorker_custody (socket experimentId runId : String) (seed : UInt64) :
    Triple World.system (Held env ∅ ∅ ∅) (gate env (.spawnWorker socket experimentId runId seed))
      (fun pid => Held env {pid} ∅ ∅) (Settled env) := by
  refine gate_triple fun w r w' hheld hs => ?_
  have hscopes : w'.host.scopes = ∅ := (hs.1.scopes : w'.host.scopes = w.host.scopes).trans
    hheld.scopes
  cases r with
  | error e =>
    refine .inl ⟨?_, ?_, hscopes, ?_⟩
    · exact (hs.1.workers).trans hheld.workers
    · exact (hs.1.targets).trans hheld.targets
    · rw [hs.2]
      exact smooth_snoc hheld.smooth fun ha => ha.1 hheld.workers
  | ok pid =>
    have hpass := hheld.pass hs rfl
    rw [hscopes] at hpass
    exact hpass

theorem startWorker_custody (run : CompositionRunPlan) :
    Triple World.system (Held env ∅ ∅ ∅) (startWorker env payload run)
      (fun identity w => Held env {identity.pid} ∅ ∅ w ∧ 'c' ∈ identity.runId.toList)
      (Settled env) := by
  refine triple_bind (spawnWorker_custody _ _ _ _) fun pid => ?_
  refine Triple.orElse ?_ fun w h => Or.inr h
  have hw : ({pid} : Finset UInt32) ≠ ∅ := Finset.singleton_ne_empty pid
  refine triple_bind (gate_quiet hw trivial) fun startTicks => ?_
  refine triple_bind (gate_quiet hw trivial) fun _ => ?_
  refine triple_bind (gate_quiet hw trivial) fun _ => ?_
  refine triple_bind (gate_quiet hw trivial) fun _ => ?_
  -- a letter in the run id is all that the name of the unit needs
  exact triple_pure fun _ h => ⟨h, by simp [String.toList_append]⟩

theorem startScope_custody {workers : Finset UInt32} (hw : workers ≠ ∅) (plan : TransientScopePlan) :
    Triple World.system (Held env workers ∅ ∅) (startScope env payload plan)
      (fun _ => Held env workers ∅ {plan.unitName}) (Lost env) := by
  refine triple_bind (gate_quiet hw trivial) fun _ => ?_
  have hstart : Triple World.system (Held env workers ∅ ∅) (gate env (.startOwnedScope plan))
      (fun _ => Held env workers ∅ {plan.unitName}) (Lost env) := by
    refine gate_busy hw fun r v found hr hscopes => ⟨rfl, rfl, ?_⟩
    cases r with
    | error e => cases hr
    | ok scope => exact hscopes
  refine triple_bind hstart fun scope => ?_
  refine triple_bind (gate_quiet hw trivial) fun _ => ?_
  refine triple_bind (gate_quiet hw trivial) fun _ => ?_
  exact triple_bind (gate_quiet hw trivial) fun _ => triple_pure fun _ h => h

theorem waitWorker_custody (pid : UInt32) (scopes : Finset String) :
    Triple World.system (Held env {pid} ∅ scopes) (gate env (.waitWorker pid))
      (fun _ => Held env ∅ ∅ scopes) (Lost env) := by
  refine gate_busy (Finset.singleton_ne_empty pid) fun r v found hr hscopes => ⟨?_, rfl, hscopes⟩
  cases r with
  | error e => cases hr
  | ok status => exact Finset.erase_singleton pid

theorem asking_held {E : World → Prop} {workers targets : Finset UInt32} {scopes : Finset String} :
    Asking (Held env workers targets scopes) E := by
  intro q hq
  apply ask_quiet
  cases q with
  | readScopeState reading unitName => cases reading <;> exact hq
  | _ => exact hq

/-- A reconciliation takes the scope out of the books. -/
theorem reconcileCompositionScope_custody {E : World → Prop} (plan : TransientScopePlan)
    (original : ScopeState) (cgroup : String) :
    Triple World.system (Held env ∅ ∅ {plan.unitName})
      (reconcileCompositionScope plan original cgroup) (fun _ => Held env ∅ ∅ ∅) E := by
  refine reconcileCompositionScope_leads asking_held asking_held plan ?_ original cgroup
  refine triple_request fun _ w r w' hheld hs => ?_
  have hanswer := hheld.answer hs
  -- the last reading of the state takes the scope out
  have hscopes : w'.host.scopes = w.host.scopes.erase plan.unitName := hs.1.scopes
  rw [hscopes, hheld.scopes, Finset.erase_singleton] at hanswer
  exact hanswer

theorem executeRun_custody (hplan : WellPlanned payload)
    (successfulState : CompositionExperimentState) {run : CompositionRunPlan}
    (hrun : run ∈ payload.runPlan) :
    Triple World.system (Held env ∅ ∅ ∅)
      (executeRun env payload expectedLevelsPerRun successfulState run)
      (fun _ => Held env ∅ ∅ ∅) (Settled env) := by
  refine triple_bind (ask_quiet trivial) fun before => ?_
  refine triple_bind (startWorker_custody run) fun identity => ?_
  -- from here to the end of the run every stop loses the worker
  refine Triple.orElse ?_ fun w h => Or.inr h
  have hw : ({identity.pid} : Finset UInt32) ≠ ∅ := Finset.singleton_ne_empty identity.pid
  have hscope : Triple World.system
      (fun w => Held env {identity.pid} ∅ ∅ w ∧ 'c' ∈ identity.runId.toList)
      (ofExcept (scopePlan payload expectedLevelsPerRun identity) : Exec _)
      (fun plan w => Held env {identity.pid} ∅ ∅ w ∧ plan.identity = identity) (Lost env) := by
    refine triple_ofExcept fun w h => ?_
    obtain ⟨plan, hok, hidentity⟩ := scopePlan_eq_ok expectedLevelsPerRun ⟨'c', h.2, by decide⟩
      hplan.positive hplan.bounded
    rw [hok]
    exact ⟨h.1, hidentity⟩
  refine triple_bind hscope fun plan => ?_
  refine triple_bind ((startScope_custody hw plan).mono (fun _ h => h.1) (fun _ _ h => h)
    fun _ h => h) fun scope => ?_
  have hgrowing : ((0 : UInt64) :: run.levels.map PlannedPressureLevel.targetTouchedBytes).Pairwise
      (· ≤ ·) :=
    List.pairwise_cons.2 ⟨fun _ _ => UInt64.zero_le, hplan.growing run hrun⟩
  refine triple_bind (executeLevels_custody hw (hplan.orders run hrun) identity scope before
    hgrowing (hplan.indices run hrun)) fun levels => ?_
  refine triple_bind (ask_quiet trivial) fun _ => ?_
  refine triple_bind (waitWorker_custody identity.pid _) fun workerStatus => ?_
  refine triple_bind (reconcileCompositionScope_custody plan scope _) fun scopeCleanup => ?_
  exact triple_bind (ask_quiet trivial) fun after => triple_pure fun _ h => h

end Runs

/-! ## §7 Executions -/

section Executions

variable {env : Setting} {payload : CapacityCompositionPayload} {expectedLevelsPerRun : ℕ}

theorem persistExecution_custody (evidence : CapacityCompositionExecutionEvidence) :
    Triple World.system (Held env ∅ ∅ ∅) (persistExecution env evidence)
      (fun _ => Held env ∅ ∅ ∅) (Held env ∅ ∅ ∅) :=
  triple_bind (gate_idle trivial) fun _ => gate_idle trivial

/-- Run after run, each leaves the host as it was found. -/
theorem executeRuns_custody (hplan : WellPlanned payload)
    (successfulState : CompositionExperimentState) {runs : List CompositionRunPlan}
    (hruns : ∀ run ∈ runs, run ∈ payload.runPlan)
    (evidence : CapacityCompositionExecutionEvidence) :
    Triple World.system (Held env ∅ ∅ ∅)
      (executeRuns env payload expectedLevelsPerRun successfulState runs evidence)
      (fun _ => Held env ∅ ∅ ∅) (Settled env) := by
  induction runs generalizing evidence with
  | nil => exact triple_pure fun _ h => h
  | cons run runs ih =>
    obtain ⟨hrun, hruns⟩ := List.forall_mem_cons.1 hruns
    refine triple_bind (executeRun_custody hplan successfulState hrun) fun result => ?_
    refine triple_ite (fun _ => ?_) fun _ => triple_pure fun _ h => h
    refine triple_bind ((persistExecution_custody _).orElse fun _ h => Or.inl h) fun _ => ?_
    exact ih hruns _

theorem sealExecution_custody (successfulState : CompositionExperimentState)
    (evidence : CapacityCompositionExecutionEvidence) :
    Triple World.system (Held env ∅ ∅ ∅)
      (sealExecution env expectedLevelsPerRun successfulState evidence)
      (fun _ => Held env ∅ ∅ ∅) (Held env ∅ ∅ ∅) := by
  refine triple_bind (keeps_ofExcept _).triple fun _ => ?_
  refine triple_bind (persistExecution_custody _) fun _ => ?_
  exact triple_bind (gate_idle trivial) fun _ => triple_pure fun _ h => h

theorem executeCapacityCompositionPayload_custody (hplan : WellPlanned payload)
    (successfulState : CompositionExperimentState) :
    Triple World.system (Held env ∅ ∅ ∅)
      (executeCapacityCompositionPayload env payload expectedLevelsPerRun successfulState)
      (fun _ => Held env ∅ ∅ ∅) (Settled env) := by
  refine triple_bind (Triple.orElse (gate_idle trivial) fun _ h => Or.inl h) fun _ => ?_
  refine triple_ite (fun _ => triple_fail fun _ h => Or.inl h) fun _ => ?_
  refine triple_bind (Triple.orElse (gate_idle trivial) fun _ h => Or.inl h) fun _ => ?_
  refine triple_bind ((persistExecution_custody _).orElse fun _ h => Or.inl h) fun _ => ?_
  refine triple_bind (executeRuns_custody hplan successfulState (fun _ h => h) _) fun evidence => ?_
  exact (sealExecution_custody successfulState evidence).orElse fun _ h => Or.inl h

/-- **What an error leaves running.** An execution that ends with an error has left nothing
    running, neither a worker nor a scope nor a target, exactly if no gate stopped it while a
    worker was not reaped. -/
theorem error_leaves_nothing_iff (hplan : WellPlanned payload)
    (successfulState : CompositionExperimentState) (roots consumed : Finset TargetRoot) {e : String}
    {w : World}
    (hrun : Reaches World.system
      (executeCapacityCompositionPayload env payload expectedLevelsPerRun successfulState ())
      (World.start roots consumed) (.pure (.error e, ())) w) :
    w.host.Clean ↔ ∀ a ∈ w.history, ¬ a.Strands env := by
  have hstart : Held env ∅ ∅ ∅ (World.start roots consumed) :=
    ⟨rfl, rfl, rfl, fun a ha => by cases ha⟩
  have hend := (executeCapacityCompositionPayload_custody hplan successfulState).reaches hstart hrun
  -- either nothing stopped while a worker was there, and nothing is left,
  -- or something did, and a worker is
  rcases hend with hheld | hlost
  · exact ⟨fun _ => hheld.smooth, fun _ => ⟨hheld.workers, hheld.scopes, hheld.targets⟩⟩
  · constructor
    · intro hclean
      exact (hlost.workers hclean.workers).elim
    · intro hsmooth
      obtain ⟨a, ha, hstrands⟩ := hlost.stranded
      exact (hsmooth a ha hstrands).elim

end Executions

/-! ## §8 Hosts that answer by a rule -/

/-- The host after an answer, where the answer leaves a choice. -/
def Host.next (h : Host) (op : HostOp) (r : op.Reply) : Host where
  workers := op.workers r h.workers
  targets := op.targets r h.targets
  scopes :=
    match op, r with
    | .gate (.startOwnedScope plan), .ok _ => insert plan.unitName h.scopes
    | .ask (.readScopeState .last unitName), _ => h.scopes.erase unitName
    | _, _ => h.scopes
  roots :=
    match op, r with
    | .gate (.createTargetRoot root), .ok _ => insert root h.roots
    | .gate (.removeTargetRoot root), .ok _ => h.roots.erase root
    | _, _ => h.roots
  consumed :=
    match op, r with
    | .gate (.consumeDescriptor root _), .ok _ => insert root h.consumed
    | _, _ => h.consumed

/-- Files are only found in directories that exist. -/
def HostOp.Honest : (op : HostOp) → op.Reply → Host → Prop
  | .ask (.consumedExists root), r, h => r = true → root ∈ h.roots
  | _, _, _ => True

theorem Host.next_answers (h : Host) (op : HostOp) (r : op.Reply) (hr : op.Honest r h) :
    h.Answers op r (h.next op r) := by
  refine ⟨rfl, rfl, ?_, ?_, ?_⟩
  · cases op with
    | gate g =>
      cases g with
      | startOwnedScope plan =>
        cases r with
        | ok _ => rfl
        | error _ => exact .inl rfl
      | _ => rfl
    | ask q =>
      cases q with
      | readScopeState reading unitName => cases reading <;> rfl
      | _ => rfl
  · cases op with
    | gate g =>
      cases g with
      | createTargetRoot root => cases r <;> exact subset_rfl
      | removeTargetRoot root => cases r <;> exact subset_rfl
      | _ => exact subset_rfl
    | ask q =>
      cases q with
      | consumedExists root => exact ⟨subset_rfl, hr⟩
      | _ => exact subset_rfl
  · cases op with
    | gate g =>
      cases g with
      | consumeDescriptor root descriptorHash => cases r <;> exact subset_rfl
      | _ => exact subset_rfl
    | ask q => exact subset_rfl

/-- A host that answers each call by a rule. -/
def World.answering (reply : Host → (op : HostOp) → op.Reply) (op : compositionHost.Op)
    (w : World) : compositionHost.Reply op × World :=
  (reply w.host op,
    { host := w.host.next op (reply w.host op)
      history := w.history ++ [⟨w.host, ⟨op, reply w.host op⟩⟩] })

/-- The execution against such a host is one of the executions. -/
theorem World.answering_reaches {α : Type} {reply : Host → (op : HostOp) → op.Reply}
    (honest : ∀ h (op : HostOp), op.Honest (reply h op) h) (m : Exec α) (w : World) :
    Reaches World.system (m ()) w (.pure ((m ()).exec (World.answering reply) w).1)
      ((m ()).exec (World.answering reply) w).2 := by
  refine (Prog.exec_reaches (World.answering reply) (m ()) w).mono ?_
  intro u s op r s' hs
  obtain ⟨rfl, rfl⟩ := Prod.mk.inj hs
  exact ⟨s.host.next_answers op _ (honest s.host op), rfl⟩

/-- A 64-digit hash for each use. -/
def nonceHash : String := "0364f1205431624fbb25a05f93868a5cb555e0587dab8109c4c311a740807766"

/-- The digest of the descriptor. -/
def descriptorHash : String := "194b520dc30384b3fc233e123778835e2adc362d91c6e33015ed3db2379d7ea1"

/-- The digest of the report. -/
def executionHash : String := "a402c4336ebfd78227dea06341f394c60ab50d13d841cedf38df329afe4a304e"

/-- The digest of the executable. -/
def binaryHash : String := "9a3a45d01531a20e89ac6ae10b0b0beb0492acd7216a368aa062d1a5fecaf9cd"

/-- The digest of the mappings. -/
def mappingHash : String := "7f5d1618e7d28cc7bf32788672be04c24877d9a8911f65fef8e3e013c9cbc373"

/-- Surroundings in which every digest is as expected. -/
def calmSetting : Setting where
  buildGitHead := "4f2c1d"
  creatorPid := 40
  descriptorHash := fun _ => Capacity.descriptorHash
  executionHash := fun _ => Capacity.executionHash
  textHash := fun _ => nonceHash

/-- A level of one page. -/
def calmLevel (levelIndex : ℕ) : PlannedPressureLevel where
  levelIndex := levelIndex
  targetTouchedBytes := 4096
  seed := 1

/-- Runs of the two variants in turn, each with four levels. -/
def calmRun (orderIndex : ℕ) : CompositionRunPlan where
  orderIndex := orderIndex
  variant := if orderIndex % 2 = 0 then .cachyosBaseline else .nemorCapacity
  repetitionIndex := orderIndex / 2
  seed := 1
  levels := (List.range 4).map calmLevel

/-- An experiment that is accepted. -/
def calmPayload : CapacityCompositionPayload where
  experimentId := "exp"
  gitHead := "4f2c1d"
  sourceStateId := "clean"
  targetSha256 := binaryHash
  outputRoot := "/var/lib/nemor/exp"
  preparingUid := 1000
  preparingGid := 1000
  pressureMemoryMaxBytes := 1073741824
  runPlan := (List.range 6).map calmRun

theorem calmPayload_wellPlanned : WellPlanned calmPayload where
  positive := by decide
  bounded := by decide
  growing := by decide +kernel
  orders := by decide +kernel
  indices := by decide +kernel

/-- What the first target says about itself. -/
def calmDescriptor (path : String) (expected : TargetExpectation) :
    CapacityExternalTargetDescriptor where
  payload :=
    { contract := .v1
      identity :=
        { validationTransactionId := "exp-r0-l0"
          targetSessionId := "session-r0-l0"
          nonce := nonceHash
          pid := expected.pid
          startTicks := expected.startTicks
          executablePath := "/usr/bin/nemor-benchmark"
          executableSha256 := expected.executableSha256
          embeddedSourceCommit := expected.gitHead
          creatorPid := expected.creatorPid
          creatorStartTicks := expected.creatorStartTicks
          preparingUid := 1000
          preparingGid := 1000
          unitOrCgroupIdentity := "direct-child-no-cgroup"
          controlChannelIdentity := "control"
          creationMonotonicNs := 1 }
      ranges :=
        { hot := ⟨0x10000000, 0x10800000⟩
          warm := ⟨0x20000000, 0x20800000⟩
          cold := ⟨0x30000000, 0x32000000⟩ }
      mappingContentIdentities := (mappingHash, mappingHash, mappingHash)
      descriptorPath := path
      progressPath := "/var/lib/nemor/exp/target-r0-l0/target-progress.json"
      transactionRoot := "/var/lib/nemor/exp/target-r0-l0"
      state := .ready }
  payloadSha256 := descriptorHash

/-- The progress of a target that does not get on. -/
def stalledProgress (state : CapacityExternalTargetState) : CapacityExternalTargetProgress where
  protocolVersion := 1
  targetSessionId := "session-r0-l0"
  nonce := nonceHash
  state := state
  sequence := 1
  heartbeatMonotonicNs := 2
  hotCycles := 0
  warmCycles := 0
  hotPagesTouched := 0
  warmPagesTouched := 0
  coldCycles := 0
  controlledRefaults := 0
  hotFingerprint := mappingHash
  warmFingerprint := mappingHash
  coldFingerprint := mappingHash

/-- The scope, as the manager shows it once it is started. -/
def calmScope (plan : TransientScopePlan) : ScopeState where
  unitName := plan.unitName
  objectPath := "/org/freedesktop/systemd1/unit/scope"
  controlGroup := "/system.slice/scope"
  memoryMax := plan.memoryMax
  memoryAccounting := true
  cpuAccounting := true
  ioAccounting := true
  runtimeMaxUsec := plan.runtimeMaxUsec
  activeState := "active"
  subState := "running"
  members := {plan.identity.pid}

/-- The worker acknowledges what it was told. -/
def calmAcknowledgement (identity : OwnedProcessIdentity) (command : WorkerLevelCommand) :
    WorkerLevelAcknowledgement where
  experimentId := command.experimentId
  runId := command.runId
  levelIndex := command.levelIndex
  seed := command.seed
  priorTouchedBytes := command.priorTouchedBytes
  requestedDeltaBytes := command.requestedDeltaBytes
  actualTouchedBytes := command.targetTouchedBytes
  workerPid := identity.pid
  workerStartTicks := identity.startTicks
  generatorId := command.generatorId
  generatorVersion := command.generatorVersion
  integrityIdentity := mappingHash
  acknowledgedMonotonicNs := 3

/-- Gates that open. -/
def calmGate : (g : Gate) → g.Reply
  | .root => true
  | .spawnWorker .. => .ok 100
  | .workerStartTicks _ => .ok (some 7)
  | .receiveHello identity => .ok (.hello identity.pid identity.startTicks)
  | .startOwnedScope plan => .ok (calmScope plan)
  | .verifyIdentity identity => some identity.startTicks
  | .readProcessCgroup _ controlGroup => .ok ["0::" ++ controlGroup]
  | .verifyBoundary _ _ => .ok .boundaryVerified
  | .waitWorker _ => .ok ⟨some 0⟩
  | .now => .ok 1000
  | .levelRequest identity command _ => .ok (.levelAck (calmAcknowledgement identity command))
  | .beginHold _ => .ok (.integrityResult mappingHash)
  | .receiveHeartbeat => .ok (.heartbeat 4096)
  | .requestHeartbeat _ => .ok (.heartbeat 4096)
  | .creatorStartTicks _ => .ok (some 5)
  | .spawnTarget _ => .ok 200
  | .targetStartTicks _ => .ok (some 9)
  | .readDescriptor path expected => .ok (calmDescriptor path expected)
  | .waitInitialProgress _ => .ok (stalledProgress .ready)
  | .readyStartTicks _ startTicks => .ok (some startTicks)
  | .readBefore _ => .ok (stalledProgress .ready)
  | .legacyReportAbsent => true
  | .validatorStateAbsent => true
  | .runValidator .. => .ok ⟨some 0⟩
  -- never asked for: the first level stalls, and the first run is one without validator
  | .inspectReport .. => .error "no report"
  | .awaitExit _ => .ok (some ⟨some 0⟩)
  | .overdueStartTicks _ => .ok none
  | .waitTarget _ => .ok ⟨some 0⟩
  | .readAfter _ => .ok (stalledProgress .stopped)
  | .readTargetRoot root =>
    .ok [root.file "target-descriptor.json", root.file "target-descriptor.consumed",
      root.file "target-progress.json"]
  | .entryIsFile _ => true
  | .openStore _ | .writeReport _ | .renameReport | .insertExperiment _ | .waitForSocket _
  | .connect _ | .systemBus | .createLevelDir _ | .writeLevelEvidence .. | .insertLevel ..
  | .createTargetRoot _ | .setTargetPermissions _ | .waitForDescriptor _ | .consumeDescriptor ..
  | .writeStart .. | .writeStop .. | .killTarget _ | .copyDescriptor .. | .writeProgress ..
  | .removeTargetFile _ | .removeTargetRoot _ => .ok ()

/-- Answers of a host on which all is as it should be. -/
def calmAnswer (h : Host) : (q : Question) → q.Reply
  | .captureStructure => ⟨[], [], none, [], []⟩
  | .stopWorker _ | .receiveIntegrity => .ok .other
  | .namedCounter _ _ => some 0
  | .readU64 _ => some 4096
  | .readText _ => none
  | .processStartTicks _ | .dropStartTicks _ => .ok none
  | .readScopeState _ _ => .ok none
  | .cgroupMembers _ => some 0
  | .stopOwnedScope _ => .ok ()
  | .waitInactiveOrRemoved _ => .ok ()
  | .elapsedMs => 1
  | .readState _ => .ok (stalledProgress .stopped)
  | .sendStop _ _ => .ok ()
  | .legacyReport | .validatorState => true
  | .targetExists root => decide (root ∈ h.roots)
  | .consumedExists root => decide (root ∈ h.roots)
  | .pollExit _ => none
  | .dropKill _ => .ok ()
  | .dropWait _ => .ok ⟨some 0⟩

/-- The answers of a host on which nothing goes wrong. -/
def calmReply (h : Host) : (op : HostOp) → op.Reply
  | .gate g => calmGate g
  | .ask q => calmAnswer h q

/-- A rule that answers questions as the calm host does finds no file where there is none. -/
theorem honest_of_calm {reply : Host → (op : HostOp) → op.Reply}
    (hcalm : ∀ h q, reply h (.ask q) = calmAnswer h q) (h : Host) (op : HostOp) :
    op.Honest (reply h op) h := by
  cases op with
  | gate g => trivial
  | ask q =>
    cases q with
    | consumedExists root =>
      rw [hcalm]
      exact of_decide_eq_true
    | _ => trivial

/-- The calm host, but the worker does not listen. -/
def refusedReply (h : Host) : (op : HostOp) → op.Reply
  | .gate (.connect _) => .error "Connection refused (os error 111)"
  | op => calmReply h op

/-- The calm host, but the disk is full when the final report is written. -/
def fullDiskReply (h : Host) : (op : HostOp) → op.Reply
  | .gate (.writeReport evidence) =>
    if evidence.state = .running then .ok () else .error "No space left on device (os error 28)"
  | op => calmReply h op

/-- The execution of the calm payload against a host that answers by a rule. -/
def calmExecution (reply : Host → (op : HostOp) → op.Reply) :
    (Except String CapacityCompositionExecutionEvidence × Unit) × World :=
  (executeCapacityCompositionPayload calmSetting calmPayload 4
    .completedCompositionFrameworkValidation ()).exec (World.answering reply) (World.start ∅ ∅)

theorem calmExecution_reaches {reply : Host → (op : HostOp) → op.Reply}
    (hcalm : ∀ h q, reply h (.ask q) = calmAnswer h q) :
    Reaches World.system
      (executeCapacityCompositionPayload calmSetting calmPayload 4
        .completedCompositionFrameworkValidation ())
      (World.start ∅ ∅) (.pure (calmExecution reply).1) (calmExecution reply).2 :=
  World.answering_reaches (honest_of_calm hcalm) _ _

/-- An execution that fails ends with an error. -/
theorem calmExecution_error {reply : Host → (op : HostOp) → op.Reply}
    (hcalm : ∀ h q, reply h (.ask q) = calmAnswer h q)
    (hfails : (calmExecution reply).1.1.isOk = false) :
    ∃ e, Reaches World.system
      (executeCapacityCompositionPayload calmSetting calmPayload 4
        .completedCompositionFrameworkValidation ())
      (World.start ∅ ∅) (.pure (.error e, ())) (calmExecution reply).2 := by
  have hreaches := calmExecution_reaches hcalm
  rcases hresult : (calmExecution reply).1 with ⟨_ | evidence, _⟩
  · rw [hresult] at hreaches
    exact ⟨_, hreaches⟩
  · rw [hresult] at hfails
    cases hfails

/-- **A worker that is left behind.** The socket is there but the connection is refused: the
    execution ends with an error, and the worker was neither stopped nor reaped. -/
theorem refused_connection_strands_worker :
    ∃ e w, Reaches World.system
        (executeCapacityCompositionPayload calmSetting calmPayload 4
          .completedCompositionFrameworkValidation ())
        (World.start ∅ ∅) (.pure (.error e, ())) w ∧
      100 ∈ w.host.workers ∧ ¬ w.host.Clean := by
  obtain ⟨hfails, hworker⟩ : (calmExecution refusedReply).1.1.isOk = false ∧
      100 ∈ (calmExecution refusedReply).2.host.workers := by
    decide +kernel
  obtain ⟨e, hreaches⟩ := @calmExecution_error refusedReply (fun _ _ => rfl) hfails
  refine ⟨e, _, hreaches, hworker, fun hclean => ?_⟩
  rw [hclean.workers] at hworker
  cases hworker

/-- An execution that fails after its worker was reaped has left nothing behind. -/
theorem full_disk_leaves_nothing :
    ∃ e w, Reaches World.system
        (executeCapacityCompositionPayload calmSetting calmPayload 4
          .completedCompositionFrameworkValidation ())
        (World.start ∅ ∅) (.pure (.error e, ())) w ∧
      (∃ a ∈ w.history, 100 ∈ a.before.workers) ∧ w.host.Clean ∧
      ∀ a ∈ w.history, ¬ a.Strands calmSetting := by
  -- the run is evaluated once for all of this
  obtain ⟨hfails, hworker, hworkers, hscopes, htargets⟩ :
      (calmExecution fullDiskReply).1.1.isOk = false ∧
        (∃ a ∈ (calmExecution fullDiskReply).2.history, 100 ∈ a.before.workers) ∧
        (calmExecution fullDiskReply).2.host.workers = ∅ ∧
        (calmExecution fullDiskReply).2.host.scopes = ∅ ∧
        (calmExecution fullDiskReply).2.host.targets = ∅ := by
    decide +kernel
  obtain ⟨e, hreaches⟩ := @calmExecution_error fullDiskReply (fun _ _ => rfl) hfails
  have hclean : (calmExecution fullDiskReply).2.host.Clean := ⟨hworkers, hscopes, htargets⟩
  exact ⟨e, _, hreaches, hworker, hclean,
    (error_leaves_nothing_iff calmPayload_wellPlanned _ ∅ ∅ hreaches).1 hclean⟩

end Nemor.Capacity
