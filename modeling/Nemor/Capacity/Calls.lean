import Nemor.Capacity.Composition

/-!
# What the parts of an execution call

The parts that serve a target or reconcile a scope reap no worker and record no level. This
says once which calls they make, so that what other calls change need not be looked at there.
-/

namespace Nemor.Capacity

open Effectful Act

/-- Calls that reap no worker and record no level. -/
def HostOp.Aside : HostOp → Prop
  | .gate (.waitWorker _) | .gate (.writeLevelEvidence _ _) | .gate (.insertLevel ..) => False
  | _ => True

section Aside

variable {P : HostOp → Prop} (env : Setting)

theorem only_gate {g : Gate} (h : P (.gate g)) : Only P (gate env g) := only_perform h

theorem only_ask {q : Question} (h : P (.ask q)) : Only P (ask q) := only_request h

theorem removeEntries_aside (paths : List String) : Only HostOp.Aside (removeEntries env paths) := by
  induction paths with
  | nil => exact only_pure ()
  | cons path paths ih =>
    refine only_bind (only_gate env trivial) fun _ => ?_
    exact only_bind (only_gate env trivial) fun _ => ih

theorem removeTargetRoot_aside (root : TargetRoot) :
    Only HostOp.Aside (removeTargetRoot env root) := by
  refine only_ite (only_fail _) ?_
  refine only_bind (only_gate env trivial) fun paths => ?_
  exact only_bind (removeEntries_aside env paths) fun _ => only_gate env trivial

theorem removeIfThere_aside (root : TargetRoot) : Only HostOp.Aside (removeIfThere env root) := by
  refine only_bind (only_ask trivial) fun there => ?_
  exact only_ite (removeTargetRoot_aside env root) (only_pure ())

theorem killAndWait_aside (guard : ExactTargetGuard) : Only HostOp.Aside (killAndWait env guard) := by
  refine only_bind (only_gate env trivial) fun startTicks => ?_
  refine only_ite ?_ (only_gate env trivial)
  exact only_bind (only_gate env trivial) fun _ => only_gate env trivial

theorem stopAndReap_aside (guard : ExactTargetGuard) :
    Only HostOp.Aside (guard.stopAndReap env) := by
  refine only_bind (only_ask trivial) fun _ => ?_
  refine only_bind (only_gate env trivial) fun exited => ?_
  cases exited with
  | some status => exact only_pure status
  | none => exact killAndWait_aside env guard

theorem drop_aside (guard : ExactTargetGuard) : Only HostOp.Aside (guard.drop env) := by
  have hremove : Only HostOp.Aside (do let _ ← attempt (removeIfThere env guard.root)) :=
    only_bind (only_attempt (removeIfThere_aside env guard.root)) fun _ => only_pure ()
  refine only_bind (only_ask trivial) fun _ => ?_
  refine only_bind (only_ask trivial) fun exited => ?_
  cases exited with
  | some status => exact hremove
  | none =>
    refine only_bind (only_ask trivial) fun startTicks => ?_
    rcases startTicks with error | _ | startTicks
    · exact only_pure ()
    · exact only_pure ()
    · refine only_ite ?_ (only_pure ())
      refine only_bind (only_ask trivial) fun _ => ?_
      exact only_bind (only_ask trivial) fun _ => hremove

theorem orDrop_aside {α : Type} (guard : ExactTargetGuard) {m : Exec α}
    (hm : Only HostOp.Aside m) : Only HostOp.Aside (guard.orDrop env m) := by
  refine only_bind (only_attempt hm) fun r => ?_
  cases r with
  | ok a => exact only_pure a
  | error e => exact only_bind (only_attempt (drop_aside env guard)) fun _ => only_fail e

theorem awaitTarget_aside (payload : CapacityCompositionPayload) (guard : ExactTargetGuard)
    (creatorStartTicks : UInt64) :
    Only HostOp.Aside (awaitTarget env payload guard creatorStartTicks) := by
  refine only_bind (only_gate env trivial) fun _ => ?_
  refine only_bind (only_gate env trivial) fun descriptor => ?_
  refine only_bind (only_gate env trivial) fun _ => ?_
  exact only_bind (only_gate env trivial) fun _ => only_pure descriptor

theorem abandonTarget_aside {α : Type} (guard : ExactTargetGuard) (error : String) :
    Only HostOp.Aside (abandonTarget env guard error : Exec α) := by
  refine only_bind (only_attempt (stopAndReap_aside env guard)) fun r => ?_
  cases r with
  | error cleanup =>
    exact only_bind (only_attempt (drop_aside env guard)) fun _ => only_fail _
  | ok _ =>
    refine only_bind (only_attempt (removeIfThere_aside env guard.root)) fun r => ?_
    cases r with
    | error cleanup => exact only_fail _
    | ok _ => exact only_fail error

theorem spawnTarget_aside (payload : CapacityCompositionPayload) (root : TargetRoot)
    (transactionId sessionId nonce : String) :
    Only HostOp.Aside (spawnTarget env payload root transactionId sessionId nonce) := by
  refine only_bind (only_gate env trivial) fun _ => ?_
  refine only_bind (only_gate env trivial) fun _ => ?_
  refine only_bind (only_gate env trivial) fun creatorStartTicks => ?_
  refine only_bind (only_gate env trivial) fun pid => ?_
  refine only_bind (only_gate env trivial) fun startTicks => ?_
  refine only_bind (only_attempt (awaitTarget_aside env payload _ creatorStartTicks)) fun r => ?_
  cases r with
  | ok descriptor => exact only_pure _
  | error error => exact abandonTarget_aside env _ error

theorem validateTarget_aside (payload : CapacityCompositionPayload) (guard : ExactTargetGuard)
    (transactionId sessionId levelDir : String) (before : CapacityExternalTargetProgress) :
    Only HostOp.Aside
      (validateTarget env payload guard transactionId sessionId levelDir before) := by
  refine only_bind (only_gate env trivial) fun _ => ?_
  refine only_bind (only_gate env trivial) fun _ => ?_
  refine only_bind (only_ask trivial) fun legacyAbsentBefore => ?_
  refine only_bind (only_gate env trivial) fun creatorStartTicks => ?_
  refine only_bind (only_gate env trivial) fun status => ?_
  exact only_bind (only_gate env trivial) fun report => only_pure _

theorem baselineReportLifecycle_aside : Only HostOp.Aside baselineReportLifecycle := by
  refine only_bind (only_ask trivial) fun legacyBefore => ?_
  refine only_bind (only_ask trivial) fun legacyAfter => ?_
  exact only_bind (only_ask trivial) fun stateAbsent => only_pure _

theorem exerciseTarget_aside (guard : ExactTargetGuard) (descriptorHash : String)
    (before : CapacityExternalTargetProgress) :
    Only HostOp.Aside (exerciseTarget env guard descriptorHash before) := by
  refine only_bind (only_gate env trivial) fun _ => ?_
  refine only_bind (only_gate env trivial) fun _ => ?_
  refine only_bind (only_gate env trivial) fun _ => ?_
  exact only_bind baselineReportLifecycle_aside fun lifecycle => only_pure _

theorem stopIfActive_aside (guard : ExactTargetGuard) (progressPath : String) :
    Only HostOp.Aside (stopIfActive guard progressPath) := by
  refine only_bind (only_ask trivial) fun r => ?_
  cases r with
  | error error => exact only_pure ()
  | ok progress =>
    exact only_ite (only_pure ()) (only_bind (only_ask trivial) fun _ => only_pure ())

theorem serveTarget_aside (payload : CapacityCompositionPayload) (variant : BenchmarkVariant)
    (guard : ExactTargetGuard) (descriptor : CapacityExternalTargetDescriptor)
    (transactionId sessionId levelDir : String) :
    Only HostOp.Aside
      (serveTarget env payload variant guard descriptor transactionId sessionId levelDir) := by
  refine only_bind (only_gate env trivial) fun before => ?_
  have hact : Only HostOp.Aside (actOnTarget env payload variant guard descriptor transactionId
      sessionId levelDir before) :=
    only_ite (validateTarget_aside env payload guard transactionId sessionId levelDir before)
      (exerciseTarget_aside env guard _ before)
  refine only_bind hact fun service => ?_
  exact only_bind (stopIfActive_aside guard _) fun _ => only_pure service

theorem concludeTarget_aside (run : CompositionRunPlan) (root : TargetRoot)
    (transactionId sessionId levelDir : String) (descriptor : CapacityExternalTargetDescriptor)
    (service : TargetService) (status : ExitStatus) :
    Only HostOp.Aside (concludeTarget env run root transactionId sessionId levelDir descriptor
      service status) := by
  refine only_bind (only_gate env trivial) fun after => ?_
  refine only_bind (only_gate env trivial) fun _ => ?_
  refine only_bind (only_gate env trivial) fun _ => ?_
  refine only_bind (removeTargetRoot_aside env root) fun _ => ?_
  refine only_bind (only_ask trivial) fun legacyAbsentAfter => ?_
  refine only_bind (only_ask trivial) fun validatorStateAbsent => ?_
  exact only_bind (only_ask trivial) fun consumed => only_pure _

/-- **A target is served aside of the worker and the records.** -/
theorem targetForLevel_aside (payload : CapacityCompositionPayload) (run : CompositionRunPlan)
    (levelIndex : ℕ) (levelDir : String) :
    Only HostOp.Aside (targetForLevel env payload run levelIndex levelDir) := by
  refine only_bind (spawnTarget_aside env payload _ _ _ _) fun started => ?_
  refine only_bind (orDrop_aside env started.1 (serveTarget_aside env _ _ _ _ _ _ _)) fun service => ?_
  refine only_bind (orDrop_aside env started.1 (stopAndReap_aside env started.1)) fun status => ?_
  exact concludeTarget_aside env _ _ _ _ _ _ _ _

theorem loadLevel_aside (payload : CapacityCompositionPayload) (identity : OwnedProcessIdentity)
    (levelDir : String) (level : PlannedPressureLevel) (prior : UInt64) :
    Only HostOp.Aside (loadLevel env payload identity levelDir level prior) := by
  refine only_bind (only_gate env trivial) fun _ => ?_
  refine only_bind (only_ofExcept _) fun command => ?_
  refine only_bind (only_gate env trivial) fun monotonicNs => ?_
  refine only_bind (only_gate env trivial) fun acknowledgement => ?_
  refine only_bind (only_gate env trivial) fun pressureIntegrityIdentity => ?_
  exact only_bind (only_gate env trivial) fun heartbeat => only_pure _

theorem readLevel_aside (identity : OwnedProcessIdentity) (scope : ScopeState)
    (before : StructuralSnapshot) (level : PlannedPressureLevel) :
    Only HostOp.Aside (readLevel env identity scope before level) := by
  refine only_bind (only_gate env trivial) fun heartbeat => ?_
  refine only_bind (only_ask trivial) fun _ => ?_
  refine only_bind (only_ask trivial) fun oom => ?_
  refine only_bind (only_ask trivial) fun oomKill => ?_
  refine only_bind (only_ask trivial) fun now => ?_
  refine only_bind (only_ask trivial) fun memoryCurrentBytes => ?_
  refine only_bind (only_ask trivial) fun memoryPeakBytes => ?_
  refine only_bind (only_ask trivial) fun hostPsi => ?_
  exact only_bind (only_ask trivial) fun cgroupPsi => only_pure _

theorem startWorker_aside (payload : CapacityCompositionPayload) (run : CompositionRunPlan) :
    Only HostOp.Aside (startWorker env payload run) := by
  refine only_bind (only_gate env trivial) fun pid => ?_
  refine only_bind (only_gate env trivial) fun startTicks => ?_
  refine only_bind (only_gate env trivial) fun _ => ?_
  refine only_bind (only_gate env trivial) fun _ => ?_
  exact only_bind (only_gate env trivial) fun _ => only_pure _

theorem startScope_aside (payload : CapacityCompositionPayload) (plan : TransientScopePlan) :
    Only HostOp.Aside (startScope env payload plan) := by
  refine only_bind (only_gate env trivial) fun _ => ?_
  refine only_bind (only_gate env trivial) fun scope => ?_
  refine only_bind (only_gate env trivial) fun _ => ?_
  refine only_bind (only_gate env trivial) fun _ => ?_
  exact only_bind (only_gate env trivial) fun _ => only_pure _

theorem persistExecution_aside (evidence : CapacityCompositionExecutionEvidence) :
    Only HostOp.Aside (persistExecution env evidence) :=
  only_bind (only_gate env trivial) fun _ => only_gate env trivial

end Aside

/-! ## Reconciliation -/

/-- Questions that reap no target and do not end the reconciliation of a scope. -/
def Question.Harmless : Question → Prop
  | .pollExit _ | .dropWait _ | .readScopeState .last _ => False
  | _ => True

section Reconciliation

variable {K L E : World → Prop}

/-- Harmless questions keep `K`. -/
def Asking (K E : World → Prop) : Prop :=
  ∀ q : Question, q.Harmless → Triple World.system K (ask q) (fun _ => K) E

theorem exactWorkerAbsent_keeps (h : Asking K E) (identity : OwnedProcessIdentity) :
    Triple World.system K (exactWorkerAbsent identity) (fun _ => K) E := by
  refine triple_bind (h _ trivial) fun r => ?_
  rcases r with error | _ | startTicks <;> exact triple_pure fun _ h => h

theorem workerAndMembersGone_keeps (h : Asking K E) (identity : OwnedProcessIdentity)
    (cgroup : String) :
    Triple World.system K (workerAndMembersGone identity cgroup) (fun _ => K) E := by
  refine triple_bind (exactWorkerAbsent_keeps h identity) fun absent => ?_
  refine triple_ite (fun _ => ?_) fun _ => triple_pure fun _ h => h
  exact triple_bind (h _ trivial) fun _ => triple_pure fun _ h => h

theorem reconcileNoSuchUnit_keeps (h : Asking K E) (plan : TransientScopePlan) (cgroup : String)
    (error : StopError) :
    Triple World.system K (reconcileNoSuchUnit plan cgroup error) (fun _ => K) E := by
  refine triple_bind (h _ trivial) fun reread => ?_
  refine triple_bind (workerAndMembersGone_keeps h plan.identity cgroup) fun gone => ?_
  exact triple_ite (fun _ => triple_pure fun _ h => h) fun _ => triple_pure fun _ h => h

theorem stopUnit_keeps (h : Asking K E) (plan : TransientScopePlan) (cgroup : String) :
    Triple World.system K (stopUnit plan cgroup) (fun _ => K) E := by
  refine triple_bind (h _ trivial) fun r => ?_
  cases r with
  | ok _ =>
    refine triple_bind (h _ trivial) fun r => ?_
    cases r with
    | ok _ => exact triple_pure fun _ h => h
    | error _ => exact triple_pure fun _ h => h
  | error error =>
    exact triple_ite (fun _ => reconcileNoSuchUnit_keeps h plan cgroup error)
      fun _ => triple_pure fun _ h => h

theorem stopScope_keeps (h : Asking K E) (plan : TransientScopePlan) (cgroup : String)
    (readable present owned : Bool) (memberCount : Option ℕ) (workerAbsent : Bool) :
    Triple World.system K
      (stopScope plan cgroup readable present owned memberCount workerAbsent) (fun _ => K) E := by
  refine triple_ite (fun _ => triple_pure fun _ h => h) fun _ => ?_
  refine triple_ite (fun _ => triple_pure fun _ h => h) fun _ => ?_
  exact triple_ite (fun _ => stopUnit_keeps h plan cgroup) fun _ => triple_pure fun _ h => h

/-- **A reconciliation only asks.** Its last reading of the state is what ends it. -/
theorem reconcileCompositionScope_leads (hbefore : Asking K E) (hafter : Asking L E)
    (plan : TransientScopePlan)
    (hlast : Triple World.system K (ask (.readScopeState .last plan.unitName)) (fun _ => L) E)
    (original : ScopeState) (cgroup : String) :
    Triple World.system K (reconcileCompositionScope plan original cgroup) (fun _ => L) E := by
  refine triple_bind (exactWorkerAbsent_keeps hbefore plan.identity) fun workerAbsentBefore => ?_
  refine triple_bind (hbefore _ trivial) fun pre => ?_
  refine triple_bind (hbefore _ trivial) fun preMembers => ?_
  refine triple_bind (stopScope_keeps hbefore plan cgroup _ _ _ _ _) fun stop => ?_
  refine triple_bind hlast fun final => ?_
  refine triple_bind (hafter _ trivial) fun finalMembers => ?_
  refine triple_bind (exactWorkerAbsent_keeps hafter plan.identity) fun workerAbsent => ?_
  exact triple_bind (hafter _ trivial) fun removalWaitMs => triple_pure fun _ h => h

end Reconciliation

end Nemor.Capacity
