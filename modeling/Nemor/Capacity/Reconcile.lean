import Nemor.Capacity.Host

/-!
# Reconciling the scope of a worker

After its worker is gone, the scope of a run is stopped if it is exactly the one that was
started and nothing is left in it. What is found before and after is recorded, and the record
decides whether the cleanup has passed. Nothing here can fail.
-/

namespace Nemor.Capacity

open Effectful

/-- The worker is gone, or its pid belongs to another process. -/
def exactWorkerAbsent (identity : OwnedProcessIdentity) : Exec Bool := do
  match ← ask (.processStartTicks identity.pid) with
  | .ok none => return true
  | .ok (some actual) => return decide (actual ≠ identity.startTicks)
  -- unreadable is not absent
  | .error _ => return false

/-- The unit is still the one that was started, with its limits and only its worker. -/
def exactScopeOwnership (current original : ScopeState) (plan : TransientScopePlan) : Bool :=
  decide (current.unitName = plan.unitName) && decide (current.objectPath = original.objectPath) &&
    decide (current.controlGroup = original.controlGroup) &&
    decide (current.memoryMax = plan.memoryMax) &&
    decide (current.runtimeMaxUsec = plan.runtimeMaxUsec) &&
    decide (current.members ⊆ {plan.identity.pid})

/-- How the stop of a scope went. -/
structure ScopeStop where
  action : CompositionScopeStopAction
  stopJobResult : String
  noSuchUnitTyped : Bool
  postErrorReconciliationAttempted : Bool

/-- The worker is absent and, looked at only then, the control group is empty. -/
def workerAndMembersGone (identity : OwnedProcessIdentity) (cgroup : String) : Exec Bool := do
  if ← exactWorkerAbsent identity then
    let members ← ask (.cgroupMembers cgroup)
    return decide (members = some 0)
  else return false

/-- The unit was reported as unknown: look again whether everything is gone. -/
def reconcileNoSuchUnit (plan : TransientScopePlan) (cgroup : String) (error : StopError) :
    Exec ScopeStop := do
  let reread ← ask (.readScopeState .afterError plan.unitName)
  let gone ← workerAndMembersGone plan.identity cgroup
  if gone && reread.toOption == some none then
    return ⟨.stopUnitNoSuchUnitReconciled, "typed_no_such_unit_reconciled", true, true⟩
  else
    return ⟨.stopFailed, "typed_no_such_unit_not_clean: " ++ error.message, true, true⟩

/-- Ask systemd to stop the unit and wait until it is gone. -/
def stopUnit (plan : TransientScopePlan) (cgroup : String) : Exec ScopeStop := do
  match ← ask (.stopOwnedScope plan) with
  | .ok _ =>
    match ← ask (.waitInactiveOrRemoved plan.unitName) with
    | .ok _ => return ⟨.stopUnitRequested, "done", false, false⟩
    | .error _ => return ⟨.stopFailed, "removal_timeout", false, false⟩
  | .error error =>
    if error.noSuchUnit then reconcileNoSuchUnit plan cgroup error
    else return ⟨.stopFailed, "stop_failed: " ++ error.message, false, false⟩

/-- Stop the scope if it is there, owned, empty and without its worker. -/
def stopScope (plan : TransientScopePlan) (cgroup : String) (readable present owned : Bool)
    (memberCount : Option ℕ) (workerAbsent : Bool) : Exec ScopeStop :=
  if !readable then
    return ⟨.stopFailed, "state_unreadable_stop_not_requested", false, false⟩
  else if !present then
    return ⟨.alreadyAbsent, "not_requested_already_absent", false, false⟩
  else if owned && decide (memberCount = some 0) && workerAbsent then
    stopUnit plan cgroup
  else
    return ⟨.stopFailed, "ownership_or_membership_ambiguous_stop_not_requested", false, false⟩

/-- What the observations of a clean-up come to. -/
def classifyCleanup (stop : ScopeStop) (preReadable owned finalReadable : Bool)
    (preMembers : Option ℕ) (workerAbsent cgroupEmpty unitRemoved : Bool) :
    CompositionScopeCleanupClassification :=
  if !preReadable || !finalReadable then .stateUnreadable
  else if stop.action = .stopFailed then
    -- the result text tells the failures of a stop apart
    if stop.stopJobResult = "removal_timeout" then .removalTimeout
    else if !owned || decide (preMembers ≠ some 0) then .ownershipAmbiguous
    else .stopFailed
  else if !workerAbsent || !cgroupEmpty || !unitRemoved then .activeOrMembered
  else .clean

/-- `reconcile_composition_scope`. -/
def reconcileCompositionScope (plan : TransientScopePlan) (original : ScopeState)
    (cgroup : String) : Exec CompositionScopeCleanupEvidence := do
  let workerAbsentBefore ← exactWorkerAbsent plan.identity
  let pre ← ask (.readScopeState .beforeStop plan.unitName)
  let preReadable := pre.isOk
  let preState := pre.toOption.join
  let preMembers ← ask (.cgroupMembers cgroup)
  -- a scope that is not there counts as owned
  let owned := (preState.map fun state => exactScopeOwnership state original plan).getD preReadable
  let stop ← stopScope plan cgroup preReadable preState.isSome owned preMembers workerAbsentBefore
  let final ← ask (.readScopeState .last plan.unitName)
  let finalState := final.toOption.join
  let finalMembers ← ask (.cgroupMembers cgroup)
  let cgroupEmpty := decide (finalMembers = some 0)
  let unitRemoved := final.isOk && finalState.isNone
  let workerAbsent ← exactWorkerAbsent plan.identity
  let classification := classifyCleanup stop preReadable owned final.isOk preMembers workerAbsent
    cgroupEmpty unitRemoved
  let removalWaitMs ← ask .elapsedMs
  return {
    frozenUnitName := plan.unitName
    frozenObjectPath := original.objectPath
    frozenControlGroup := original.controlGroup
    workerPid := plan.identity.pid
    workerStartTicks := plan.identity.startTicks
    workerAbsent := workerAbsent
    preStopStateReadable := preReadable
    preStopUnitPresent := preState.isSome
    preStopActiveState := preState.map ScopeState.activeState
    preStopSubState := preState.map ScopeState.subState
    preStopCgroupMemberCount := preMembers
    ownershipExact := owned
    stopAction := stop.action
    stopJobResult := some stop.stopJobResult
    noSuchUnitTyped := stop.noSuchUnitTyped
    postErrorReconciliationAttempted := stop.postErrorReconciliationAttempted
    finalStateReadable := final.isOk
    finalActiveState := finalState.map ScopeState.activeState
    finalSubState := finalState.map ScopeState.subState
    finalCgroupMemberCount := finalMembers
    cgroupAbsentOrZeroMembers := cgroupEmpty
    unitRemoved := unitRemoved
    removalWaitMs := removalWaitMs
    classification := classification
    failureReason := if classification = .clean then none else some classification.debug }

end Nemor.Capacity
