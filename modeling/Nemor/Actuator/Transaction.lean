import Nemor.Actuator.World

/-!
# Applying, rolling back and recovering a mutation

`applyOne`, `rollbackOne` and `recover` call by call. The error paths of `applyOne` that
roll back on the spot share one tail, `abandon`.
-/

namespace Nemor.Actuator

open Effectful

/-! ## §1 Rollback -/

/-- Move the process back if it still is the one of the snapshot. -/
def restorePlacement {τ : Type} (snapshot : MutationSnapshot) : Act calls τ ActuatorError Unit := do
  let start : Option UInt64 ← issue (.processStartTime snapshot.pid)
  -- the group is only asked for when the start time matches
  if start = some snapshot.startTimeTicks then
    let group : Option String ← issue (.processGroup snapshot.pid)
    if group.isSome then
      let original : Option GroupState ← issue (.inspectGroup snapshot.originalGroup)
      if original.isNone then
        Act.fail (.blocked "original group disappeared; placement left untouched")
      else
        issue (.attachPid snapshot.originalGroup snapshot.pid)
    else
      pure ()
  else
    pure ()

/-- Write the original limits back and remove the group if it is empty. -/
def restoreGroup {τ : Type} (snapshot : MutationSnapshot) : Act calls τ ActuatorError Unit := do
  let target : Option GroupState ← issue (.inspectGroup snapshot.targetGroup)
  if target.isSome then
    issue (.setProperties snapshot.targetGroup snapshot.originalProperties)
    issue (.cleanupEmptyOwnedGroup snapshot.targetGroup)
    let left : Option GroupState ← issue (.inspectGroup snapshot.targetGroup)
    if left.isNone then
      issue (.removeManagedGroup snapshot.targetGroup)
    else
      pure ()
  else
    pure ()

/-- The body of `rollbackOne`, on the value its argument has at the call. -/
def undo (snapshot : MutationSnapshot) : Act calls MutationSnapshot ActuatorError Unit :=
  if snapshot.rolledBack = true then
    pure ()
  else if isManagedName snapshot.targetGroup = false then
    Act.fail (.blocked "refusing rollback of non-Nemor group")
  else do
    restorePlacement snapshot
    restoreGroup snapshot
    Act.assign fun s => { s with rolledBack := true }
    issue (.update { snapshot with rolledBack := true })

/-- Undo the mutation of a snapshot. -/
def rollbackOne : Act calls MutationSnapshot ActuatorError Unit := do
  let snapshot ← Act.current
  undo snapshot

/-! ## §2 Apply -/

/-- Note the error, roll back and report it. -/
def abandon (snapshot : MutationSnapshot) (error : ActuatorError) :
    Act calls Unit ActuatorError (Option MutationSnapshot) := do
  let snapshot := { snapshot with lastError := some error.display }
  issue (.update snapshot)
  Act.locally snapshot rollbackOne
  Act.fail error

/-- Mark the mutation as applied and compare the group with the request. -/
def confirm (plan : CgroupPlan) (snapshot : MutationSnapshot) :
    Act calls Unit ActuatorError (Option MutationSnapshot) := do
  let snapshot := { snapshot with applied := true }
  issue (.update snapshot)
  match ← issue (.inspectGroup plan.targetGroup) with
  | none => Act.fail (.verification "target disappeared")
  | some state =>
    if plan.pid ∉ GroupState.pids state ∨
        GroupState.memoryLow state ≠ plan.properties.memoryLow ∨
        GroupState.memoryHigh state ≠ plan.properties.memoryHigh then
      abandon snapshot (.verification "readback differs from request")
    else
      let snapshot := { snapshot with verified := true }
      issue (.update snapshot)
      pure (some snapshot)

/-- `backend.kind()` of the Linux backend. -/
def kind : BackendKind := .linuxCgroupfs

/-- Make the group if it is not there, and record it as ours. -/
def ensureGroup (sessionId : Int64) (name : String) : Act calls Unit ActuatorError Unit := do
  let present : Option GroupState ← issue (.inspectGroup name)
  if present.isNone then
    let _ ← issue (.createManagedGroup name)
    issue (.recordManagedGroup name sessionId kind)
  else
    pure ()

/-- The part of `applyOne` after the snapshot is stored. -/
def mutate (sessionId : Int64) (plan : CgroupPlan) (snapshot : MutationSnapshot) :
    Act calls Unit ActuatorError (Option MutationSnapshot) := do
  ensureGroup sessionId plan.targetGroup
  match ← ask (.setProperties plan.targetGroup plan.properties) with
  | .error e => abandon snapshot e
  | .ok _ =>
    match ← ask (.attachPid plan.targetGroup plan.pid) with
    | .error e => abandon snapshot e
    | .ok _ => confirm plan snapshot

/-- The snapshot of a plan before anything is done. -/
def initialSnapshot (sessionId timestampNs : Int64) (plan : CgroupPlan) (originalGroup : String)
    (target : Option GroupState) : MutationSnapshot where
  id := 0
  sessionId := sessionId
  timestampNs := timestampNs
  processCatalogId := plan.processCatalogId
  identity := plan.identity
  pid := plan.pid
  startTimeTicks := plan.startTimeTicks
  originalGroup := originalGroup
  targetGroup := plan.targetGroup
  originalProperties :=
    target.elim { memoryLow := none, memoryHigh := none } fun state =>
      { memoryLow := state.memoryLow, memoryHigh := state.memoryHigh }
  requestedProperties := plan.properties
  reason := plan.reason
  applied := false
  verified := false
  rolledBack := false
  lastError := none

/-- Store the snapshot and carry the plan out. -/
def record (sessionId timestampNs : Int64) (plan : CgroupPlan) (originalGroup : String) :
    Act calls Unit ActuatorError (Option MutationSnapshot) := do
  let target : Option GroupState ← issue (.inspectGroup plan.targetGroup)
  let snapshot := initialSnapshot sessionId timestampNs plan originalGroup target
  let id : ℕ ← issue (.persist snapshot)
  mutate sessionId plan { snapshot with id := id }

/-- The checks on the process before its placement is read. -/
def identify (plan : CgroupPlan) : Act calls Unit ActuatorError String := do
  let capabilities : CgroupCapabilities ← issue .capabilities
  if capabilities.mutationReady = false then
    Act.fail (.capability "complete writable cgroup v2 memory interface required")
  else
    let start : Option UInt64 ← issue (.processStartTime plan.pid)
    if start ≠ some plan.startTimeTicks then
      Act.fail (.blocked "stale process identity")
    else
      match ← issue (.processGroup plan.pid) with
      | none => Act.fail (.blocked "process terminated")
      | some originalGroup => pure originalGroup

/-- `apply_one`: snapshot, group, limits, process. A failure undoes what was done. -/
def applyOne (sessionId timestampNs : Int64) (plan : CgroupPlan) :
    Act calls Unit ActuatorError (Option MutationSnapshot) :=
  if plan.dryRun = true then
    pure none
  else if plan.allowed = false then
    Act.fail (.blocked (",".intercalate plan.blockReasons))
  else if isManagedName plan.targetGroup = false then
    Act.fail (.blocked "target is not Nemor-owned")
  else do
    let originalGroup ← identify plan
    record sessionId timestampNs plan originalGroup

/-! ## §3 Recovery -/

/-- Undo pending snapshots, one after the other, whatever becomes of each. -/
def recoverAll : List MutationSnapshot →
    Act calls Unit ActuatorError (List (Except ActuatorError Unit))
  | [] => pure []
  | snapshot :: rest => do
    let result ← Act.attempt (Act.locally snapshot rollbackOne)
    let results ← recoverAll rest
    pure (result :: results)

/-- Roll back every pending snapshot, oldest first. -/
def recover : Act calls Unit ActuatorError (List (Except ActuatorError Unit)) := do
  match ← ask .pending with
  | .ok pending => recoverAll pending
  | .error e => pure [.error e]

/-- The world after an undisturbed recovery. -/
def recovered (w : World) : World := ((recover ()).exec World.handle w).2

/-! ## §4 A small hierarchy -/

/-- One group with one process in it. -/
def smallKernel : Kernel where
  root := "/sys/fs/cgroup"
  controllers := some ["cpu", "memory"]
  procsWritable := true
  groups := Finmap.singleton "app.slice" .fresh
  procs := Finmap.singleton 7 { startTimeTicks := 100, group := "app.slice" }
  normalized := by
    intro key hkey
    rw [(Finmap.mem_singleton _ _ _).1 hkey]
    decide
  parents := by
    intro key hkey parent hbelow
    rw [(Finmap.mem_singleton _ _ _).1 hkey] at hbelow
    have hslash := (List.isPrefixOf_iff_prefix.1 hbelow).subset (a := '/') (by simp)
    exact absurd hslash (by decide)
  placed := by
    intro pid q hq
    have hpid := (Finmap.mem_singleton _ _ _).1 (Finmap.mem_of_lookup_eq_some hq)
    subst hpid
    rw [Finmap.lookup_singleton_eq, Option.some.injEq] at hq
    rw [← hq]
    exact .inr ((Finmap.mem_singleton _ _ _).2 rfl)

/-- A host with an empty store. -/
def smallWorld : World := { kernel := smallKernel, store := emptyStore }

/-- Protect that process in the group `target`. -/
def protectPlan (target : String) : CgroupPlan where
  processCatalogId := 1
  identity := "2c26b46b68ffc68ff99b453c1d30413413422d706483bfa0f98a5e886266e7ae"
  pid := 7
  startTimeTicks := 100
  sourceGroup := "/app.slice"
  targetGroup := target
  properties := { memoryLow := some 1048576, memoryHigh := none }
  reason := "dynamic_foreground_protection"
  allowed := true
  blockReasons := []
  dryRun := false

end Nemor.Actuator
