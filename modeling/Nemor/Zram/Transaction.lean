import Nemor.Zram.Backend

/-!
# zram: the replacement transaction

`applyPlan` creates a replacement device next to the original, brings it up, and only then
takes the original out of use; an error on the way rolls the replacement back.
`recoverPending` is the restart path. The snapshot is the transaction's mutable memory: a
crash leaves the snapshot as it was when the next operation was about to be issued.
-/

namespace Nemor.Zram

open Effectful

/-! ## §1 Snapshots -/

/-- What a device is to become. -/
structure ZramProfilePlan where
  selectedAlgorithm : Option String
  proposedDisksize : Option UInt64
  proposedPriority : Option Int32
  requiresSwapMigration : Bool
  allowed : Bool
  blockedReasons : List String
  dryRun : Bool
  deriving DecidableEq

/-- How far a change has come. -/
inductive MutationPhase where
  | snapshot
  | replacementCreated
  | algorithmConfigured
  | initialized
  | activated
  | originalDeactivated
  | verified
  | rolledBack
  deriving DecidableEq

/-- What is needed to undo a change. -/
structure MutationSnapshot where
  original : DeviceInventory
  replacementName : Option String
  requestedPlan : ZramProfilePlan
  phase : MutationPhase
  rollbackPending : Bool
  lastError : Option String
  deriving DecidableEq

/-- What a call has come to. -/
structure TransactionOutcome where
  applied : Bool
  verified : Bool
  rolledBack : Bool
  phase : MutationPhase
  deriving DecidableEq

/-- A transaction procedure: it may call the backend, assign to the snapshot and fail. -/
abbrev Transaction (α : Type) := Act zramBackend MutationSnapshot ZramError α

/-! ## §2 Backend calls -/

/-- How much swap there is. -/
abbrev effectiveValidSwapCapacity : Transaction UInt64 :=
  Act.perform (I := zramBackend) .effectiveValidSwapCapacity fun r => r

/-- Add a device. -/
abbrev createIsolatedManagedDevice : Transaction DeviceInventory :=
  Act.perform (I := zramBackend) .createIsolatedManagedDevice fun r => r

/-- Set the algorithm of a new device. -/
abbrev configureUninitialized (name algorithm : String) : Transaction Unit :=
  Act.perform (I := zramBackend) (.configureUninitialized name algorithm) fun r => r

/-- Set its size. -/
abbrev initializeDevice (name : String) (disksize : UInt64) : Transaction Unit :=
  Act.perform (I := zramBackend) (.initializeDevice name disksize) fun r => r

/-- Use it as swap. -/
abbrev activate (name : String) (priority : Int32) : Transaction Unit :=
  Act.perform (I := zramBackend) (.activate name priority) fun r => r

/-- Use it no more. -/
abbrev deactivate (name : String) : Transaction Unit :=
  Act.perform (I := zramBackend) (.deactivate name) fun r => r

/-- Read a device back. -/
abbrev verify (name : String) : Transaction DeviceInventory :=
  Act.perform (I := zramBackend) (.verify name) fun r => r

/-- Remove a device. -/
abbrev removeManagedDevice (name : String) : Transaction Unit :=
  Act.perform (I := zramBackend) (.removeManagedDevice name) fun r => r

/-- Whether a device is in the registry of the backend. -/
abbrev isOwned (name : String) : Transaction Bool :=
  Act.perform (I := zramBackend) (.isOwned name) fun b => .ok b

/-! ## §3 The procedures -/

/-- There is swap at this moment. -/
def ensureSwap : Transaction Unit := do
  let capacity ← effectiveValidSwapCapacity
  if capacity = 0 then Act.fail (.verification "no-swap-loss invariant violated")

/-- What a rollback comes to. -/
def rolledBackOutcome : TransactionOutcome := ⟨false, true, true, .rolledBack⟩

/-- Bring the original back into use if it was in use when the snapshot was taken. -/
def restoreOriginal (original : DeviceInventory) : Transaction Unit := do
  if original.activeSwap then
    let current ← verify original.name
    if !current.activeSwap then
      activate original.name (original.priority.getD 100)
      ensureSwap

/-- Take the replacement out of use and remove it, if there is one and it is ours. -/
def discardReplacement (replacementName : Option String) : Transaction Unit := do
  match replacementName with
  | none => pure ()
  | some replacement =>
    if ← isOwned replacement then
      let current ← verify replacement
      if current.activeSwap then
        deactivate replacement
        ensureSwap
      removeManagedDevice replacement

/-- Undo the change. One that is undone is left alone. -/
def rollback : Transaction TransactionOutcome := do
  let snapshot ← Act.current
  if snapshot.phase = .rolledBack then return rolledBackOutcome
  restoreOriginal snapshot.original
  discardReplacement snapshot.replacementName
  Act.assign fun m => { m with phase := .rolledBack, rollbackPending := false }
  return rolledBackOutcome

/-- Take the original out of use once the replacement carries the swap. -/
def migrate (original : DeviceInventory) (initialCapacity : UInt64) : Transaction Unit := do
  if initialCapacity = 0 then
    Act.fail (.verification "migration cannot start without valid swap")
  deactivate original.name
  Act.assign fun m => { m with phase := .originalDeactivated }
  ensureSwap

/-- First half of `applyAfterCreate`: configure, size and switch on the replacement. -/
def bringUp (snapshot : MutationSnapshot) : Transaction String := do
  let plan := snapshot.requestedPlan
  let replacement ← Act.ofExcept
    (snapshot.replacementName.elim (.error (.verification "replacement is missing")) .ok)
  let algorithm ← Act.ofExcept
    (plan.selectedAlgorithm.elim (.error (.blocked "selected algorithm unavailable")) .ok)
  configureUninitialized replacement algorithm
  Act.assign fun m => { m with phase := .algorithmConfigured }
  let disksize ← Act.ofExcept ((plan.proposedDisksize.filter fun value => 0 < value).elim
    (.error (.blocked "proposed disksize invalid")) .ok)
  initializeDevice replacement disksize
  Act.assign fun m => { m with phase := .initialized }
  let initialized ← verify replacement
  if initialized.disksize ≠ some disksize then
    Act.fail (.verification "replacement disksize readback mismatch")
  activate replacement (plan.proposedPriority.getD 100)
  Act.assign fun m => { m with phase := .activated }
  return replacement

/-- Second half of `applyAfterCreate`: migrate if asked to, and verify the replacement. -/
def switchOver (snapshot : MutationSnapshot) (initialCapacity : UInt64) (replacement : String) :
    Transaction TransactionOutcome := do
  ensureSwap
  if snapshot.requestedPlan.requiresSwapMigration then
    migrate snapshot.original initialCapacity
  let verified ← verify replacement
  if !verified.activeSwap then
    Act.fail (.verification "replacement is not active swap")
  Act.assign fun m => { m with phase := .verified, rollbackPending := false }
  return ⟨true, true, false, .verified⟩

/-- The change once its device is there. -/
def applyAfterCreate (initialCapacity : UInt64) : Transaction TransactionOutcome := do
  let snapshot ← Act.current
  let replacement ← bringUp snapshot
  switchOver snapshot initialCapacity replacement

/-- The device may be changed. -/
def ownedOrAdopted (d : DeviceInventory) : Bool :=
  d.ownership == .nemorOwned || d.ownership == .adopted

/-- The error path of `applyPlan`: the rollback's own result is dropped. -/
def abandon (error : ZramError) : Transaction TransactionOutcome := do
  Act.assign fun m => { m with lastError := some error.display, rollbackPending := true }
  let _ ← Act.attempt rollback
  Act.fail error

/-- `apply`: add the new device, switch over, and keep the old one until then. -/
def applyPlan : Transaction TransactionOutcome := do
  let snapshot ← Act.current
  let plan := snapshot.requestedPlan
  if plan.dryRun then return ⟨false, false, false, .snapshot⟩
  if !plan.allowed then Act.fail (.blocked (",".intercalate plan.blockedReasons))
  if !ownedOrAdopted snapshot.original then
    Act.fail (.blocked "original ownership is ambiguous")
  let initialCapacity ← effectiveValidSwapCapacity
  let replacement ← createIsolatedManagedDevice
  Act.assign fun m =>
    { m with replacementName := some replacement.name, phase := .replacementCreated }
  match ← Act.attempt (applyAfterCreate initialCapacity) with
  | .ok outcome => return outcome
  | .error error => abandon error

/-- Undo a change that was interrupted. -/
def recoverPending : Transaction TransactionOutcome := do
  let snapshot ← Act.current
  if !snapshot.rollbackPending || snapshot.phase = .rolledBack then
    return ⟨false, true, snapshot.phase = .rolledBack, snapshot.phase⟩
  if !ownedOrAdopted snapshot.original then
    Act.fail (.blocked "recovery ownership is ambiguous")
  rollback

end Nemor.Zram
