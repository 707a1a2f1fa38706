import Nemor.Lib.Effectful
import Nemor.Lib.UnixPath
import Mathlib.Data.Finset.Basic

/-!
# Swapfiles: the transaction

Creating and activating a swapfile, and undoing both, over a backend that keeps track of the
swapfiles it owns. The backend and the snapshot are the mutable arguments of both functions.
-/

namespace Nemor.Tiering.Swapfile

open Effectful UnixPath

/-! ## §1 Types -/

/-- Why a method fails. -/
inductive BackendError where
  | blocked (reason : String)
  | operation (operation message : String)
  | verification (what : String)

/-- The text of the error. -/
def BackendError.text : BackendError → String
  | .blocked reason => "tiering mutation blocked: " ++ reason
  | .operation name message => "tiering operation `" ++ name ++ "` failed: " ++ message
  | .verification what => "tiering verification failed: " ++ what

/-- The file systems that can hold a swap file. -/
inductive FilesystemKind where
  | ext4
  | btrfs
  | unsupported
  deriving DecidableEq

/-- The file that is to be made. -/
structure SwapfilePlan where
  path : PathBuf
  filesystem : FilesystemKind
  proposedSize : UInt64
  priority : Int32
  allowed : Bool
  blockedReasons : List String
  dryRun : Bool

/-- Paths in sets are compared component by component. -/
abbrev PathKey := List Component

/-- What is needed to undo a change. -/
structure MutationSnapshot where
  path : PathBuf
  baselineSwaps : Finset PathKey
  created : Bool
  activated : Bool
  rollbackPending : Bool
  rolledBack : Bool
  lastError : Option String

/-- The snapshot that callers hand to an apply. -/
def MutationSnapshot.fresh (path : PathBuf) (baselineSwaps : Finset PathKey) : MutationSnapshot where
  path := path
  baselineSwaps := baselineSwaps
  created := false
  activated := false
  rollbackPending := false
  rolledBack := false
  lastError := none

/-- What a call has come to. -/
structure TransactionOutcome where
  created : Bool
  activated : Bool
  verified : Bool
  rolledBack : Bool
  deriving DecidableEq

/-- The operations of a backend with state `B` that issues the calls of `I`. -/
structure SwapfileBackend (I : Iface) (B : Type) where
  activeSwaps : Act I B BackendError (Finset PathKey)
  createOwned : PathBuf → FilesystemKind → UInt64 → Act I B BackendError Unit
  activateOwned : PathBuf → Int32 → Act I B BackendError Unit
  deactivateOwned : PathBuf → Act I B BackendError Unit
  removeOwned : PathBuf → Act I B BackendError Unit
  isOwned : B → PathBuf → Bool

/-! ## §2 Apply and rollback -/

section Functions

variable {I : Iface} {B : Type} (backend : SwapfileBackend I B)

/-- A function with a backend and a snapshot as mutable arguments. -/
abbrev Procedure (I : Iface) (B : Type) (α : Type) :=
  Act I (B × MutationSnapshot) BackendError α

/-- An operation of the backend. -/
def onBackend {α : Type} (m : Act I B BackendError α) : Procedure I B α :=
  Act.focus Prod.fst (fun b t => (b, t.2)) m

/-- Change the snapshot. -/
def editSnapshot (f : MutationSnapshot → MutationSnapshot) : Procedure I B Unit :=
  Act.assign fun t => (t.1, f t.2)

/-- None of the swaps that were active before is active any more. -/
def baselineLost (snapshot : MutationSnapshot) (active : Finset PathKey) : Bool :=
  snapshot.baselineSwaps ≠ ∅ && !decide (∃ path ∈ snapshot.baselineSwaps, path ∈ active)

/-- Deactivate the swapfile if it is listed as active. -/
def deactivateListed : Procedure I B Unit := do
  let (_, snapshot) ← Act.current
  if snapshot.activated then
    let active ← onBackend backend.activeSwaps
    if snapshot.path.components ∈ active then
      onBackend (backend.deactivateOwned snapshot.path)
      let active ← onBackend backend.activeSwaps
      -- the check comes after the deactivation
      if baselineLost snapshot active then
        Act.fail (.verification "rollback would lose all baseline swap")
      else
        pure ()
    else
      pure ()
  else
    pure ()

/-- Remove the file, if the transaction has made it. -/
def removeCreated : Procedure I B Unit := do
  let (_, snapshot) ← Act.current
  if snapshot.created then
    onBackend (backend.removeOwned snapshot.path)
  else
    pure ()

/-- What a rollback comes to. -/
def rolledBackOutcome : TransactionOutcome := ⟨false, false, true, true⟩

/-- Undo the change. Without ownership nothing is touched. -/
def rollbackSwapfile : Procedure I B TransactionOutcome := do
  let (b, snapshot) ← Act.current
  if snapshot.rolledBack then
    pure rolledBackOutcome
  -- a new process does not own what an earlier one has created
  else if !backend.isOwned b snapshot.path && (snapshot.created || snapshot.activated) then
    Act.fail (.blocked "rollback ownership is ambiguous")
  else
    deactivateListed backend
    removeCreated backend
    editSnapshot fun s => { s with rollbackPending := false, rolledBack := true }
    pure rolledBackOutcome

/-- The steps of `applySwapfile`, up to the first that fails. -/
def createAndActivate (plan : SwapfilePlan) : Procedure I B TransactionOutcome := do
  onBackend (backend.createOwned plan.path plan.filesystem plan.proposedSize)
  -- from here on the snapshot asks for a removal
  editSnapshot fun s => { s with created := true, rollbackPending := true }
  onBackend (backend.activateOwned plan.path plan.priority)
  editSnapshot fun s => { s with activated := true }
  let active ← onBackend backend.activeSwaps
  -- the swapfile is looked up by the path of the plan
  if plan.path.components ∉ active then
    Act.fail (.verification "owned swapfile is not active")
  else
    let (_, snapshot) ← Act.current
    if baselineLost snapshot active then
      Act.fail (.verification "no-swap-loss invariant violated")
    else
      pure ⟨true, true, true, false⟩

/-- Make the file and use it, or roll back what was done. -/
def applySwapfile (plan : SwapfilePlan) : Procedure I B TransactionOutcome :=
  if plan.dryRun then
    pure ⟨false, false, false, false⟩
  else if !plan.allowed then
    Act.fail (.blocked (",".intercalate plan.blockedReasons))
  else do
    match ← Act.attempt (createAndActivate backend plan) with
    | .ok outcome => pure outcome
    | .error error =>
      editSnapshot fun s => { s with lastError := some error.text }
      -- the result of the rollback is dropped
      let _ ← Act.attempt (rollbackSwapfile backend)
      Act.fail error

end Functions

/-! ## §3 Rollbacks without calls -/

section Idle

variable {I : Iface} {B : Type} {backend : SwapfileBackend I B} {t : B × MutationSnapshot}

theorem rollbackSwapfile_eq :
    rollbackSwapfile backend t =
      (if t.2.rolledBack = true then pure rolledBackOutcome
      else if (!backend.isOwned t.1 t.2.path && (t.2.created || t.2.activated)) = true then
        Act.fail (.blocked "rollback ownership is ambiguous")
      else do
        deactivateListed backend
        removeCreated backend
        editSnapshot fun s => { s with rollbackPending := false, rolledBack := true }
        pure rolledBackOutcome : Procedure I B TransactionOutcome) t := rfl

/-- A rollback that has succeeded before does nothing. -/
theorem rollbackSwapfile_again (h : t.2.rolledBack = true) :
    rollbackSwapfile backend t = .pure (.ok rolledBackOutcome, t) := by
  rw [rollbackSwapfile_eq, if_pos h]
  rfl

/-- There is nothing to undo. -/
theorem rollbackSwapfile_unused (hcreated : t.2.created = false) (hactivated : t.2.activated = false)
    (h : t.2.rolledBack = false) :
    rollbackSwapfile backend t =
      .pure (.ok rolledBackOutcome,
        (t.1, { t.2 with rollbackPending := false, rolledBack := true })) := by
  obtain ⟨b, path, baseline, created, activated, pending, rolledBack, error⟩ := t
  dsimp only at hcreated hactivated h
  subst hcreated hactivated h
  rw [rollbackSwapfile_eq, if_neg (by simp), if_neg (by simp)]
  rfl

/-- What was given up is not touched again. -/
theorem rollbackSwapfile_ambiguous (howned : backend.isOwned t.1 t.2.path = false)
    (hcreated : t.2.created = true) (h : t.2.rolledBack = false) :
    rollbackSwapfile backend t = .pure (.error (.blocked "rollback ownership is ambiguous"), t) := by
  rw [rollbackSwapfile_eq, if_neg (by simp [h]), if_pos (by simp [howned, hcreated])]
  rfl

/-- Nothing is known to be active, so the file is removed at once. -/
theorem rollbackSwapfile_inactive (howned : backend.isOwned t.1 t.2.path = true)
    (hcreated : t.2.created = true) (hactivated : t.2.activated = false)
    (h : t.2.rolledBack = false) :
    rollbackSwapfile backend t =
      (do
        onBackend (backend.removeOwned t.2.path)
        editSnapshot fun s => { s with rollbackPending := false, rolledBack := true }
        pure rolledBackOutcome : Procedure I B TransactionOutcome) t := by
  obtain ⟨b, path, baseline, created, activated, pending, rolledBack, error⟩ := t
  dsimp only at howned hcreated hactivated h
  subst hcreated hactivated h
  rw [rollbackSwapfile_eq, if_neg (by simp), if_neg (by simp [howned])]
  rfl

variable {σ : Type} {R : Env I (B × MutationSnapshot) σ} {J : B × MutationSnapshot → σ → Prop}
  {Q : Except BackendError TransactionOutcome → B × MutationSnapshot → σ → Prop} {s : σ}

theorem wp_rollback_again (h : t.2.rolledBack = true) (hQ : Q (.ok rolledBackOutcome) t s) :
    Act.wp R J (rollbackSwapfile backend) Q t s := by
  simp only [Act.wp, rollbackSwapfile_again h]
  exact hQ

theorem wp_rollback_unused (hcreated : t.2.created = false) (hactivated : t.2.activated = false)
    (h : t.2.rolledBack = false)
    (hQ : Q (.ok rolledBackOutcome)
      (t.1, { t.2 with rollbackPending := false, rolledBack := true }) s) :
    Act.wp R J (rollbackSwapfile backend) Q t s := by
  simp only [Act.wp, rollbackSwapfile_unused hcreated hactivated h]
  exact hQ

theorem wp_rollback_ambiguous (howned : backend.isOwned t.1 t.2.path = false)
    (hcreated : t.2.created = true) (h : t.2.rolledBack = false)
    (hQ : Q (.error (.blocked "rollback ownership is ambiguous")) t s) :
    Act.wp R J (rollbackSwapfile backend) Q t s := by
  simp only [Act.wp, rollbackSwapfile_ambiguous howned hcreated h]
  exact hQ

theorem wp_rollback_owned (howned : backend.isOwned t.1 t.2.path = true)
    (h : t.2.rolledBack = false)
    (hQ : Act.wp R J (do
        deactivateListed backend
        removeCreated backend
        editSnapshot fun s => { s with rollbackPending := false, rolledBack := true }
        pure rolledBackOutcome) Q t s) :
    Act.wp R J (rollbackSwapfile backend) Q t s := by
  simp only [Act.wp, rollbackSwapfile_eq]
  rw [if_neg (by simp [h]), if_neg (by simp [howned])]
  exact hQ

/-- A rollback that succeeds is marked in the snapshot. -/
theorem rollbackSwapfile_marks :
    Act.wp R (fun _ _ => True) (rollbackSwapfile backend)
      (fun r t _ => ∀ out, r = .ok out → t.2.rolledBack = true) t s := by
  apply Act.wp_bind.2
  apply Act.wp_current.2
  apply Act.wp_ite.2
  refine ⟨fun hrolled _ _ => hrolled, fun _ => ?_⟩
  apply Act.wp_ite.2
  refine ⟨fun _ _ he => (by cases he), fun _ => ?_⟩
  apply Act.wp_bind.2
  apply Act.wp_mono Act.wp_trivial
  intro deactivated t₁ s₁ _
  cases deactivated with
  | error e => exact fun _ he => by cases he
  | ok _ =>
    apply Act.wp_bind.2
    apply Act.wp_mono Act.wp_trivial
    intro removed t₂ s₂ _
    cases removed with
    | error e => exact fun _ he => by cases he
    | ok _ => exact fun _ _ => rfl

end Idle

end Nemor.Tiering.Swapfile
