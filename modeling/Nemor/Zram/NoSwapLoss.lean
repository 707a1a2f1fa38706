import Nemor.Zram.Invariant

/-!
# zram: swap is never lost

If the machine had effective swap when `applyPlan` began, it has some after every single
backend operation: of `applyPlan`, of the rollback inside it, and of any later `rollback` or
`recoverPending` on the snapshot it left.
-/

namespace Nemor.Zram

open Effectful

/-! ## §1 Sessions -/

/-- What a caller may do with a snapshot after `applyPlan` has returned. -/
inductive LaterCall where
  | rollback
  | recoverPending
  deriving DecidableEq

/-- The call as a program. -/
def LaterCall.run : LaterCall → Transaction TransactionOutcome
  | .rollback => Zram.rollback
  | .recoverPending => Zram.recoverPending

/-- The calls one after the other, whatever each of them returns. -/
def laterCalls : List LaterCall → Transaction Unit
  | [] => pure ()
  | call :: calls => do
    let _ ← Act.attempt call.run
    laterCalls calls

/-- `applyPlan`, then any number of later calls on the snapshot it left. -/
def session (calls : List LaterCall) : Transaction Unit := do
  let _ ← Act.attempt applyPlan
  laterCalls calls

/-! ## §2 The invariant over sessions -/

section Specs

variable {R : Env zramBackend MutationSnapshot Machine} {s₀ s : Machine} {m : MutationSnapshot}

theorem recoverPending_wp (hR : Atomic R) (h : Live s₀ m s) :
    Act.wp R (Live s₀) recoverPending (fun _ m' s' => Live s₀ m' s' ∨ Done s₀ m' s') m s := by
  unfold recoverPending
  refine Act.wp_bind.2 (Act.wp_current.2 (Act.wp_ite.2 ⟨fun _ => .inl h, fun _ => ?_⟩))
  exact Act.wp_ite.2 ⟨fun _ => Act.wp_bind.2 (.inl h), fun _ => rollback_wp hR h⟩

/-- A rolled back transaction issues no further call. -/
theorem laterCall_of_done (h : Done s₀ m s) (call : LaterCall) :
    Act.wp R (Live s₀) call.run (fun _ m' s' => Live s₀ m' s' ∨ Done s₀ m' s') m s := by
  cases call with
  | rollback =>
    exact Act.wp_bind.2 (Act.wp_current.2 (Act.wp_ite.2
      ⟨fun _ => .inr h, fun hne => absurd h.phase hne⟩))
  | recoverPending =>
    exact Act.wp_bind.2 (Act.wp_current.2 (Act.wp_ite.2
      ⟨fun _ => .inr h, fun hne => absurd (by simp [h.phase]) hne⟩))

theorem laterCall_wp (hR : Atomic R) (h : Live s₀ m s ∨ Done s₀ m s) (call : LaterCall) :
    Act.wp R (Live s₀) call.run (fun _ m' s' => Live s₀ m' s' ∨ Done s₀ m' s') m s := by
  rcases h with h | h
  · cases call with
    | rollback => exact rollback_wp hR h
    | recoverPending => exact recoverPending_wp hR h
  · exact laterCall_of_done h call

theorem laterCalls_wp (hR : Atomic R) (calls : List LaterCall)
    (h : Live s₀ m s ∨ Done s₀ m s) :
    Act.wp R (Live s₀) (laterCalls calls) (fun _ m' s' => Live s₀ m' s' ∨ Done s₀ m' s') m s := by
  induction calls generalizing m s with
  | nil => exact h
  | cons call calls ih =>
    refine Act.wp_bind.2 (Act.wp_attempt.2 (Act.wp_mono (laterCall_wp hR h call) ?_))
    exact fun _ _ _ hpost => ih hpost

theorem session_wp (hR : Atomic R) (h : Snapshotted s₀ m) (calls : List LaterCall) :
    Act.wp R (Live s₀) (session calls) (fun _ m' s' => Live s₀ m' s' ∨ Done s₀ m' s') m s₀ :=
  Act.wp_bind.2 (Act.wp_attempt.2 (Act.wp_mono (applyPlan_wp hR h)
    fun _ _ _ hpost => laterCalls_wp hR calls hpost))

end Specs

/-- **No swap loss.** With effective swap at the start, every state a session can reach, for
    every atomic backend and every pattern of failures, has effective swap. -/
theorem session_keeps_swap {s₀ : Machine} {m : MutationSnapshot} (h : Snapshotted s₀ m)
    (hcap : 0 < s₀.capacity) (calls : List LaterCall)
    {q : Prog zramBackend MutationSnapshot (Except ZramError Unit × MutationSnapshot)}
    {t : Machine} (hreach : Reaches atomic (session calls m) s₀ q t) : 0 < t.capacity := by
  have hq := Prog.wp_reaches (session_wp (fun _ _ _ _ _ hr => hr) h calls) hreach
  cases q with
  | pure out =>
    rcases hq with hlive | hdone
    · exact hlive.capacity_pos hcap
    · exact hdone.confined.capacity_pos hdone.original hcap
  | call m' op k => exact hq.1.capacity_pos hcap

/-! ## §3 A concrete backend -/

/-- What a hot-added device looks like. -/
def hotAdded (name : String) : DeviceInventory where
  name := name
  activeSwap := false
  priority := none
  disksize := some 0
  initstate := some false
  currentAlgorithm := none
  availableAlgorithms := ["lzo", "lz4", "zstd"]
  ownership := .nemorOwned

/-- Succeed on an existing device. -/
def changeIfPresent (s : Machine) (name : String) (f : DeviceInventory → DeviceInventory) :
    Except ZramError Unit × Machine :=
  if name ∈ s.devices then (.ok (), s.modify name f)
  else (.error (.verification "missing device"), s)

/-- The capacity, unless it overflows. -/
def readCapacity (s : Machine) : Except ZramError UInt64 :=
  if s.capacity < 2 ^ 64 then .ok (.ofNat s.capacity)
  else .error (.verification "swap capacity overflow")

/-- Add a device of one name. -/
def hotAdd (s : Machine) : Except ZramError DeviceInventory × Machine :=
  if "zram1" ∈ s.devices then (.error (.backend "hot_add" "busy"), s)
  else (.ok (hotAdded "zram1"), s.add (hotAdded "zram1"))

/-- Remove a device that is there. -/
def hotRemove (s : Machine) (name : String) : Except ZramError Unit × Machine :=
  if name ∈ s.devices then (.ok (), s.remove name)
  else (.error (.verification "missing device"), s)

/-- A backend that does what it is asked whenever that is possible, and adds devices as
    `zram1`. -/
def healthy : (op : zramBackend.Op) → Machine → zramBackend.Reply op × Machine
  | .effectiveValidSwapCapacity, s => (readCapacity s, s)
  | .createIsolatedManagedDevice, s => hotAdd s
  | .configureUninitialized name algorithm, s => changeIfPresent s name (.configured algorithm)
  | .initializeDevice name disksize, s => changeIfPresent s name (.sized disksize)
  | .activate name priority, s => changeIfPresent s name (.switchedOn priority)
  | .deactivate name, s => changeIfPresent s name .switchedOff
  | .verify name, s =>
    ((s.devices.lookup name).elim (.error (.verification "missing device")) .ok, s)
  | .removeManagedDevice name, s => hotRemove s name
  | .isOwned name, s => (decide (name ∈ s.owned), s)

theorem changeIfPresent_changes (s : Machine) (name : String)
    (f : DeviceInventory → DeviceInventory) :
    changes s name f (changeIfPresent s name f).1 (changeIfPresent s name f).2 := by
  by_cases h : name ∈ s.devices
  · rw [changeIfPresent, if_pos h]
    exact ⟨h, rfl⟩
  · rw [changeIfPresent, if_neg h]
    exact rfl

/-- The healthy backend is atomic. -/
theorem healthy_answers (op : ZramOp) (s : Machine) :
    answers s op (healthy op s).1 (healthy op s).2 := by
  cases op with
  | effectiveValidSwapCapacity =>
    by_cases h : s.capacity < 2 ^ 64
    · rw [healthy, readCapacity, if_pos h]
      exact ⟨rfl, UInt64.toNat_ofNat_of_lt' h⟩
    · rw [healthy, readCapacity, if_neg h]
      exact ⟨rfl, trivial⟩
  | createIsolatedManagedDevice =>
    by_cases h : "zram1" ∈ s.devices
    · rw [healthy, hotAdd, if_pos h]
      exact rfl
    · rw [healthy, hotAdd, if_neg h]
      exact ⟨h, rfl, rfl, rfl⟩
  | configureUninitialized name algorithm => exact changeIfPresent_changes _ _ _
  | initializeDevice name disksize => exact changeIfPresent_changes _ _ _
  | activate name priority => exact changeIfPresent_changes _ _ _
  | deactivate name => exact changeIfPresent_changes _ _ _
  | verify name =>
    cases h : s.devices.lookup name with
    | none =>
      rw [healthy, h]
      exact ⟨rfl, trivial⟩
    | some d =>
      rw [healthy, h]
      exact ⟨rfl, h⟩
  | removeManagedDevice name =>
    by_cases h : name ∈ s.devices
    · rw [healthy, hotRemove, if_pos h]
      exact ⟨h, rfl⟩
    · rw [healthy, hotRemove, if_neg h]
      exact rfl
  | isOwned name => exact ⟨rfl, rfl⟩

theorem ofHandler_healthy_atomic {μ : Type} : Atomic (Env.ofHandler healthy : Env zramBackend μ _) := by
  intro _ s op r s' hr
  have ha := healthy_answers op s
  rw [show healthy op s = (r, s') from hr] at ha
  exact ha

/-- One Nemor-owned device `zram0` of 1000 bytes, in use as swap or not. -/
def oneDevice (active : Bool) : DeviceInventory :=
  { hotAdded "zram0" with
    activeSwap := active, priority := some 100, disksize := some 1000, initstate := some true,
    currentAlgorithm := some "zstd" }

/-- A machine with one device. -/
def oneDeviceMachine (active : Bool) : Machine where
  devices := Finmap.singleton "zram0" (oneDevice active)
  owned := {"zram0"}

/-- The snapshot of a plan that replaces `zram0`, with or without migrating its swap. -/
def replaceZram0 (active migration : Bool) : MutationSnapshot where
  original := oneDevice active
  replacementName := none
  requestedPlan :=
    { selectedAlgorithm := some "lz4", proposedDisksize := some 1000,
      proposedPriority := some 101, requiresSwapMigration := migration, allowed := true,
      blockedReasons := [], dryRun := false }
  phase := .snapshot
  rollbackPending := false
  lastError := none

theorem replaceZram0_snapshotted (active migration : Bool) :
    Snapshotted (oneDeviceMachine active) (replaceZram0 active migration) :=
  ⟨Finmap.lookup_singleton_eq, rfl, rfl, rfl⟩

/-- A migration that succeeds and is rolled back afterwards, on a machine with one swap. -/
theorem session_keeps_swap_zram0 :
    0 < (oneDeviceMachine true).capacity ∧
    0 < ((session [.rollback, .recoverPending] (replaceZram0 true true)).exec healthy
      (oneDeviceMachine true)).2.capacity :=
  ⟨by decide, session_keeps_swap (replaceZram0_snapshotted true true) (by decide) _
    ((Prog.exec_reaches healthy _ _).mono ofHandler_healthy_atomic)⟩

end Nemor.Zram
