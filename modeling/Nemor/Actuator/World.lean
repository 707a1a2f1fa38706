import Nemor.Actuator.Kernel
import Nemor.Lib.Effectful

/-!
# The snapshot store and the calls of the actuator

The actuator sees two parties: the backend over the hierarchy and the snapshot store. Both
are reached through one interface of fallible calls. `World.handle` answers each call when
nothing fails; in the environment `faulty` any call may also fail.
-/

namespace Nemor.Actuator

open Effectful

/-! ## §1 The snapshot store -/

/-- The tables `cgroup_snapshots` and `cgroup_managed_groups`. Identifiers are assigned in
    increasing order and never reused. -/
structure Store where
  lastId : ℕ
  rows : List MutationSnapshot
  managedGroups : String → Option (Int64 × BackendKind)
  ordered : rows.Pairwise fun a b => a.id < b.id
  bounded : ∀ row ∈ rows, row.id ≤ lastId

/-- `applied=1 AND rolled_back=0`. -/
def MutationSnapshot.isPending (s : MutationSnapshot) : Bool :=
  s.applied && !s.rolledBack

/-- The columns that an update of `s` writes. -/
def MutationSnapshot.withProgress (row s : MutationSnapshot) : MutationSnapshot :=
  { row with
    applied := s.applied
    verified := s.verified
    rolledBack := s.rolledBack
    lastError := s.lastError }

/-- A store without snapshots. -/
def emptyStore : Store where
  lastId := 0
  rows := []
  managedGroups := fun _ => none
  ordered := .nil
  bounded := by simp

namespace Store

/-- The row stored for `s`. -/
def inserted (store : Store) (s : MutationSnapshot) : MutationSnapshot :=
  { s with id := store.lastId + 1 }

/-- Append a snapshot with the next id. -/
def insert (store : Store) (s : MutationSnapshot) : Store where
  lastId := store.lastId + 1
  rows := store.rows ++ [store.inserted s]
  managedGroups := store.managedGroups
  ordered := by
    rw [List.pairwise_append]
    refine ⟨store.ordered, List.pairwise_singleton _ _, ?_⟩
    intro a ha b hb
    rw [List.mem_singleton.1 hb]
    exact Nat.lt_succ_of_le (store.bounded a ha)
  bounded := by
    intro row hrow
    rcases List.mem_append.1 hrow with hrow | hrow
    · exact Nat.le_succ_of_le (store.bounded row hrow)
    · rw [List.mem_singleton.1 hrow]
      exact Nat.le_refl _

/-- Start ticks are stored as a signed number. -/
def persist (store : Store) (s : MutationSnapshot) : Except ActuatorError ℕ × Store :=
  if 2 ^ 63 ≤ s.startTimeTicks.toNat then
    (.error (.persistence "start ticks overflow"), store)
  else
    (.ok (store.lastId + 1), store.insert s)

theorem persist_overflow {store : Store} {s : MutationSnapshot}
    (h : 2 ^ 63 ≤ s.startTimeTicks.toNat) :
    store.persist s = (.error (.persistence "start ticks overflow"), store) := if_pos h

theorem persist_ok {store : Store} {s : MutationSnapshot} (h : s.startTimeTicks.toNat < 2 ^ 63) :
    store.persist s = (.ok (store.lastId + 1), store.insert s) := if_neg (not_le.2 h)

/-- What an update makes of one row. -/
def updateRow (s row : MutationSnapshot) : MutationSnapshot :=
  if row.id = s.id then row.withProgress s else row

@[simp] theorem updateRow_id (s row : MutationSnapshot) : (updateRow s row).id = row.id := by
  unfold updateRow
  split <;> rfl

/-- Replace the row of a snapshot. -/
def update (store : Store) (s : MutationSnapshot) : Store where
  lastId := store.lastId
  rows := store.rows.map (updateRow s)
  managedGroups := store.managedGroups
  ordered := by
    rw [List.pairwise_map]
    simpa using store.ordered
  bounded := by
    intro row hrow
    obtain ⟨old, hold, rfl⟩ := List.mem_map.1 hrow
    simpa using store.bounded old hold

/-- The rows of which recovery has to undo something. -/
def pending (store : Store) : List MutationSnapshot :=
  store.rows.filter MutationSnapshot.isPending

/-- A row marked as rolled back is no longer pending. -/
theorem pending_update_rolledBack {store : Store} {s : MutationSnapshot} (h : s.rolledBack = true) :
    (store.update s).pending = store.pending.filter fun row => row.id ≠ s.id := by
  show (store.rows.map (updateRow s)).filter MutationSnapshot.isPending =
    (store.rows.filter MutationSnapshot.isPending).filter fun row => row.id ≠ s.id
  induction store.rows with
  | nil => rfl
  | cons row rows ih =>
    by_cases hid : row.id = s.id
    · have hdone : (updateRow s row).isPending = false := by
        simp [updateRow, hid, MutationSnapshot.withProgress, MutationSnapshot.isPending, h]
      rw [List.map_cons, List.filter_cons_of_neg (by simp [hdone]), ih]
      by_cases hp : row.isPending = true <;> simp [hp, hid]
    · have hsame : updateRow s row = row := if_neg hid
      rw [List.map_cons, hsame]
      by_cases hp : row.isPending = true <;> simp [hp, hid, ih]

/-- An update of the newest row. -/
theorem rows_update_last {store : Store} {old : List MutationSnapshot} {row s : MutationSnapshot}
    (hrows : store.rows = old ++ [row]) (hid : row.id = s.id) (hold : ∀ r ∈ old, r.id ≠ s.id) :
    (store.update s).rows = old ++ [row.withProgress s] := by
  show store.rows.map (updateRow s) = _
  have hsame : old.map (updateRow s) = old.map id :=
    List.map_congr_left fun r hr => if_neg (hold r hr)
  rw [hrows, List.map_append, hsame, List.map_id]
  simp [updateRow, hid]

/-- Note that a group was made by the daemon. -/
def recordManagedGroup (store : Store) (name : String) (sessionId : Int64)
    (backend : BackendKind) : Store :=
  { store with
    managedGroups := Function.update store.managedGroups name (some (sessionId, backend)) }

/-- Note that it is gone. -/
def removeManagedGroup (store : Store) (name : String) : Store :=
  { store with managedGroups := Function.update store.managedGroups name none }

end Store

/-! ## §2 Calls -/

/-- What the actuator asks of kernel and store. -/
inductive Op where
  | capabilities
  | inspectGroup (name : String)
  | createManagedGroup (name : String)
  | setProperties (name : String) (properties : RequestedProperties)
  | attachPid (name : String) (pid : UInt32)
  | processStartTime (pid : UInt32)
  | processGroup (pid : UInt32)
  | cleanupEmptyOwnedGroup (name : String)
  | persist (snapshot : MutationSnapshot)
  | update (snapshot : MutationSnapshot)
  | pending
  | recordManagedGroup (name : String) (sessionId : Int64) (backend : BackendKind)
  | removeManagedGroup (name : String)

/-- What a call returns. -/
abbrev Op.Value : Op → Type
  | .capabilities => CgroupCapabilities
  | .inspectGroup _ => Option GroupState
  | .createManagedGroup _ => GroupState
  | .processStartTime _ => Option UInt64
  | .processGroup _ => Option String
  | .persist _ => ℕ
  | .pending => List MutationSnapshot
  | _ => Unit

/-- Every call can fail. -/
abbrev calls : Iface where
  Op := Op
  Reply op := Except ActuatorError op.Value

/-- A call with `?`. -/
def issue {τ : Type} (op : Op) : Act calls τ ActuatorError op.Value :=
  Act.perform op id

/-- A call whose error is looked at. -/
def ask {τ : Type} (op : Op) : Act calls τ ActuatorError (Except ActuatorError op.Value) :=
  Act.request (I := calls) op

section Rules

variable {σ τ : Type} {R : Env calls τ σ} {J : τ → σ → Prop} {t : τ} {s : σ} {op : Op}

@[simp] theorem wp_issue {Q : Except ActuatorError op.Value → τ → σ → Prop} :
    Act.wp R J (issue op) Q t s ↔ J t s ∧ ∀ r s', R t s op r s' → Q r t s' := Iff.rfl

@[simp] theorem wp_ask {Q : Except ActuatorError (Except ActuatorError op.Value) → τ → σ → Prop} :
    Act.wp R J (ask op) Q t s ↔ J t s ∧ ∀ r s', R t s op r s' → Q (.ok r) t s' := Iff.rfl

end Rules

/-! ## §3 Answers -/

/-- The kernel and the store, which outlives the daemon. -/
structure World where
  kernel : Kernel
  store : Store

namespace World

/-- A call that changes the hierarchy only. -/
def onKernel {α : Type} (w : World) (out : Except ActuatorError α × Kernel) :
    Except ActuatorError α × World :=
  (out.1, { w with kernel := out.2 })

/-- The answer when nothing fails. -/
def handle : (op : Op) → World → Except ActuatorError op.Value × World
  | .capabilities, w => (w.kernel.capabilities, w)
  | .inspectGroup name, w => (w.kernel.inspectGroup name, w)
  | .createManagedGroup name, w => w.onKernel (w.kernel.createManagedGroup name)
  | .setProperties name p, w => w.onKernel (w.kernel.setProperties name p)
  | .attachPid name pid, w => w.onKernel (w.kernel.attachPid name pid)
  | .processStartTime pid, w => (w.kernel.processStartTime pid, w)
  | .processGroup pid, w => (w.kernel.processGroup pid, w)
  | .cleanupEmptyOwnedGroup name, w => w.onKernel (w.kernel.cleanupEmptyOwnedGroup name)
  | .persist s, w => ((w.store.persist s).1, { w with store := (w.store.persist s).2 })
  | .update s, w => (.ok (), { w with store := w.store.update s })
  | .pending, w => (.ok w.store.pending, w)
  | .recordManagedGroup name sessionId backend, w =>
    (.ok (), { w with store := w.store.recordManagedGroup name sessionId backend })
  | .removeManagedGroup name, w => (.ok (), { w with store := w.store.removeManagedGroup name })

/-- What a failing call may have done before it failed: `setProperties` may have written
    the first of the two limits, `createManagedGroup` may have made the directory. -/
def partly : Op → World → World
  | .createManagedGroup name, w => (w.onKernel (w.kernel.createManagedGroup name)).2
  | .setProperties name p, w =>
    (w.onKernel (w.kernel.setProperties name { p with memoryHigh := none })).2
  | _, w => w

end World

/-- Any call may answer truthfully, or fail after all, part or none of its work. -/
def faulty {μ : Type} : Env calls μ World := fun _ w op r w' =>
  World.handle op w = (r, w') ∨ ∃ e, r = .error e ∧ (w' = w ∨ w' = w.partly op)

/-- No call fails without a reason in the state. -/
def faultless {μ : Type} : Env calls μ World :=
  Env.ofHandler World.handle

theorem faulty_of_faultless {μ : Type} (m : μ) (w : World) (op : Op)
    (r : Except ActuatorError op.Value) (w' : World) (h : faultless m w op r w') :
    faulty m w op r w' :=
  .inl h

/-! ## §4 Answers about a managed group -/

section Answers

variable {w : World} {name key : String} {g : Group}

theorem handle_inspectGroup (h : isManagedName name = true) :
    World.handle (.inspectGroup name) w =
      (.ok ((w.kernel.groups.lookup name).map (w.kernel.groupState name name true)), w) := by
  simp [World.handle, Kernel.inspectGroup_managed h]

theorem handle_createManagedGroup (h : isManagedName name = true)
    (habsent : w.kernel.groups.lookup name = none) :
    World.handle (.createManagedGroup name) w =
      (.ok ((w.kernel.mkdir name h).groupState name name true .fresh),
        { w with kernel := w.kernel.mkdir name h }) := by
  simp [World.handle, World.onKernel,
    Kernel.createManagedGroup_absent h (Finmap.lookup_eq_none.1 habsent)]

theorem handle_setProperties {p : RequestedProperties} (h : isManagedName name = true)
    (hg : w.kernel.groups.lookup name = some g) :
    World.handle (.setProperties name p) w =
      (.ok (), { w with
        kernel := w.kernel.writeLimits name (g.write p) (Finmap.mem_of_lookup_eq_some hg) }) := by
  simp [World.handle, World.onKernel, Kernel.setProperties_present h hg]

theorem handle_attachPid {pid : UInt32} {q : Proc} (hpath : attachPath name = .ok key)
    (hkey : key ∈ w.kernel.groups) (hq : w.kernel.procs.lookup pid = some q) :
    World.handle (.attachPid name pid) w =
      (.ok (), { w with kernel := w.kernel.place pid { q with group := key } (.inr hkey) }) := by
  simp [World.handle, World.onKernel, Kernel.attachPid_present hpath hkey hq]

theorem handle_cleanup_occupied {pid : UInt32} (h : isManagedName name = true)
    (hpid : pid ∈ w.kernel.residents name) :
    World.handle (.cleanupEmptyOwnedGroup name) w = (.ok (), w) := by
  simp [World.handle, World.onKernel, Kernel.cleanupEmptyOwnedGroup_occupied h hpid]

theorem handle_cleanup_vacant (h : isManagedName name = true)
    (hg : w.kernel.groups.lookup name = some g) (hvacant : w.kernel.Vacant name) :
    World.handle (.cleanupEmptyOwnedGroup name) w =
      (.ok (), { w with kernel := w.kernel.rmdir name hvacant }) := by
  simp [World.handle, World.onKernel, Kernel.cleanupEmptyOwnedGroup_vacant h hg hvacant]

end Answers

end Nemor.Actuator
