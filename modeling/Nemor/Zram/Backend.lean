import Mathlib.Algebra.BigOperators.Group.Finset.Basic
import Mathlib.Algebra.Order.BigOperators.Group.Finset
import Mathlib.Data.Finmap
import Nemor.Lib.Effectful

/-!
# zram: devices, the backend interface and atomic backends

The transaction talks to the kernel through `ZramBackend`. A backend is *atomic* when each
of its operations either has its whole effect or fails with none: `atomic` is the
environment of all such backends under every pattern of failures, `succeeding` the one in
which every operation that is attempted succeeds.
-/

namespace Nemor.Zram

open Effectful

/-! ## §1 Inventory -/

/-- Whose a device is. -/
inductive Ownership where
  | nemorOwned
  | adopted
  | external
  | unknown
  deriving DecidableEq

/-- What is seen of a zram device. -/
structure DeviceInventory where
  name : String
  activeSwap : Bool
  priority : Option Int32
  disksize : Option UInt64
  initstate : Option Bool
  currentAlgorithm : Option String
  availableAlgorithms : List String
  ownership : Ownership
  deriving DecidableEq

/-- What the device adds to the effective swap capacity. -/
def DeviceInventory.swapBytes (d : DeviceInventory) : ℕ :=
  if d.activeSwap then (d.disksize.getD 0).toNat else 0

/-! The effects of the operations on one device. -/

/-- The device with an algorithm. -/
def DeviceInventory.configured (algorithm : String) (d : DeviceInventory) : DeviceInventory :=
  { d with currentAlgorithm := some algorithm }

/-- The device once it is initialised. -/
def DeviceInventory.sized (disksize : UInt64) (d : DeviceInventory) : DeviceInventory :=
  { d with disksize := some disksize, initstate := some true }

/-- The device in use as swap. -/
def DeviceInventory.switchedOn (priority : Int32) (d : DeviceInventory) : DeviceInventory :=
  { d with activeSwap := true, priority := some priority }

/-- The device out of use. -/
def DeviceInventory.switchedOff (d : DeviceInventory) : DeviceInventory :=
  { d with activeSwap := false }

@[simp] theorem DeviceInventory.swapBytes_switchedOn (priority : Int32) (d : DeviceInventory) :
    (d.switchedOn priority).swapBytes = (d.disksize.getD 0).toNat := rfl

/-- Errors with the texts the transaction and its backend put into them. -/
inductive ZramError where
  | read (path source : String)
  | parse (field message : String)
  | blocked (message : String)
  | backend (operation message : String)
  | verification (message : String)
  deriving DecidableEq

/-- The text of an error. -/
def ZramError.display : ZramError → String
  | .read path source => "cannot read zram interface " ++ path ++ ": " ++ source
  | .parse field message => "invalid zram field `" ++ field ++ "`: " ++ message
  | .blocked message => "zram operation blocked: " ++ message
  | .backend operation message =>
    "zram backend operation `" ++ operation ++ "` failed: " ++ message
  | .verification message => "zram verification failed: " ++ message

/-! ## §2 Machines -/

/-- The zram devices of a machine by name, and the names registered as Nemor's own. -/
structure Machine where
  devices : Finmap fun _ : String => DeviceInventory
  owned : Finset String

namespace Machine

/-- How much swap a device gives. -/
def swapBytesAt (s : Machine) (name : String) : ℕ :=
  (s.devices.lookup name).elim 0 DeviceInventory.swapBytes

/-- The effective swap capacity: the sizes of all active devices. -/
def capacity (s : Machine) : ℕ := ∑ name ∈ s.devices.keys, s.swapBytesAt name

/-- The device is in use. -/
def isActive (s : Machine) (name : String) : Bool :=
  (s.devices.lookup name).any DeviceInventory.activeSwap

/-- The names of the devices that are in use as swap. -/
def activeSwaps (s : Machine) : Finset String :=
  s.devices.keys.filter fun name => s.isActive name

/-- Change a device in place; nothing happens to a device that does not exist. -/
def modify (s : Machine) (name : String) (f : DeviceInventory → DeviceInventory) : Machine :=
  match s.devices.lookup name with
  | some d => { s with devices := s.devices.insert name (f d) }
  | none => s

/-- The machine with a device more, which is owned. -/
def add (s : Machine) (d : DeviceInventory) : Machine where
  devices := s.devices.insert d.name d
  owned := insert d.name s.owned

/-- The machine without a device. -/
def remove (s : Machine) (name : String) : Machine where
  devices := s.devices.erase name
  owned := s.owned.erase name

theorem lookup_modify_self (s : Machine) (name : String) (f : DeviceInventory → DeviceInventory) :
    (s.modify name f).devices.lookup name = (s.devices.lookup name).map f := by
  unfold modify
  cases h : s.devices.lookup name with
  | none => simpa using h
  | some d => exact Finmap.lookup_insert _

theorem lookup_modify_of_ne {s : Machine} {name other : String} (h : other ≠ name)
    (f : DeviceInventory → DeviceInventory) :
    (s.modify name f).devices.lookup other = s.devices.lookup other := by
  unfold modify
  cases s.devices.lookup name with
  | none => rfl
  | some d => exact Finmap.lookup_insert_of_ne _ h

@[simp] theorem owned_modify (s : Machine) (name : String)
    (f : DeviceInventory → DeviceInventory) : (s.modify name f).owned = s.owned := by
  unfold modify
  cases s.devices.lookup name <;> rfl

theorem mem_modify {s : Machine} {name other : String} (f : DeviceInventory → DeviceInventory) :
    other ∈ (s.modify name f).devices ↔ other ∈ s.devices := by
  unfold modify
  cases h : s.devices.lookup name with
  | none => rfl
  | some d =>
    have hmem := Finmap.mem_of_lookup_eq_some h
    constructor
    · intro hin
      rcases (Finmap.mem_insert).1 hin with rfl | hin
      · exact hmem
      · exact hin
    · exact fun hin => Finmap.mem_insert.2 (.inr hin)

theorem swapBytesAt_of_lookup {s : Machine} {name : String} {d : DeviceInventory}
    (h : s.devices.lookup name = some d) : s.swapBytesAt name = d.swapBytes := by
  unfold swapBytesAt
  rw [h]
  rfl

/-- The capacity is positive exactly when some device adds to it. -/
theorem capacity_pos_iff (s : Machine) : 0 < s.capacity ↔ ∃ name, 0 < s.swapBytesAt name := by
  unfold capacity
  rw [Finset.sum_pos_iff]
  constructor
  · rintro ⟨name, -, hpos⟩
    exact ⟨name, hpos⟩
  · rintro ⟨name, hpos⟩
    refine ⟨name, ?_, hpos⟩
    by_contra hmem
    rw [Finmap.mem_keys, ← Finmap.lookup_eq_none] at hmem
    simp [swapBytesAt, hmem] at hpos

/-- The same devices and the same active swaps. -/
structure SameSwaps (s t : Machine) : Prop where
  devices : s.devices.keys = t.devices.keys
  active : s.activeSwaps = t.activeSwaps

/-- Two machines have the same devices and active swaps when they agree, name by name, on
    which devices exist and are active. -/
theorem sameSwaps_of_lookup {s t : Machine}
    (h : ∀ name, (s.devices.lookup name).map DeviceInventory.activeSwap =
      (t.devices.lookup name).map DeviceInventory.activeSwap) : SameSwaps s t := by
  have hkeys : s.devices.keys = t.devices.keys := by
    ext name
    have hn := congrArg Option.isSome (h name)
    simp only [Option.isSome_map] at hn
    rw [Finmap.mem_keys, Finmap.mem_keys, ← Finmap.lookup_isSome, ← Finmap.lookup_isSome, hn]
  refine ⟨hkeys, ?_⟩
  unfold activeSwaps
  rw [hkeys]
  refine Finset.filter_congr fun name _ => ?_
  have hn := h name
  unfold isActive
  cases hs : s.devices.lookup name <;> cases ht : t.devices.lookup name <;> simp_all

end Machine

/-! ## §3 The interface -/

/-- The backend operations the transaction uses. -/
inductive ZramOp where
  | effectiveValidSwapCapacity
  | createIsolatedManagedDevice
  | configureUninitialized (name algorithm : String)
  | initializeDevice (name : String) (disksize : UInt64)
  | activate (name : String) (priority : Int32)
  | deactivate (name : String)
  | verify (name : String)
  | removeManagedDevice (name : String)
  | isOwned (name : String)

/-- Only `isOwned` cannot fail. -/
def ZramOp.Value : ZramOp → Type
  | .effectiveValidSwapCapacity => Except ZramError UInt64
  | .createIsolatedManagedDevice => Except ZramError DeviceInventory
  | .verify _ => Except ZramError DeviceInventory
  | .isOwned _ => Bool
  | _ => Except ZramError Unit

/-- The calls with their replies. -/
def zramBackend : Iface := ⟨ZramOp, ZramOp.Value⟩

/-- The answer is not an error. -/
def ZramOp.succeeded : (op : ZramOp) → op.Value → Bool
  | .effectiveValidSwapCapacity, r => Except.isOk r
  | .createIsolatedManagedDevice, r => Except.isOk r
  | .configureUninitialized _ _, r => Except.isOk r
  | .initializeDevice _ _, r => Except.isOk r
  | .activate _ _, r => Except.isOk r
  | .deactivate _, r => Except.isOk r
  | .verify _, r => Except.isOk r
  | .removeManagedDevice _, r => Except.isOk r
  | .isOwned _, _ => true

/-! ## §4 Atomic backends -/

/-- An operation without a value on an existing device: all of `f` on success, nothing on
    failure. -/
def changes (s : Machine) (name : String) (f : DeviceInventory → DeviceInventory)
    (r : Except ZramError Unit) (s' : Machine) : Prop :=
  match r with
  | .ok () => name ∈ s.devices ∧ s' = s.modify name f
  | .error _ => s' = s

theorem changes_ok_of_mem {s : Machine} {name : String} (h : name ∈ s.devices)
    (f : DeviceInventory → DeviceInventory) : changes s name f (.ok ()) (s.modify name f) :=
  ⟨h, rfl⟩

/-- How an atomic backend can answer in `s`. Every operation may fail, and then changes
    nothing; reads are truthful. -/
def answers (s : Machine) : (op : ZramOp) → op.Value → Machine → Prop
  | .effectiveValidSwapCapacity, r, s' =>
    s' = s ∧ match r with
      | Except.ok c => c.toNat = s.capacity
      | Except.error _ => True
  | .createIsolatedManagedDevice, r, s' =>
    match r with
    | Except.ok d =>
      d.name ∉ s.devices ∧ d.activeSwap = false ∧ d.ownership = .nemorOwned ∧ s' = s.add d
    | Except.error _ => s' = s
  | .configureUninitialized name algorithm, r, s' =>
    changes s name (.configured algorithm) r s'
  | .initializeDevice name disksize, r, s' =>
    changes s name (.sized disksize) r s'
  | .activate name priority, r, s' =>
    changes s name (.switchedOn priority) r s'
  | .deactivate name, r, s' =>
    changes s name .switchedOff r s'
  | .verify name, r, s' =>
    s' = s ∧ match r with
      | Except.ok d => s.devices.lookup name = some d
      | Except.error _ => True
  | .removeManagedDevice name, r, s' =>
    match r with
    | Except.ok () => name ∈ s.devices ∧ s' = s.remove name
    | Except.error _ => s' = s
  | .isOwned name, b, s' => s' = s ∧ b = decide (name ∈ s.owned)

/-- Every atomic backend, under every pattern of failures. -/
def atomic {μ : Type} : Env zramBackend μ Machine := fun _ s op r s' => answers s op r s'

/-- A class of atomic backends. -/
def Atomic {μ : Type} (R : Env zramBackend μ Machine) : Prop :=
  ∀ m s op r s', R m s op r s' → answers s op r s'

/-- Atomic backends whose operations succeed whenever they are attempted. -/
def succeeding {μ : Type} : Env zramBackend μ Machine :=
  fun _ s op r s' => answers s op r s' ∧ op.succeeded r = true

end Nemor.Zram
