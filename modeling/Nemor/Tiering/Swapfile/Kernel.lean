import Nemor.Tiering.Swapfile.Linux

/-!
# Swapfiles: the system under the backend

A kernel with files and active swaps, and the answers it gives to the calls of the backend.
A helper or a removal may fail, and it may fail after it has had its effect.
-/

namespace Nemor.Tiering.Swapfile

open Effectful UnixPath

/-! ## §1 The kernel -/

/-- Files, active swaps and active swaps whose file was unlinked. -/
structure Kernel where
  files : Finset PathKey
  active : Finset PathKey
  orphaned : Finset PathKey
  /-- A swap that is not orphaned has its file. -/
  backed : active ⊆ files

namespace Kernel

/-- A file more. -/
def create (k : Kernel) (path : PathKey) : Kernel where
  files := insert path k.files
  active := k.active
  orphaned := k.orphaned
  backed := k.backed.trans (Finset.subset_insert path k.files)

/-- Use a file as swap. -/
def swapon (k : Kernel) (path : PathKey) (h : path ∈ k.files) : Kernel where
  files := k.files
  active := insert path k.active
  orphaned := k.orphaned
  backed := Finset.insert_subset h k.backed

/-- Use it no more. -/
def swapoff (k : Kernel) (path : PathKey) : Kernel where
  files := k.files
  active := k.active.erase path
  orphaned := k.orphaned
  backed := (Finset.erase_subset path k.active).trans k.backed

/-- A swap stays active when its file goes. -/
def unlink (k : Kernel) (path : PathKey) : Kernel where
  files := k.files.erase path
  active := k.active.erase path
  orphaned := if path ∈ k.active then insert path k.orphaned else k.orphaned
  backed := Finset.erase_subset_erase path k.backed

theorem orphaned_subset_unlink (k : Kernel) (path : PathKey) :
    k.orphaned ⊆ (k.unlink path).orphaned := by
  simp only [unlink]
  split
  · exact Finset.subset_insert path k.orphaned
  · exact subset_rfl

end Kernel

/-- What a call does to the kernel, if it can be carried out. -/
def SysOp.effect : SysOp → Kernel → Option Kernel
  | .readProcSwaps, k | .exists _, k => some k
  | .btrfs path _, k | .fallocate path _, k => some (k.create path.components)
  | .chmod path, k | .mkswap path, k => if path.components ∈ k.files then some k else none
  -- `swapon` fails on a swap that is active already
  | .swapon path _, k =>
    if h : path.components ∈ k.files then
      if path.components ∈ k.active then none else some (k.swapon path.components h)
    else none
  | .swapoff path, k =>
    if path.components ∈ k.active then some (k.swapoff path.components) else none
  | .cleanUp path, k | .removeFile path, k =>
    if path.components ∈ k.files then some (k.unlink path.components) else none

/-! ## §2 Answers -/

/-- The names under which `/proc/swaps` shows active swaps, with and without their file. -/
structure SwapNames where
  backed : PathKey → PathKey
  orphaned : PathKey → PathKey

/-- The names in `/proc/swaps`. -/
def Kernel.listing (names : SwapNames) (k : Kernel) : Finset PathKey :=
  k.active.image names.backed ∪ k.orphaned.image names.orphaned

/-- The outcome of a helper or a removal. It fails when it cannot be carried out; where faults
    are possible it may fail in any case, before or after its effect. -/
def Outcome (faults : Bool) (op : SysOp) (k : Kernel) {ε : Type} : Except ε Unit → Kernel → Prop
  | .ok _, k' => op.effect k = some k'
  | .error _, k' =>
    (op.effect k = none ∧ k' = k) ∨ (faults = true ∧ (k' = k ∨ op.effect k = some k'))

/-- The answers of the system. -/
def Kernel.Answers (names : SwapNames) (faults : Bool) (k : Kernel) :
    (op : SysOp) → op.Reply → Kernel → Prop
  -- the text is any that lists the active swaps
  | .readProcSwaps, .ok text, k' => listedSwaps text = k.listing names ∧ k' = k
  | .readProcSwaps, .error _, k' => faults = true ∧ k' = k
  | .exists path, r, k' => r = decide (path.components ∈ k.files) ∧ k' = k
  | .btrfs path size, r, k' => Outcome faults (.btrfs path size) k r k'
  | .fallocate path size, r, k' => Outcome faults (.fallocate path size) k r k'
  | .chmod path, r, k' => Outcome faults (.chmod path) k r k'
  | .mkswap path, r, k' => Outcome faults (.mkswap path) k r k'
  | .swapon path priority, r, k' => Outcome faults (.swapon path priority) k r k'
  | .swapoff path, r, k' => Outcome faults (.swapoff path) k r k'
  | .cleanUp path, r, k' => Outcome faults (.cleanUp path) k r k'
  | .removeFile path, r, k' => Outcome faults (.removeFile path) k r k'

/-- An answered call with the kernels around it. -/
structure Answer where
  before : Kernel
  event : Event sys
  after : Kernel

/-- The kernel and the calls answered so far. -/
structure Machine where
  kernel : Kernel
  history : List Answer

/-- The kernel as the surroundings of a program, with faults or without. -/
def system (names : SwapNames) (faults : Bool) {μ : Type} : Env sys μ Machine := fun _ s op r s' =>
  s.kernel.Answers names faults op r s'.kernel ∧
    s'.history = s.history ++ [⟨s.kernel, ⟨op, r⟩, s'.kernel⟩]

/-! ## §3 What a call can do -/

section Calls

variable {names : SwapNames} {faults : Bool} {k k' : Kernel} {op : SysOp} {r : op.Reply}

/-- Every answer leaves the kernel alone or has the effect of the call. -/
theorem answers_effect (h : k.Answers names faults op r k') : k' = k ∨ op.effect k = some k' := by
  have houtcome : ∀ {ε : Type} (out : Except ε Unit), Outcome faults op k out k' →
      k' = k ∨ op.effect k = some k' := by
    intro ε out hout
    cases out with
    | ok _ => exact .inr hout
    | error _ =>
      rcases hout with ⟨-, hk⟩ | ⟨-, hk | hk⟩
      · exact .inl hk
      · exact .inl hk
      · exact .inr hk
  -- reads leave the kernel alone, all other calls have an outcome
  cases op with
  | readProcSwaps =>
    cases r with
    | ok text => exact .inl h.2
    | error message => exact .inl h.2
  | «exists» path => exact .inl h.2
  | btrfs path size => exact houtcome r h
  | fallocate path size => exact houtcome r h
  | chmod path => exact houtcome r h
  | mkswap path => exact houtcome r h
  | swapon path priority => exact houtcome r h
  | swapoff path => exact houtcome r h
  | cleanUp path => exact houtcome r h
  | removeFile path => exact houtcome r h

end Calls

/-- The path a call is about. -/
def SysOp.path? : SysOp → Option PathBuf
  | .readProcSwaps => none
  | .exists path | .btrfs path _ | .fallocate path _ | .chmod path | .mkswap path
  | .swapon path _ | .swapoff path | .cleanUp path | .removeFile path => some path

/-- Other swaps are not touched by a call, and no orphan ends. -/
theorem effect_frame {op : SysOp} {k k' : Kernel} (h : op.effect k = some k') :
    k.orphaned ⊆ k'.orphaned ∧
      ∀ q ∈ k.active, (∀ path, op.path? = some path → path.components ≠ q) → q ∈ k'.active := by
  cases op with
  | readProcSwaps =>
    cases h
    exact ⟨subset_rfl, fun q hq _ => hq⟩
  | «exists» path =>
    cases h
    exact ⟨subset_rfl, fun q hq _ => hq⟩
  | btrfs path size =>
    cases h
    exact ⟨subset_rfl, fun q hq _ => hq⟩
  | fallocate path size =>
    cases h
    exact ⟨subset_rfl, fun q hq _ => hq⟩
  | chmod path =>
    simp only [SysOp.effect, Option.ite_none_right_eq_some, Option.some.injEq] at h
    obtain ⟨-, rfl⟩ := h
    exact ⟨subset_rfl, fun q hq _ => hq⟩
  | mkswap path =>
    simp only [SysOp.effect, Option.ite_none_right_eq_some, Option.some.injEq] at h
    obtain ⟨-, rfl⟩ := h
    exact ⟨subset_rfl, fun q hq _ => hq⟩
  | swapon path priority =>
    simp only [SysOp.effect, Option.dite_none_right_eq_some, Option.ite_none_left_eq_some,
      Option.some.injEq] at h
    obtain ⟨-, -, rfl⟩ := h
    exact ⟨subset_rfl, fun q hq _ => Finset.mem_insert_of_mem hq⟩
  -- the last three calls end a swap, each only that of its path
  | swapoff path =>
    simp only [SysOp.effect, Option.ite_none_right_eq_some, Option.some.injEq] at h
    obtain ⟨-, rfl⟩ := h
    exact ⟨subset_rfl, fun q hq hne => Finset.mem_erase.2 ⟨(hne path rfl).symm, hq⟩⟩
  | cleanUp path =>
    simp only [SysOp.effect, Option.ite_none_right_eq_some, Option.some.injEq] at h
    obtain ⟨-, rfl⟩ := h
    exact ⟨k.orphaned_subset_unlink _, fun q hq hne => Finset.mem_erase.2 ⟨(hne path rfl).symm, hq⟩⟩
  | removeFile path =>
    simp only [SysOp.effect, Option.ite_none_right_eq_some, Option.some.injEq] at h
    obtain ⟨-, rfl⟩ := h
    exact ⟨k.orphaned_subset_unlink _, fun q hq hne => Finset.mem_erase.2 ⟨(hne path rfl).symm, hq⟩⟩

end Nemor.Tiering.Swapfile
