import Nemor.Tiering.Swapfile.Baseline

/-!
# Swapfiles: what a failure leaves behind

The backend keeps in memory what it owns, and the snapshot what was created and activated. A
call that fails after its effect, or is not cleaned up after, makes them differ from the
system. Here each operation of the backend is specified with all the ways it can fail: memory
and system still agree, or the failure is one of a few kinds that are noted as harm.
-/

namespace Nemor.Tiering.Swapfile

open Effectful UnixPath

/-! ## §1 Failures that a retry does not survive -/

/-- The failures after which memory and system differ for good: a creation that leaves a file
    it does not own, an activation that is not noticed, and a removal, before which the path
    has been given up. -/
def Answer.Harms : Answer → Prop
  | ⟨_, ⟨.fallocate path _, .error _⟩, k⟩ => path.components ∈ k.files
  | ⟨_, ⟨.chmod _, .error _⟩, _⟩ => True
  | ⟨_, ⟨.cleanUp path, .error _⟩, k⟩ => path.components ∈ k.files
  | ⟨_, ⟨.swapon path _, .error _⟩, k⟩ => path.components ∈ k.active
  | ⟨_, ⟨.removeFile _, .error _⟩, _⟩ => True
  | _ => False

/-- The file of an active swap goes. -/
def Answer.UnlinksActive : Answer → Prop
  | ⟨k, ⟨.cleanUp path, _⟩, k'⟩ => path.components ∈ k.active ∧ path.components ∉ k'.files
  | ⟨k, ⟨.removeFile path, _⟩, k'⟩ => path.components ∈ k.active ∧ path.components ∉ k'.files
  | _ => False

/-- No answer of a run does harm. -/
def Harmless (history : List Answer) : Prop := ∀ x ∈ history, ¬ x.Harms

/-- Neither harm nor the removal of an active swapfile. -/
def Spotless (history : List Answer) : Prop := ∀ x ∈ history, ¬ x.Harms ∧ ¬ x.UnlinksActive

theorem Spotless.snoc {history : List Answer} {x : Answer} (h : Spotless history)
    (hharms : ¬ x.Harms) (hunlinks : ¬ x.UnlinksActive) : Spotless (history ++ [x]) := by
  intro y hy
  rcases List.mem_append.1 hy with hy | hy
  · exact h y hy
  · obtain rfl := List.mem_singleton.1 hy
    exact ⟨hharms, hunlinks⟩

/-! ## §2 What a call does to one path -/

section Calls

variable {names : SwapNames} {faults : Bool} {k k' k₁ : Kernel} {op : SysOp} {path : PathBuf}

/-- A call that can be carried out either is, or fails by a fault. -/
theorem outcome_inv {ε : Type} {r : Except ε Unit} (h : Outcome faults op k r k')
    (heffect : op.effect k = some k₁) :
    (r = .ok () ∧ k' = k₁) ∨ (∃ e, r = .error e) ∧ faults = true ∧ (k' = k ∨ k' = k₁) := by
  cases r with
  | ok _ => exact .inl ⟨rfl, Option.some.inj (h.symm.trans heffect)⟩
  | error e =>
    -- it could be carried out, so only a fault explains the failure
    rcases h with ⟨hnone, -⟩ | ⟨hfaults, hk | hk⟩
    · rw [heffect] at hnone
      cases hnone
    · exact .inr ⟨⟨e, rfl⟩, hfaults, .inl hk⟩
    · exact .inr ⟨⟨e, rfl⟩, hfaults, .inr (Option.some.inj (hk.symm.trans heffect))⟩

theorem effect_swapoff (h : path.components ∈ k.active) :
    (SysOp.swapoff path).effect k = some (k.swapoff path.components) := if_pos h

theorem effect_swapon {priority : Int32} (h : path.components ∈ k.files)
    (hinactive : path.components ∉ k.active) :
    (SysOp.swapon path priority).effect k = some (k.swapon path.components h) := by
  simp [SysOp.effect, h, hinactive]

theorem effect_removeFile (h : path.components ∈ k.files) :
    (SysOp.removeFile path).effect k = some (k.unlink path.components) := if_pos h

theorem effect_cleanUp (h : path.components ∈ k.files) :
    (SysOp.cleanUp path).effect k = some (k.unlink path.components) := if_pos h

@[simp] theorem mem_files_unlink (k : Kernel) (path : PathKey) : path ∉ (k.unlink path).files := by
  simp [Kernel.unlink]

@[simp] theorem mem_active_unlink (k : Kernel) (path : PathKey) : path ∉ (k.unlink path).active := by
  simp [Kernel.unlink]

@[simp] theorem mem_active_swapoff (k : Kernel) (path : PathKey) :
    path ∉ (k.swapoff path).active := by
  simp [Kernel.swapoff]

/-- An inactive file is unlinked without an orphan. -/
theorem orphaned_unlink {k : Kernel} {path : PathKey} (h : path ∉ k.active) :
    (k.unlink path).orphaned = k.orphaned := by
  simp [Kernel.unlink, h]

/-- Only the removal of an active swapfile makes an orphan. -/
theorem orphaned_eq {r : op.Reply} (h : k.Answers names faults op r k')
    (hunlinks : ¬ Answer.UnlinksActive ⟨k, ⟨op, r⟩, k'⟩) : k'.orphaned = k.orphaned := by
  rcases answers_effect h with rfl | heffect
  · rfl
  · cases op with
    -- only the last two calls unlink anything
    | readProcSwaps => cases heffect; rfl
    | «exists» path => cases heffect; rfl
    | btrfs path size => cases heffect; rfl
    | fallocate path size => cases heffect; rfl
    | chmod path =>
      simp only [SysOp.effect, Option.ite_none_right_eq_some, Option.some.injEq] at heffect
      rw [← heffect.2]
    | mkswap path =>
      simp only [SysOp.effect, Option.ite_none_right_eq_some, Option.some.injEq] at heffect
      rw [← heffect.2]
    | swapon path priority =>
      simp only [SysOp.effect, Option.dite_none_right_eq_some, Option.ite_none_left_eq_some,
        Option.some.injEq] at heffect
      obtain ⟨-, -, rfl⟩ := heffect
      rfl
    | swapoff path =>
      simp only [SysOp.effect, Option.ite_none_right_eq_some, Option.some.injEq] at heffect
      obtain ⟨-, rfl⟩ := heffect
      rfl
    | cleanUp path =>
      simp only [SysOp.effect, Option.ite_none_right_eq_some, Option.some.injEq] at heffect
      obtain ⟨-, rfl⟩ := heffect
      -- an active swap would have been unlinked here
      exact orphaned_unlink fun hactive => hunlinks ⟨hactive, mem_files_unlink k _⟩
    | removeFile path =>
      simp only [SysOp.effect, Option.ite_none_right_eq_some, Option.some.injEq] at heffect
      obtain ⟨-, rfl⟩ := heffect
      exact orphaned_unlink fun hactive => hunlinks ⟨hactive, mem_files_unlink k _⟩

end Calls

/-! ## §3 Clean and harmed machines -/

/-- The swap of `path`, and no other, is listed under `path`. -/
structure Shown (names : SwapNames) (path : PathKey) : Prop where
  backed : ∀ q, names.backed q = path ↔ q = path
  orphaned : ∀ q, names.orphaned q ≠ path

theorem Shown.mem_listing {names : SwapNames} {path : PathKey} (h : Shown names path) (k : Kernel) :
    path ∈ k.listing names ↔ path ∈ k.active := by
  simp [Kernel.listing, h.backed, h.orphaned]

/-- Nothing has gone wrong that memory does not know of. -/
structure Clean (start : Kernel) (s : Machine) : Prop where
  spotless : Spotless s.history
  active : start.active ⊆ s.kernel.active
  orphaned : s.kernel.orphaned = start.orphaned

/-- Something has gone wrong for good. -/
def Harmed (s : Machine) : Prop := ∃ x ∈ s.history, x.Harms

/-- The file of an active swap was removed. -/
def Unlinked (s : Machine) : Prop := ∃ x ∈ s.history, x.UnlinksActive

section Machines

variable {names : SwapNames} {faults : Bool} {start : Kernel} {path : PathBuf} {μ : Type} {m : μ}
  {s s' : Machine} {op : SysOp} {r : op.Reply}

theorem Clean.call (h : Clean start s) (hr : system names faults m s op r s')
    (hop : ∀ p, op.path? = some p → p.components ∉ start.active)
    (hharms : ¬ Answer.Harms ⟨s.kernel, ⟨op, r⟩, s'.kernel⟩)
    (hunlinks : ¬ Answer.UnlinksActive ⟨s.kernel, ⟨op, r⟩, s'.kernel⟩) : Clean start s' where
  spotless := by
    rw [hr.2]
    exact h.spotless.snoc hharms hunlinks
  active := by
    have hprotects : Protects start s.kernel := ⟨h.active, h.orphaned.ge⟩
    exact (hprotects.call hr hop).active
  orphaned := (orphaned_eq hr.1 hunlinks).trans h.orphaned

theorem Harmed.of_call (hr : system names faults m s op r s')
    (h : Answer.Harms ⟨s.kernel, ⟨op, r⟩, s'.kernel⟩) : Harmed s' := by
  refine ⟨_, ?_, h⟩
  rw [hr.2]
  simp

theorem Unlinked.of_call (hr : system names faults m s op r s')
    (h : Answer.UnlinksActive ⟨s.kernel, ⟨op, r⟩, s'.kernel⟩) : Unlinked s' := by
  refine ⟨_, ?_, h⟩
  rw [hr.2]
  simp

/-- What has gone wrong stays in the history. -/
theorem Harmed.call (h : Harmed s) (hr : system names faults m s op r s') : Harmed s' := by
  obtain ⟨x, hx, hharms⟩ := h
  refine ⟨x, ?_, hharms⟩
  rw [hr.2]
  exact List.mem_append_left _ hx

theorem Unlinked.call (h : Unlinked s) (hr : system names faults m s op r s') : Unlinked s' := by
  obtain ⟨x, hx, hunlinks⟩ := h
  refine ⟨x, ?_, hunlinks⟩
  rw [hr.2]
  exact List.mem_append_left _ hx

end Machines

/-! ## §4 Operations of the backend on a path that was absent -/

section Operations

variable {names : SwapNames} {faults : Bool} {start : Kernel} {path : PathBuf}
  {b : LinuxSwapfileBackend} {s : Machine}

theorem activeSwaps_spec (h : Clean start s) :
    Act.wp (system names faults) (fun _ _ => True) LinuxSwapfileBackend.activeSwaps
      (fun r b' s' => b' = b ∧ s'.kernel = s.kernel ∧ Clean start s' ∧
        (r = .ok (s.kernel.listing names) ∨ (∃ e, r = .error e) ∧ faults = true)) b s := by
  apply Act.wp_perform.2
  refine ⟨trivial, fun r s' hr => ?_⟩
  -- a read changes nothing, whatever it answers
  have hclean : Clean start s' := h.call hr (fun p hp => by cases hp) (by cases r <;> exact id) id
  cases r with
  | ok text =>
    obtain ⟨htext, hk⟩ := hr.1
    exact ⟨rfl, hk, hclean, .inl (congrArg Except.ok htext)⟩
  | error message =>
    obtain ⟨hfaults, hk⟩ := hr.1
    exact ⟨rfl, hk, hclean, .inr ⟨⟨_, rfl⟩, hfaults⟩⟩

/-- On a path of the namespace that is owned. -/
theorem wp_requireOwned {J : LinuxSwapfileBackend → Machine → Prop} {m : LinuxSwapfileBackend.Linux Unit}
    {Q : Except BackendError Unit → LinuxSwapfileBackend → Machine → Prop}
    (hpath : LinuxSwapfileBackend.requirePath path = .ok ()) (howned : path.components ∈ b.owned)
    (h : Act.wp (system names faults) J m Q b s) :
    Act.wp (system names faults) J
      (do Act.ofExcept (LinuxSwapfileBackend.requirePath path)
          LinuxSwapfileBackend.requireOwned path
          m) Q b s := by
  apply Act.wp_bind.2
  -- both guards of the operation let it through
  rw [hpath]
  apply Act.wp_bind.2
  apply Act.wp_bind.2
  apply Act.wp_current.2
  apply Act.wp_ite.2
  constructor
  · intro _
    exact h
  · intro hnot
    exact absurd (by simpa [LinuxSwapfileBackend.isOwned] using howned) hnot

section Absent

variable (habsent : path.components ∉ start.active)

include habsent

theorem call_allowed {op : SysOp} (hop : op.path? = some path) :
    ∀ p, op.path? = some p → p.components ∉ start.active := by
  intro p hp
  cases hop.symm.trans hp
  exact habsent

theorem deactivateOwned_spec (h : Clean start s)
    (hpath : LinuxSwapfileBackend.requirePath path = .ok ()) (howned : path.components ∈ b.owned)
    (hactive : path.components ∈ s.kernel.active) :
    Act.wp (system names faults) (fun _ _ => True) (LinuxSwapfileBackend.deactivateOwned path)
      (fun r b' s' => b' = b ∧ s'.kernel.files = s.kernel.files ∧ Clean start s' ∧
        (r = .ok () ∧ path.components ∉ s'.kernel.active ∨ (∃ e, r = .error e) ∧ faults = true))
      b s := by
  apply wp_requireOwned hpath howned
  apply Act.wp_perform.2
  refine ⟨trivial, fun r s' hr => ?_⟩
  have hclean : Clean start s' := h.call hr (call_allowed habsent rfl) (by cases r <;> exact id) id
  -- `swapoff` is harmless also when it fails: it can be asked for again
  rcases outcome_inv hr.1 (effect_swapoff hactive) with ⟨rfl, hk⟩ | ⟨⟨e, rfl⟩, hfaults, hk⟩
  · rw [hk] at *
    exact ⟨rfl, rfl, hclean, .inl ⟨rfl, mem_active_swapoff _ _⟩⟩
  · refine ⟨rfl, ?_, hclean, .inr ⟨⟨e, rfl⟩, hfaults⟩⟩
    rcases hk with hk | hk <;> rw [hk]
    rfl

/-- The path is given up in any case. -/
theorem removeOwned_spec
    (hpath : LinuxSwapfileBackend.requirePath path = .ok ()) (howned : path.components ∈ b.owned)
    (hfile : path.components ∈ s.kernel.files) :
    Act.wp (system names faults) (fun _ _ => True) (LinuxSwapfileBackend.removeOwned path)
      (fun r b' s' => path.components ∉ b'.owned ∧
        (r = .ok () ∧ path.components ∉ s'.kernel.files ∧
            (Clean start s → path.components ∉ s.kernel.active → Clean start s') ∧
            (Harmed s → path.components ∈ s.kernel.active → Harmed s' ∧ Unlinked s') ∨
          (∃ e, r = .error e) ∧ faults = true ∧ Harmed s')) b s := by
  apply wp_requireOwned hpath howned
  apply Act.wp_bind.2
  apply Act.wp_assign.2
  apply Act.wp_perform.2
  -- `owned` has lost the path before the call is made
  refine ⟨trivial, fun r s' hr => ⟨Finset.notMem_erase _ _, ?_⟩⟩
  rcases outcome_inv hr.1 (effect_removeFile hfile) with ⟨rfl, hk⟩ | ⟨⟨e, rfl⟩, hfaults, -⟩
  · have hgone : path.components ∉ s'.kernel.files := by
      rw [hk]
      exact mem_files_unlink _ _
    refine .inl ⟨rfl, hgone, fun hclean hinactive => ?_, fun hharmed hactive => ?_⟩
    · exact hclean.call hr (call_allowed habsent rfl) id fun hunlinks => hinactive hunlinks.1
    · exact ⟨hharmed.call hr, Unlinked.of_call hr ⟨hactive, hgone⟩⟩
  · -- a failed unlink is harm, with or without its effect
    exact .inr ⟨⟨_, rfl⟩, hfaults, Harmed.of_call hr trivial⟩

/-- An activation that fails after its effect is not noticed. -/
theorem activateOwned_spec {priority : Int32} (h : Clean start s)
    (hpath : LinuxSwapfileBackend.requirePath path = .ok ()) (howned : path.components ∈ b.owned)
    (hfile : path.components ∈ s.kernel.files) (hinactive : path.components ∉ s.kernel.active) :
    Act.wp (system names faults) (fun _ _ => True) (LinuxSwapfileBackend.activateOwned path priority)
      (fun r b' s' => b' = b ∧ s'.kernel.files = s.kernel.files ∧
        (r = .ok () ∧ Clean start s' ∨
          (∃ e, r = .error e) ∧ Clean start s' ∧ path.components ∉ s'.kernel.active ∨
          (∃ e, r = .error e) ∧ Harmed s' ∧ path.components ∈ s'.kernel.active)) b s := by
  apply wp_requireOwned hpath howned
  apply Act.wp_perform.2
  refine ⟨trivial, fun r s' hr => ?_⟩
  rcases outcome_inv hr.1 (effect_swapon hfile hinactive) with ⟨rfl, hk⟩ | ⟨⟨e, rfl⟩, -, hk | hk⟩
  · refine ⟨rfl, by rw [hk]; rfl, .inl ⟨rfl, ?_⟩⟩
    exact h.call hr (call_allowed habsent rfl) id id
  · refine ⟨rfl, by rw [hk], .inr (.inl ⟨⟨e, rfl⟩, ?_, hk ▸ hinactive⟩)⟩
    refine h.call hr (call_allowed habsent rfl) (fun hharms => ?_) id
    exact hinactive (hk ▸ hharms)
  · -- it took effect and nobody was told
    have hactive : path.components ∈ s'.kernel.active := by
      rw [hk]
      exact Finset.mem_insert_self _ _
    exact ⟨rfl, by rw [hk]; rfl, .inr (.inr ⟨⟨e, rfl⟩, Harmed.of_call hr hactive, hactive⟩)⟩

end Absent

end Operations

/-! ## §5 Creation -/

/-- The file of a creation that failed is gone, or left for good. -/
def Abandoned (start : Kernel) (path : PathBuf) (s : Machine) : Prop :=
  path.components ∉ s.kernel.files ∧ Clean start s ∨ path.components ∈ s.kernel.files ∧ Harmed s

/-- The file is there and no swap yet. -/
structure Made (start : Kernel) (path : PathBuf) (s : Machine) : Prop where
  clean : Clean start s
  file : path.components ∈ s.kernel.files
  inactive : path.components ∉ s.kernel.active

theorem Kernel.inactive_of_absent {k : Kernel} {path : PathKey} (h : path ∉ k.files) :
    path ∉ k.active := fun hactive => h (k.backed hactive)

section Creation

variable {names : SwapNames} {faults : Bool} {start : Kernel} {path : PathBuf}
  {b : LinuxSwapfileBackend} {s : Machine}

variable (habsent : path.components ∉ start.active)

include habsent

theorem btrfs_spec {size : UInt64} (h : Clean start s) (hgone : path.components ∉ s.kernel.files) :
    Act.wp (system names faults) (fun _ _ => True)
      (LinuxSwapfileBackend.helper (.btrfs path size) rfl)
      (fun r b' s' => b' = b ∧ Clean start s' ∧ path.components ∉ s'.kernel.active ∧
        (r = .ok () → path.components ∈ s'.kernel.files)) b s := by
  apply Act.wp_perform.2
  refine ⟨trivial, fun r s' hr => ?_⟩
  -- a failure of this helper reaches the cleanup, so it is never harm by itself
  have hclean : Clean start s' := h.call hr (call_allowed habsent rfl) (by cases r <;> exact id) id
  have hinactive := Kernel.inactive_of_absent hgone
  rcases outcome_inv hr.1 rfl with ⟨rfl, hk⟩ | ⟨⟨e, rfl⟩, -, hk⟩
  · refine ⟨rfl, hclean, by rw [hk]; exact hinactive, fun _ => ?_⟩
    rw [hk]
    exact Finset.mem_insert_self _ _
  · refine ⟨rfl, hclean, ?_, fun he => (by cases he)⟩
    rcases hk with hk | hk <;> rw [hk] <;> exact hinactive

/-- On ext4 a file that is left by the first helper stays. -/
theorem fallocate_spec {size : UInt64} (h : Clean start s)
    (hgone : path.components ∉ s.kernel.files) :
    Act.wp (system names faults) (fun _ _ => True)
      (LinuxSwapfileBackend.helper (.fallocate path size) rfl)
      (fun r b' s' => b' = b ∧ (r = .ok () ∧ Made start path s' ∨
        (∃ e, r = .error e) ∧ Abandoned start path s')) b s := by
  apply Act.wp_perform.2
  refine ⟨trivial, fun r s' hr => ⟨rfl, ?_⟩⟩
  have hinactive := Kernel.inactive_of_absent hgone
  rcases outcome_inv hr.1 rfl with ⟨rfl, hk⟩ | ⟨⟨e, rfl⟩, -, hk | hk⟩
  · refine .inl ⟨rfl, h.call hr (call_allowed habsent rfl) id id, ?_, ?_⟩
    · rw [hk]
      exact Finset.mem_insert_self _ _
    · rw [hk]
      exact hinactive
  · have hgone' : path.components ∉ s'.kernel.files := by
      rw [hk]
      exact hgone
    exact .inr ⟨⟨e, rfl⟩, .inl ⟨hgone', h.call hr (call_allowed habsent rfl) hgone' id⟩⟩
  · -- the file is there, and `?` leaves the function before the cleanup
    have hfile : path.components ∈ s'.kernel.files := by
      rw [hk]
      exact Finset.mem_insert_self _ _
    exact .inr ⟨⟨e, rfl⟩, .inr ⟨hfile, Harmed.of_call hr hfile⟩⟩

theorem chmod_spec (h : Made start path s) :
    Act.wp (system names faults) (fun _ _ => True)
      (LinuxSwapfileBackend.helper (.chmod path) rfl)
      (fun r b' s' => b' = b ∧ (r = .ok () ∧ Made start path s' ∨
        (∃ e, r = .error e) ∧ Abandoned start path s')) b s := by
  apply Act.wp_perform.2
  refine ⟨trivial, fun r s' hr => ⟨rfl, ?_⟩⟩
  rcases outcome_inv hr.1 (if_pos h.file) with ⟨rfl, hk⟩ | ⟨⟨e, rfl⟩, -, hk⟩
  · refine .inl ⟨rfl, h.clean.call hr (call_allowed habsent rfl) id id, ?_, ?_⟩
    · rw [hk]
      exact h.file
    · rw [hk]
      exact h.inactive
  · -- the file of `fallocate` is there in any case
    refine .inr ⟨⟨e, rfl⟩, .inr ⟨?_, Harmed.of_call hr trivial⟩⟩
    rw [or_self_iff.1 hk]
    exact h.file

theorem mkswap_spec (h : Made start path s) :
    Act.wp (system names faults) (fun _ _ => True)
      (LinuxSwapfileBackend.helper (.mkswap path) rfl)
      (fun _ b' s' => b' = b ∧ Made start path s') b s := by
  apply Act.wp_perform.2
  refine ⟨trivial, fun r s' hr => ⟨rfl, ?_⟩⟩
  have hclean := h.clean.call hr (call_allowed habsent rfl) (by cases r <;> exact id) id
  -- the helper writes into the file; for the kernel nothing changes
  have hk : s'.kernel = s.kernel := by
    rcases outcome_inv hr.1 (if_pos h.file) with ⟨-, hk⟩ | ⟨-, -, hk⟩
    · exact hk
    · exact or_self_iff.1 hk
  exact ⟨hclean, hk ▸ h.file, hk ▸ h.inactive⟩

theorem format_spec {size : UInt64} {filesystem : FilesystemKind} (h : Clean start s)
    (hgone : path.components ∉ s.kernel.files) :
    Act.wp (system names faults) (fun _ _ => True)
      (LinuxSwapfileBackend.format path size filesystem)
      (fun r b' s' => b' = b ∧
        match r with
        | .ok (.ok _) => Made start path s'
        | .ok (.error _) => Clean start s' ∧ path.components ∉ s'.kernel.active
        | .error _ => Abandoned start path s') b s := by
  cases filesystem with
  -- on btrfs one helper does everything
  | btrfs =>
    apply Act.wp_attempt.2
    apply Act.wp_mono (btrfs_spec habsent h hgone)
    rintro (e | _) b' s' ⟨hb, hclean, hinactive, hfile⟩
    · exact ⟨hb, hclean, hinactive⟩
    · exact ⟨hb, hclean, hfile rfl, hinactive⟩
  | ext4 =>
    apply Act.wp_bind.2
    apply Act.wp_mono (fallocate_spec habsent h hgone)
    -- each of the first two helpers can end the function
    rintro r b₁ s₁ ⟨rfl, ⟨rfl, hmade⟩ | ⟨⟨e, rfl⟩, hleft⟩⟩
    · apply Act.wp_bind.2
      apply Act.wp_mono (chmod_spec habsent hmade)
      rintro r b₂ s₂ ⟨rfl, ⟨rfl, hmade⟩ | ⟨⟨e, rfl⟩, hleft⟩⟩
      · apply Act.wp_attempt.2
        apply Act.wp_mono (mkswap_spec habsent hmade)
        rintro (e | _) b₃ s₃ ⟨rfl, hmade⟩
        · exact ⟨rfl, hmade.clean, hmade.inactive⟩
        · exact ⟨rfl, hmade⟩
      · exact ⟨rfl, hleft⟩
    · exact ⟨rfl, hleft⟩
  | unsupported => exact ⟨rfl, .inl ⟨hgone, h⟩⟩

/-- The cleanup of a creation that failed. -/
theorem cleanUp_spec {error : BackendError} (h : Clean start s)
    (hinactive : path.components ∉ s.kernel.active) :
    Act.wp (system names faults) (fun _ _ => True)
      (do if (← Act.request (I := sys) (.exists path)) = true then
            let _ ← Act.request (I := sys) (.cleanUp path)
            Act.fail error
          else
            Act.fail error : LinuxSwapfileBackend.Linux Unit)
      (fun r _ s' => r = .error error ∧ Abandoned start path s') b s := by
  apply Act.wp_bind.2
  apply Act.wp_request.2
  refine ⟨trivial, fun r s₁ hr => ?_⟩
  have hclean : Clean start s₁ := h.call hr (call_allowed habsent rfl) id id
  obtain ⟨rfl, hk⟩ := hr.1
  -- `path.exists()` tells whether there is something to clean up
  apply Act.wp_ite.2
  constructor
  · intro hfile
    replace hfile : path.components ∈ s₁.kernel.files := hk ▸ of_decide_eq_true hfile
    replace hinactive : path.components ∉ s₁.kernel.active := hk ▸ hinactive
    apply Act.wp_bind.2
    apply Act.wp_request.2
    refine ⟨trivial, fun r s₂ hr₂ => ⟨rfl, ?_⟩⟩
    have hunlinks : ¬ Answer.UnlinksActive ⟨s₁.kernel, ⟨.cleanUp path, r⟩, s₂.kernel⟩ :=
      fun hunlinks => hinactive hunlinks.1
    -- the answer of the unlink is dropped by the source, so its failure is not noticed
    rcases outcome_inv hr₂.1 (effect_cleanUp hfile) with ⟨rfl, hk₂⟩ | ⟨⟨e, rfl⟩, -, hk₂ | hk₂⟩
    · refine .inl ⟨?_, hclean.call hr₂ (call_allowed habsent rfl) id hunlinks⟩
      rw [hk₂]
      exact mem_files_unlink _ _
    · have hleft : path.components ∈ s₂.kernel.files := by
        rw [hk₂]
        exact hfile
      exact .inr ⟨hleft, Harmed.of_call hr₂ hleft⟩
    · have hgone : path.components ∉ s₂.kernel.files := by
        rw [hk₂]
        exact mem_files_unlink _ _
      exact .inl ⟨hgone, hclean.call hr₂ (call_allowed habsent rfl) hgone hunlinks⟩
  · intro hgone
    refine ⟨rfl, .inl ⟨?_, hclean⟩⟩
    rw [hk]
    simpa using hgone

theorem createOwned_spec {filesystem : FilesystemKind} {size : UInt64} (h : Clean start s)
    (hgone : path.components ∉ s.kernel.files) :
    Act.wp (system names faults) (fun _ _ => True)
      (LinuxSwapfileBackend.createOwned path filesystem size)
      (fun r b' s' =>
        (r = .ok () ∧ LinuxSwapfileBackend.requirePath path = .ok () ∧ path.components ∈ b'.owned ∧
          Made start path s') ∨
        (∃ e, r = .error e) ∧ Abandoned start path s') b s := by
  apply Act.wp_bind.2
  apply Act.wp_ofExcept.2
  cases hpath : LinuxSwapfileBackend.requirePath path with
  | error e => exact .inr ⟨⟨e, rfl⟩, .inl ⟨hgone, h⟩⟩
  | ok _ =>
    apply Act.wp_bind.2
    apply Act.wp_request.2
    refine ⟨trivial, fun r s₁ hr => ?_⟩
    have hclean : Clean start s₁ := h.call hr (call_allowed habsent rfl) id id
    obtain ⟨rfl, hk⟩ := hr.1
    -- the path is absent, so nothing is adopted
    apply Act.wp_ite.2
    constructor
    · intro hfile
      exact absurd (of_decide_eq_true hfile) hgone
    · intro _
      apply Act.wp_bind.2
      apply Act.wp_mono (format_spec habsent hclean (hk ▸ hgone))
      rintro (e | e | _) b₂ s₂ ⟨rfl, h₂⟩
      · exact .inr ⟨⟨e, rfl⟩, h₂⟩
      · apply Act.wp_mono (cleanUp_spec habsent h₂.1 h₂.2)
        rintro r b₃ s₃ ⟨rfl, hleft⟩
        exact .inr ⟨⟨e, rfl⟩, hleft⟩
      · exact .inl ⟨rfl, rfl, Finset.mem_insert_self _ _, h₂⟩

end Creation

end Nemor.Tiering.Swapfile
