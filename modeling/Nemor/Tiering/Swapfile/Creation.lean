import Nemor.Tiering.Swapfile.Retry

/-!
# Swapfiles: a creation that fails

`createOwned` cleans up after the helper of btrfs and after the last helper of ext4. The first
two helpers of ext4 leave the function at once, and the cleanup itself is tried only once, so
with some failures a file stays that nobody owns.
-/

namespace Nemor.Tiering.Swapfile

open Effectful UnixPath

/-! ## §1 Ownership -/

section Ownership

variable {names : SwapNames} {faults : Bool} {path : PathBuf} {size : UInt64}
  {filesystem : FilesystemKind} {b : LinuxSwapfileBackend} {s : Machine}

theorem helper_owned {op : SysOp} {hop : op.Reply = Except BackendError Unit} :
    Act.wp (system names faults) (fun _ _ => True) (LinuxSwapfileBackend.helper op hop)
      (fun _ b' _ => b' = b) b s :=
  Act.wp_perform.2 ⟨trivial, fun _ _ _ => rfl⟩

theorem format_owned :
    Act.wp (system names faults) (fun _ _ => True)
      (LinuxSwapfileBackend.format path size filesystem) (fun _ b' _ => b' = b) b s := by
  cases filesystem with
  | btrfs => exact Act.wp_attempt.2 helper_owned
  | ext4 =>
    apply Act.wp_bind.2
    apply Act.wp_mono helper_owned
    rintro (e | _) b₁ s₁ rfl
    · rfl
    apply Act.wp_bind.2
    apply Act.wp_mono helper_owned
    rintro (e | _) b₂ s₂ rfl
    · rfl
    exact Act.wp_attempt.2 helper_owned
  | unsupported => rfl

/-- A creation that fails records no ownership. -/
theorem createOwned_owned :
    Act.wp (system names faults) (fun _ _ => True)
      (LinuxSwapfileBackend.createOwned path filesystem size)
      (fun r b' _ => (∃ e, r = .error e) → b' = b) b s := by
  apply Act.wp_bind.2
  apply Act.wp_ofExcept.2
  cases LinuxSwapfileBackend.requirePath path with
  | error e => exact fun _ => rfl
  | ok _ =>
    apply Act.wp_bind.2
    apply Act.wp_request.2
    refine ⟨trivial, fun r s₁ _ => ?_⟩
    apply Act.wp_ite.2
    constructor
    · intro _ _
      rfl
    · intro _
      apply Act.wp_bind.2
      apply Act.wp_mono format_owned
      rintro (e | e | _) b₂ s₂ rfl
      · exact fun _ => rfl
      · apply Act.wp_bind.2
        apply Act.wp_request.2
        refine ⟨trivial, fun r s₃ _ => ?_⟩
        apply Act.wp_ite.2
        constructor
        · intro _
          apply Act.wp_bind.2
          apply Act.wp_request.2
          exact ⟨trivial, fun _ _ _ _ => rfl⟩
        · intro _ _
          rfl
      -- only here the path is recorded
      · rintro ⟨e, he⟩
        cases he

end Ownership

/-! ## §2 All or nothing -/

/-- If the creation fails, there is no file that was not there before, and no new ownership. -/
def AllOrNothing (path : PathBuf) (b : LinuxSwapfileBackend) (k : Kernel)
    (r : Except BackendError Unit) (b' : LinuxSwapfileBackend) (k' : Kernel) : Prop :=
  (∃ e, r = .error e) → (path.components ∈ k'.files → path.components ∈ k.files) ∧ b' = b

section Runs

variable {names : SwapNames} {faults : Bool} {path : PathBuf} {filesystem : FilesystemKind}
  {size : UInt64} {b b' : LinuxSwapfileBackend} {k : Kernel} {r : Except BackendError Unit}
  {s' : Machine}

/-- Asking for a file harms nothing. -/
theorem harmless_of_exists {history : List Answer}
    (h : ∀ x ∈ history, x ∈ ([] : List Answer) ∨ ∃ reply, x.event = ⟨.exists path, reply⟩) :
    Harmless history := by
  intro x hx hharms
  rcases h x hx with hnil | ⟨reply, hevent⟩
  · cases hnil
  · obtain ⟨before, event, after⟩ := x
    cases hevent
    exact hharms

theorem clean_start (k : Kernel) : Clean k ⟨k, []⟩ where
  spotless := fun _ hx => by cases hx
  active := subset_rfl
  orphaned := rfl

/-- Creation is all or nothing exactly in the runs without a failure that it does not clean up
    after: a `fallocate` that fails and leaves its file, a failed `chmod`, or a failed cleanup
    that leaves the file. -/
theorem createOwned_allOrNothing_iff
    (hr : Reaches (system names faults) (LinuxSwapfileBackend.createOwned path filesystem size b)
      ⟨k, []⟩ (.pure (r, b')) s') :
    AllOrNothing path b k r b' s'.kernel ↔ Harmless s'.history := by
  have howned := Prog.wp_reaches createOwned_owned hr
  by_cases htaken : path.components ∈ k.files
  · have hrefused := Prog.wp_reaches (createOwned_refuses (J := fun _ _ => True) trivial htaken) hr
    constructor
    · intro _
      exact harmless_of_exists hrefused.2.2
    · intro _ herror
      exact ⟨fun _ => htaken, howned herror⟩
  · have habsent := Kernel.inactive_of_absent htaken
    have hspec := Prog.wp_reaches (createOwned_spec habsent (clean_start k) htaken) hr
    rcases hspec with ⟨rfl, -, -, hmade⟩ | ⟨herror, ⟨hgone, hclean⟩ | ⟨hfile, hharmed⟩⟩
    · -- the file is there and owned, and nothing has failed
      constructor
      · intro _ x hx
        exact (hmade.clean.spotless x hx).1
      · rintro _ ⟨e, he⟩
        cases he
    · constructor
      · intro _ x hx
        exact (hclean.spotless x hx).1
      · intro _ herror
        exact ⟨fun hfile => absurd hfile hgone, howned herror⟩
    · -- the file is left, and something is to blame for it
      constructor
      · intro hnothing
        exact absurd ((hnothing herror).1 hfile) htaken
      · intro hharmless
        exact absurd hharmed (not_harmed hharmless)

end Runs

/-! ## §3 A file that stays -/

section Failing

variable {names : SwapNames}

/-- On ext4 the file is allocated, its mode cannot be set, and the formatting ends. -/
theorem format_chmod_fails (path : PathBuf) (size : UInt64) (b : LinuxSwapfileBackend)
    (s : Machine) :
    Act.may (system names true) (LinuxSwapfileBackend.format path size .ext4)
      (fun r b' s' => (∃ e, r = .error e) ∧ b' = b ∧
        s'.kernel = s.kernel.create path.components) b s := by
  have hchmod : ∀ s₁ : Machine, s₁.kernel = s.kernel.create path.components →
      Act.may (system names true) (LinuxSwapfileBackend.helper (.chmod path) rfl)
        (fun r b' s' => (∃ e, r = .error e) ∧ b' = b ∧
          s'.kernel = s.kernel.create path.components) b s₁ := by
    intro s₁ hk
    apply Act.may_perform.2
    exact ⟨.error (.operation "helper" "/usr/bin/chmod exited with exit status: 1"),
      s₁.answer (.chmod path) (.error _) s₁.kernel, ⟨.inr ⟨rfl, .inl rfl⟩, rfl⟩, ⟨_, rfl⟩, rfl, hk⟩
  apply Act.may_bind.2
  apply Act.may_perform.2
  refine ⟨.ok (), s.answer (.fallocate path size) (.ok ()) (s.kernel.create path.components),
    ⟨rfl, rfl⟩, ?_⟩
  apply Act.may_bind.2
  apply Act.may_mono (hchmod _ rfl)
  rintro r b' s' ⟨⟨e, rfl⟩, hb, hk⟩
  exact ⟨⟨e, rfl⟩, hb, hk⟩

theorem createOwned_chmod_fails (size : UInt64) :
    Act.may (system procSwaps true)
      (LinuxSwapfileBackend.createOwned productionPlan.path .ext4 size)
      (fun r b' s' => (∃ e, r = .error e) ∧ b' = ⟨∅⟩ ∧
        s'.kernel = bare.create productionPlan.path.components) ⟨∅⟩ ⟨bare, []⟩ := by
  apply Act.may_bind.2
  rw [requirePath_production]
  apply Act.may_ofExcept.2
  apply Act.may_bind.2
  apply Act.may_request.2
  refine ⟨false, Machine.answer ⟨bare, []⟩ (.exists productionPlan.path) false bare,
    ⟨⟨(decide_eq_false (Finset.notMem_empty _)).symm, rfl⟩, rfl⟩, ?_⟩
  apply Act.may_ite.2
  refine ⟨fun h => (by cases h), fun _ => ?_⟩
  apply Act.may_bind.2
  apply Act.may_mono (format_chmod_fails _ _ _ _)
  rintro r b' s' ⟨⟨e, rfl⟩, hb, hk⟩
  exact ⟨⟨e, rfl⟩, hb, hk⟩

end Failing

/-- A creation that fails and is not all or nothing. -/
theorem createOwned_leaves_file :
    ∃ r b' s', Reaches (system procSwaps true)
        (LinuxSwapfileBackend.createOwned productionPlan.path .ext4 0x100000000 ⟨∅⟩) ⟨bare, []⟩
        (.pure (r, b')) s' ∧
      ¬ AllOrNothing productionPlan.path ⟨∅⟩ bare r b' s'.kernel := by
  obtain ⟨⟨r, b'⟩, s', hr, herror, -, hkernel⟩ :=
    Prog.may_reaches (createOwned_chmod_fails 0x100000000)
  refine ⟨r, b', s', hr, fun hnothing => ?_⟩
  have hfile : productionPlan.path.components ∈ s'.kernel.files := by
    rw [hkernel]
    exact bare_file
  exact Finset.notMem_empty _ ((hnothing herror).1 hfile)

/-- The same run, seen from its answers. -/
theorem createOwned_allOrNothing_chmod :
    ∃ r b' s', Reaches (system procSwaps true)
        (LinuxSwapfileBackend.createOwned productionPlan.path .ext4 0x100000000 ⟨∅⟩) ⟨bare, []⟩
        (.pure (r, b')) s' ∧
      (AllOrNothing productionPlan.path ⟨∅⟩ bare r b' s'.kernel ↔ Harmless s'.history) := by
  obtain ⟨⟨r, b'⟩, s', hr, -⟩ := Prog.may_reaches (createOwned_chmod_fails 0x100000000)
  exact ⟨r, b', s', hr, createOwned_allOrNothing_iff hr⟩

end Nemor.Tiering.Swapfile
