import Nemor.Tiering.Swapfile.Failures

/-!
# Swapfiles: rollbacks that are tried again

An apply with faults, any number of rollbacks with faults, and then a rollback without: does
the last one succeed, with the file gone and the swap inactive? It does unless the path was
taken or some failure was of the kinds that make memory and system differ for good.
-/

namespace Nemor.Tiering.Swapfile

open Effectful UnixPath

/-! ## §1 Between two calls of the transaction -/

/-- The snapshot is about the plan's path, which was absent, and names swaps that were active. -/
structure Sound (names : SwapNames) (plan : SwapfilePlan) (start : Kernel) (snapshot : MutationSnapshot)
    (s : Machine) : Prop where
  absent : plan.path.components ∉ start.files
  path : snapshot.path = plan.path
  baseline : snapshot.baselineSwaps ⊆ start.listing names
  clean : Clean start s

/-- The backend can undo what there is. -/
structure Pending (plan : SwapfilePlan) (t : LinuxSwapfileBackend × MutationSnapshot) (s : Machine) :
    Prop where
  created : t.2.created = true
  rolledBack : t.2.rolledBack = false
  allowed : LinuxSwapfileBackend.requirePath plan.path = .ok ()
  owned : plan.path.components ∈ t.1.owned
  file : plan.path.components ∈ s.kernel.files
  known : plan.path.components ∈ s.kernel.active → t.2.activated = true

/-- There is nothing to undo. -/
structure Idle (plan : SwapfilePlan) (snapshot : MutationSnapshot) (s : Machine) : Prop where
  gone : plan.path.components ∉ s.kernel.files
  unused : snapshot.rolledBack = false → snapshot.created = false ∧ snapshot.activated = false

/-- A rollback without faults succeeds. -/
def Recoverable (names : SwapNames) (plan : SwapfilePlan) (start : Kernel)
    (t : LinuxSwapfileBackend × MutationSnapshot) (s : Machine) : Prop :=
  Sound names plan start t.2 s ∧ (Idle plan t.2 s ∨ Pending plan t s)

/-- No rollback does what it is for: the file is not known to the snapshot, or is not owned
    any more, or was removed under its swap. -/
inductive Stuck (plan : SwapfilePlan) (t : LinuxSwapfileBackend × MutationSnapshot) (s : Machine) : Prop
  | left : t.2.created = false → t.2.activated = false →
      plan.path.components ∈ s.kernel.files → Stuck plan t s
  | refused : t.2.created = true → t.2.rolledBack = false →
      LinuxSwapfileBackend.isOwned t.1 t.2.path = false → Stuck plan t s
  | unlinked : Unlinked s → Stuck plan t s

/-- The file is in use as a swap and the snapshot does not know it. -/
structure Unnoticed (plan : SwapfilePlan) (t : LinuxSwapfileBackend × MutationSnapshot) (s : Machine) :
    Prop where
  harmed : Harmed s
  path : t.2.path = plan.path
  created : t.2.created = true
  activated : t.2.activated = false
  rolledBack : t.2.rolledBack = false
  allowed : LinuxSwapfileBackend.requirePath plan.path = .ok ()
  owned : plan.path.components ∈ t.1.owned
  active : plan.path.components ∈ s.kernel.active

/-- The path was taken, or something has gone wrong for good. -/
def Spoiled (plan : SwapfilePlan) (start : Kernel) (s : Machine) : Prop :=
  plan.path.components ∈ start.files ∨ Harmed s

/-- One of both holds after every apply and every rollback. -/
def Settled (names : SwapNames) (plan : SwapfilePlan) (start : Kernel)
    (t : LinuxSwapfileBackend × MutationSnapshot) (s : Machine) : Prop :=
  Recoverable names plan start t s ∨ Spoiled plan start s ∧ Stuck plan t s

section Phases

variable {names : SwapNames} {faults : Bool} {plan : SwapfilePlan} {start : Kernel}
  {t : LinuxSwapfileBackend × MutationSnapshot} {s : Machine}

theorem Sound.inactive {snapshot : MutationSnapshot} (h : Sound names plan start snapshot s) :
    plan.path.components ∉ start.active := Kernel.inactive_of_absent h.absent

theorem Sound.move {snapshot snapshot' : MutationSnapshot} {s' : Machine}
    (h : Sound names plan start snapshot s) (hpath : snapshot'.path = snapshot.path)
    (hbaseline : snapshot'.baselineSwaps = snapshot.baselineSwaps) (hclean : Clean start s') :
    Sound names plan start snapshot' s' where
  absent := h.absent
  path := hpath.trans h.path
  baseline := by
    rw [hbaseline]
    exact h.baseline
  clean := hclean

theorem listing_subset {k k' : Kernel} (hactive : k.active ⊆ k'.active)
    (horphaned : k'.orphaned = k.orphaned) : k.listing names ⊆ k'.listing names := by
  simp only [Kernel.listing, horphaned]
  exact Finset.union_subset_union_left (Finset.image_subset_image hactive)

/-- Swaps of others are never lost, so their check passes. -/
theorem Sound.baselineLost {snapshot : MutationSnapshot} (h : Sound names plan start snapshot s) :
    baselineLost snapshot (s.kernel.listing names) = false := by
  have hsubset : snapshot.baselineSwaps ⊆ s.kernel.listing names :=
    h.baseline.trans (listing_subset h.clean.active h.clean.orphaned)
  -- an empty baseline is not checked at all
  rcases snapshot.baselineSwaps.eq_empty_or_nonempty with hempty | ⟨path, hpath⟩
  · simp [Swapfile.baselineLost, hempty]
  · have : ∃ path ∈ snapshot.baselineSwaps, path ∈ s.kernel.listing names :=
      ⟨path, hpath, hsubset hpath⟩
    simp [Swapfile.baselineLost, this]

theorem Pending.move {s' : Machine} (h : Pending plan t s)
    (hfiles : s'.kernel.files = s.kernel.files)
    (hknown : plan.path.components ∈ s'.kernel.active → t.2.activated = true) : Pending plan t s' where
  created := h.created
  rolledBack := h.rolledBack
  allowed := h.allowed
  owned := h.owned
  file := hfiles ▸ h.file
  known := hknown

/-- After a deactivation: the rollback can go on, or a fault has stopped it and it can be tried
    again. -/
structure Deactivated (names : SwapNames) (faults : Bool) (plan : SwapfilePlan) (start : Kernel)
    (t : LinuxSwapfileBackend × MutationSnapshot) (r : Except BackendError Unit) (s : Machine) :
    Prop where
  sound : Sound names plan start t.2 s
  pending : Pending plan t s
  stopped : r = .ok () ∧ plan.path.components ∉ s.kernel.active ∨ (∃ e, r = .error e) ∧ faults = true

/-- A rollback that has undone everything. -/
structure Undone (names : SwapNames) (plan : SwapfilePlan) (start : Kernel)
    (r : Except BackendError TransactionOutcome) (t : LinuxSwapfileBackend × MutationSnapshot)
    (s : Machine) : Prop where
  succeeds : r = .ok rolledBackOutcome
  recoverable : Recoverable names plan start t s
  gone : plan.path.components ∉ s.kernel.files

/-- A rollback that has not done what it is for. -/
def Fruitless (plan : SwapfilePlan) (r : Except BackendError TransactionOutcome) (s : Machine) : Prop :=
  (∃ e, r = .error e) ∨ plan.path.components ∈ s.kernel.files ∨ Unlinked s

/-! ## §2 Rollbacks -/

/-- Deactivate, and check that the swaps of others are still there. -/
theorem deactivate_spec (hsound : Sound names plan start t.2 s) (h : Pending plan t s)
    (hactivated : t.2.activated = true) (hactive : plan.path.components ∈ s.kernel.active) :
    Act.wp (system names faults) (fun _ _ => True)
      (do onBackend (linux.deactivateOwned t.2.path)
          let active ← onBackend linux.activeSwaps
          if baselineLost t.2 active then
            Act.fail (.verification "rollback would lose all baseline swap")
          else
            pure ())
      (fun r t' s' => t' = t ∧ Deactivated names faults plan start t r s') t s := by
  apply Act.wp_bind.2
  apply Act.wp_focus.2
  show Act.wp _ _ (LinuxSwapfileBackend.deactivateOwned t.2.path) _ _ _
  rw [hsound.path]
  apply Act.wp_mono (deactivateOwned_spec hsound.inactive hsound.clean h.allowed h.owned hactive)
  rintro r b₁ s₁ ⟨rfl, hfiles, hclean, ⟨rfl, hinactive⟩ | ⟨⟨e, rfl⟩, hfaults⟩⟩
  · -- the swap is off; the listing is read once more for the swaps of others
    have hsound₁ := hsound.move rfl rfl hclean
    have h₁ : Pending plan t s₁ := h.move hfiles fun _ => hactivated
    apply Act.wp_bind.2
    apply Act.wp_focus.2
    apply Act.wp_mono (activeSwaps_spec hclean)
    rintro r b₂ s₂ ⟨rfl, hk, hclean₂, rfl | ⟨⟨e, rfl⟩, hfaults⟩⟩
    · have h₂ : Pending plan t s₂ := h₁.move (by rw [hk]) fun _ => hactivated
      apply Act.wp_ite.2
      constructor
      · -- `rollback would lose all baseline swap` cannot happen
        intro hlost
        rw [hsound₁.baselineLost] at hlost
        cases hlost
      · intro _
        exact ⟨rfl, hsound.move rfl rfl hclean₂, h₂, .inl ⟨rfl, hk ▸ hinactive⟩⟩
    · exact ⟨rfl, hsound.move rfl rfl hclean₂, h₁.move (by rw [hk]) fun _ => hactivated,
        .inr ⟨⟨e, rfl⟩, hfaults⟩⟩
  · -- `swapoff` failed, before or after its effect: the next rollback looks at the listing again
    exact ⟨rfl, hsound.move rfl rfl hclean, h.move hfiles fun _ => hactivated,
      .inr ⟨⟨e, rfl⟩, hfaults⟩⟩

theorem deactivateListed_spec (hshown : Shown names plan.path.components)
    (hsound : Sound names plan start t.2 s) (h : Pending plan t s) :
    Act.wp (system names faults) (fun _ _ => True) (deactivateListed linux)
      (fun r t' s' => t' = t ∧ Deactivated names faults plan start t r s') t s := by
  apply Act.wp_bind.2
  apply Act.wp_current.2
  apply Act.wp_ite.2
  constructor
  · intro hactivated
    apply Act.wp_bind.2
    apply Act.wp_focus.2
    apply Act.wp_mono (activeSwaps_spec hsound.clean)
    rintro r b₁ s₁ ⟨rfl, hk, hclean, rfl | ⟨⟨e, rfl⟩, hfaults⟩⟩
    · have hsound₁ := hsound.move rfl rfl hclean
      have h₁ : Pending plan t s₁ := h.move (by rw [hk]) fun _ => hactivated
      apply Act.wp_ite.2
      constructor
      · intro hlisted
        -- the listing tells whether the swap is active, because it is shown under its own path
        rw [hsound.path, hshown.mem_listing, ← hk] at hlisted
        exact deactivate_spec hsound₁ h₁ hactivated hlisted
      · -- an earlier rollback got this far and then failed
        intro hunlisted
        rw [hsound.path, hshown.mem_listing, ← hk] at hunlisted
        exact ⟨rfl, hsound₁, h₁, .inl ⟨rfl, hunlisted⟩⟩
    · exact ⟨rfl, hsound.move rfl rfl hclean, h.move (by rw [hk]) fun _ => hactivated,
        .inr ⟨⟨e, rfl⟩, hfaults⟩⟩
  · -- no `swapon` has succeeded, so there is nothing to switch off
    intro hactivated
    exact ⟨rfl, hsound, h, .inl ⟨rfl, fun hactive => hactivated (h.known hactive)⟩⟩

/-- The file goes, or the path is given up with the file left. -/
theorem removeCreated_spec (hsound : Sound names plan start t.2 s) (h : Pending plan t s)
    (hinactive : plan.path.components ∉ s.kernel.active) :
    Act.wp (system names faults) (fun _ _ => True) (removeCreated linux)
      (fun r t' s' => t'.2 = t.2 ∧
        (r = .ok () ∧ Sound names plan start t.2 s' ∧ plan.path.components ∉ s'.kernel.files ∨
          (∃ e, r = .error e) ∧ faults = true ∧ Harmed s' ∧ Stuck plan t' s')) t s := by
  apply Act.wp_bind.2
  apply Act.wp_current.2
  apply Act.wp_ite.2
  constructor
  · intro _
    apply Act.wp_focus.2
    show Act.wp _ _ (LinuxSwapfileBackend.removeOwned t.2.path) _ _ _
    rw [hsound.path]
    apply Act.wp_mono (removeOwned_spec hsound.inactive h.allowed h.owned h.file)
    rintro r b' s' ⟨hgivenUp, ⟨rfl, hgone, hclean, -⟩ | ⟨⟨e, rfl⟩, hfaults, hharmed⟩⟩
    · exact ⟨rfl, .inl ⟨rfl, hsound.move rfl rfl (hclean hsound.clean hinactive), hgone⟩⟩
    · -- the path has left `owned` before the unlink failed
      refine ⟨rfl, .inr ⟨⟨e, rfl⟩, hfaults, hharmed, .refused h.created h.rolledBack ?_⟩⟩
      simpa [LinuxSwapfileBackend.isOwned, hsound.path] using hgivenUp
  · intro hnot
    exact absurd h.created hnot

/-- A rollback of what is known ends it, unless there are faults. -/
theorem rollbackSwapfile_pending (hshown : Shown names plan.path.components)
    (hsound : Sound names plan start t.2 s) (h : Pending plan t s) :
    Act.wp (system names faults) (fun _ _ => True) (rollbackSwapfile linux)
      (fun r t' s' => Settled names plan start t' s' ∧
        (faults = false → Undone names plan start r t' s')) t s := by
  have howned : linux.isOwned t.1 t.2.path = true := by
    rw [hsound.path]
    exact decide_eq_true h.owned
  apply wp_rollback_owned howned h.rolledBack
  -- a fault here leaves the snapshot pending, so the state stays recoverable
  apply Act.wp_bind.2
  apply Act.wp_mono (deactivateListed_spec hshown hsound h)
  rintro r t₁ s₁ ⟨rfl, hsound₁, h₁, ⟨rfl, hinactive⟩ | ⟨⟨e, rfl⟩, hfaults⟩⟩
  · apply Act.wp_bind.2
    apply Act.wp_mono (removeCreated_spec hsound₁ h₁ hinactive)
    rintro r t₂ s₂ ⟨hsame, ⟨rfl, hsound₂, hgone⟩ | ⟨⟨e, rfl⟩, hfaults, hharmed, hstuck⟩⟩
    · -- both parts are undone and the snapshot is marked
      have hrecoverable : Recoverable names plan start
          (t₂.1, { t₂.2 with rollbackPending := false, rolledBack := true }) s₂ := by
        rw [hsame]
        exact ⟨hsound₂.move rfl rfl hsound₂.clean, .inl ⟨hgone, fun hrolled => (by cases hrolled)⟩⟩
      exact ⟨.inl hrecoverable, fun _ => ⟨rfl, hrecoverable, hgone⟩⟩
    · -- the removal failed: the only fault in a rollback that a retry does not survive
      exact ⟨.inr ⟨.inr hharmed, hstuck⟩, fun hnone => absurd (hfaults.symm.trans hnone) (by simp)⟩
  · exact ⟨.inl ⟨hsound₁, .inr h₁⟩, fun hnone => absurd (hfaults.symm.trans hnone) (by simp)⟩

/-- A rollback of a swap that the snapshot does not know of removes its file. -/
theorem rollbackSwapfile_unnoticed (habsent : plan.path.components ∉ start.files)
    (h : Unnoticed plan t s) :
    Act.wp (system names faults) (fun _ _ => True) (rollbackSwapfile linux)
      (fun _ t' s' => Settled names plan start t' s') t s := by
  obtain ⟨hharmed, hpath, hcreated, hactivated, hrolled, hallowed, howned, hactive⟩ := h
  have hisOwned : linux.isOwned t.1 t.2.path = true := by
    rw [hpath]
    exact decide_eq_true howned
  apply Act.wp_of_eq (rollbackSwapfile_inactive hisOwned hcreated hactivated hrolled)
  apply Act.wp_bind.2
  apply Act.wp_focus.2
  show Act.wp _ _ (LinuxSwapfileBackend.removeOwned t.2.path) _ _ _
  rw [hpath]
  apply Act.wp_mono (removeOwned_spec (Kernel.inactive_of_absent habsent) hallowed howned
    (s.kernel.backed hactive))
  rintro r b' s' ⟨hgivenUp, ⟨rfl, -, -, hunlinked⟩ | ⟨⟨e, rfl⟩, -, hharmed'⟩⟩
  · -- the unlink went through under the active swap
    obtain ⟨hharmed', hunlinked⟩ := hunlinked hharmed hactive
    exact .inr ⟨.inr hharmed', .unlinked hunlinked⟩
  · refine .inr ⟨.inr hharmed', .refused hcreated hrolled ?_⟩
    simpa [LinuxSwapfileBackend.isOwned, hpath] using hgivenUp

/-- What cannot be undone stays so. -/
theorem rollbackSwapfile_stuck (hspoiled : Spoiled plan start s) (h : Stuck plan t s) :
    Act.wp (system names faults) (fun _ _ => True) (rollbackSwapfile linux)
      (fun r t' s' => Spoiled plan start s' ∧ Stuck plan t' s' ∧ Fruitless plan r s') t s := by
  cases h with
  | left hcreated hactivated hfile =>
    -- the snapshot has no trace of the file, so the rollback succeeds without a call
    cases hrolled : t.2.rolledBack with
    | true =>
      exact wp_rollback_again hrolled ⟨hspoiled, .left hcreated hactivated hfile, .inr (.inl hfile)⟩
    | false =>
      exact wp_rollback_unused hcreated hactivated hrolled
        ⟨hspoiled, .left hcreated hactivated hfile, .inr (.inl hfile)⟩
  | refused hcreated hrolled hgivenUp =>
    exact wp_rollback_ambiguous hgivenUp hcreated hrolled
      ⟨hspoiled, .refused hcreated hrolled hgivenUp, .inl ⟨_, rfl⟩⟩
  | unlinked hunlinked =>
    -- whatever is done now, the unlink is in the history
    have hkept := Act.keeps_preserved (R := system names faults)
      (L := fun s => Spoiled plan start s ∧ Unlinked s)
      (fun t s op r s' h hr => ⟨h.1.imp id fun hharmed => hharmed.call hr, h.2.call hr⟩)
      (rollbackSwapfile linux)
    apply Act.wp_mono (Act.wp_weaken (hkept t s ⟨hspoiled, hunlinked⟩) fun _ _ _ => trivial)
    rintro r t' s' ⟨hspoiled', hunlinked'⟩
    exact ⟨hspoiled', .unlinked hunlinked', .inr (.inr hunlinked')⟩

theorem rollbackSwapfile_idle (hsound : Sound names plan start t.2 s) (h : Idle plan t.2 s) :
    Act.wp (system names faults) (fun _ _ => True) (rollbackSwapfile linux)
      (fun r t' s' => Undone names plan start r t' s') t s := by
  cases hrolled : t.2.rolledBack with
  | true => exact wp_rollback_again hrolled ⟨rfl, ⟨hsound, .inl h⟩, h.gone⟩
  | false =>
    obtain ⟨hcreated, hactivated⟩ := h.unused hrolled
    apply wp_rollback_unused hcreated hactivated hrolled
    exact ⟨rfl, ⟨hsound.move rfl rfl hsound.clean, .inl ⟨h.gone, fun hrolled => (by cases hrolled)⟩⟩,
      h.gone⟩

/-- Every rollback leaves a settled state, and one without faults decides which kind it is. -/
theorem rollbackSwapfile_spec (hshown : Shown names plan.path.components)
    (h : Settled names plan start t s) :
    Act.wp (system names faults) (fun _ _ => True) (rollbackSwapfile linux)
      (fun r t' s' => Settled names plan start t' s' ∧
        (faults = false → Undone names plan start r t' s' ∨
          Spoiled plan start s' ∧ Fruitless plan r s')) t s := by
  rcases h with ⟨hsound, hidle | hpending⟩ | ⟨hspoiled, hstuck⟩
  · apply Act.wp_mono (rollbackSwapfile_idle hsound hidle)
    intro r t' s' h
    exact ⟨.inl h.recoverable, fun _ => .inl h⟩
  · apply Act.wp_mono (rollbackSwapfile_pending hshown hsound hpending)
    intro r t' s' h
    exact ⟨h.1, fun hnone => .inl (h.2 hnone)⟩
  · apply Act.wp_mono (rollbackSwapfile_stuck hspoiled hstuck)
    intro r t' s' h
    exact ⟨.inr ⟨h.1, h.2.1⟩, fun _ => .inr ⟨h.1, h.2.2⟩⟩

/-! ## §3 Apply -/

/-- The steps of an apply on a path that is absent. -/
theorem createAndActivate_spec (hsound : Sound names plan start t.2 s)
    (hgone : plan.path.components ∉ s.kernel.files) (hcreated : t.2.created = false)
    (hactivated : t.2.activated = false) (hrolled : t.2.rolledBack = false) :
    Act.wp (system names faults) (fun _ _ => True) (createAndActivate linux plan)
      (fun r t' s' => Settled names plan start t' s' ∨ (∃ e, r = .error e) ∧ Unnoticed plan t' s')
      t s := by
  apply Act.wp_bind.2
  apply Act.wp_focus.2
  apply Act.wp_mono (createOwned_spec hsound.inactive hsound.clean hgone)
  rintro r b₁ s₁ (⟨rfl, hallowed, howned, hmade⟩ | ⟨⟨e, rfl⟩, hleft⟩)
  · apply Act.wp_bind.2
    apply Act.wp_assign.2
    apply Act.wp_bind.2
    apply Act.wp_focus.2
    apply Act.wp_mono (activateOwned_spec hsound.inactive hmade.clean hallowed howned hmade.file
      hmade.inactive)
    rintro r b₂ s₂ ⟨rfl, hfiles, ⟨rfl, hclean⟩ | ⟨⟨e, rfl⟩, hclean, hinactive⟩ |
      ⟨⟨e, rfl⟩, hharmed, hactive⟩⟩
    · -- the swap is active and the snapshot knows it
      have hsettled : ∀ s₃, Clean start s₃ → s₃.kernel.files = s₂.kernel.files →
          Settled names plan start
            (b₂, { t.2 with created := true, rollbackPending := true, activated := true }) s₃ := by
        intro s₃ hclean₃ hfiles₃
        refine .inl ⟨hsound.move rfl rfl hclean₃, .inr ⟨rfl, hrolled, hallowed, howned, ?_, fun _ => rfl⟩⟩
        rw [hfiles₃, hfiles]
        exact hmade.file
      apply Act.wp_bind.2
      apply Act.wp_assign.2
      -- the verification can fail, but it leaves a state that can be undone
      apply Act.wp_bind.2
      apply Act.wp_focus.2
      apply Act.wp_mono (activeSwaps_spec hclean)
      rintro r b₃ s₃ ⟨rfl, hk, hclean₃, rfl | ⟨⟨e, rfl⟩, -⟩⟩
      · have h₃ := hsettled s₃ hclean₃ (by rw [hk])
        apply Act.wp_ite.2
        refine ⟨fun _ => .inl h₃, fun _ => ?_⟩
        apply Act.wp_bind.2
        apply Act.wp_current.2
        apply Act.wp_ite.2
        exact ⟨fun _ => .inl h₃, fun _ => .inl h₃⟩
      · exact .inl (hsettled s₃ hclean₃ (by rw [hk]))
    · -- `swapon` failed without effect: the file is owned and inactive
      refine .inl (.inl ⟨hsound.move rfl rfl hclean, .inr ?_⟩)
      refine ⟨rfl, hrolled, hallowed, howned, ?_, fun hactive => absurd hactive hinactive⟩
      rw [hfiles]
      exact hmade.file
    · -- `swapon` failed after its effect, and `activated` stays false
      exact .inr ⟨⟨e, rfl⟩,
        ⟨hharmed, hsound.path, rfl, hactivated, hrolled, hallowed, howned, hactive⟩⟩
  · left
    -- the creation failed; nothing is owned and the snapshot is as it was
    rcases hleft with ⟨hgone', hclean⟩ | ⟨hfile, hharmed⟩
    · exact .inl ⟨hsound.move rfl rfl hclean, .inl ⟨hgone', fun _ => ⟨hcreated, hactivated⟩⟩⟩
    · exact .inr ⟨.inr hharmed, .left hcreated hactivated hfile⟩

/-- The error text that `applySwapfile` notes in the snapshot is not read by a rollback. -/
theorem Settled.lastError {error : Option String} (h : Settled names plan start t s) :
    Settled names plan start (t.1, { t.2 with lastError := error }) s := by
  rcases h with ⟨hsound, hidle | hpending⟩ | ⟨hspoiled, hstuck⟩
  · exact .inl ⟨hsound.move rfl rfl hsound.clean, .inl ⟨hidle.gone, hidle.unused⟩⟩
  · obtain ⟨hcreated, hrolled, hallowed, howned, hfile, hknown⟩ := hpending
    exact .inl ⟨hsound.move rfl rfl hsound.clean,
      .inr ⟨hcreated, hrolled, hallowed, howned, hfile, hknown⟩⟩
  · refine .inr ⟨hspoiled, ?_⟩
    cases hstuck with
    | left hcreated hactivated hfile => exact .left hcreated hactivated hfile
    | refused hcreated hrolled hgivenUp => exact .refused hcreated hrolled hgivenUp
    | unlinked hunlinked => exact .unlinked hunlinked

theorem Unnoticed.lastError {error : Option String} (h : Unnoticed plan t s) :
    Unnoticed plan (t.1, { t.2 with lastError := error }) s := by
  obtain ⟨hharmed, hpath, hcreated, hactivated, hrolled, hallowed, howned, hactive⟩ := h
  exact ⟨hharmed, hpath, hcreated, hactivated, hrolled, hallowed, howned, hactive⟩

/-- After an apply on a path that was absent. -/
theorem applySwapfile_absent (hshown : Shown names plan.path.components)
    (habsent : plan.path.components ∉ start.files) {b : LinuxSwapfileBackend}
    {baseline : Finset PathKey} (hbaseline : baseline ⊆ start.listing names) :
    Act.wp (system names faults) (fun _ _ => True) (applySwapfile linux plan)
      (fun _ t' s' => Settled names plan start t' s') (b, .fresh plan.path baseline) ⟨start, []⟩ := by
  have hclean : Clean start ⟨start, []⟩ := ⟨fun x hx => (by cases hx), subset_rfl, rfl⟩
  have hsound : Sound names plan start (.fresh plan.path baseline) ⟨start, []⟩ :=
    ⟨habsent, rfl, hbaseline, hclean⟩
  have hidle : Settled names plan start (b, .fresh plan.path baseline) ⟨start, []⟩ :=
    .inl ⟨hsound, .inl ⟨habsent, fun _ => ⟨rfl, rfl⟩⟩⟩
  -- a dry run and a plan that is not allowed make no call
  apply Act.wp_ite.2
  refine ⟨fun _ => hidle, fun _ => ?_⟩
  apply Act.wp_ite.2
  refine ⟨fun _ => hidle, fun _ => ?_⟩
  apply Act.wp_bind.2
  apply Act.wp_attempt.2
  apply Act.wp_mono (createAndActivate_spec hsound habsent rfl rfl rfl)
  intro r t₁ s₁ h₁
  cases r with
  | ok out =>
    rcases h₁ with hsettled | ⟨⟨e, he⟩, -⟩
    · exact hsettled
    · cases he
  | error e =>
    apply Act.wp_bind.2
    apply Act.wp_assign.2
    apply Act.wp_bind.2
    apply Act.wp_attempt.2
    -- the rollback inside the apply is the first try
    rcases h₁ with hsettled | ⟨-, hunnoticed⟩
    · apply Act.wp_mono (rollbackSwapfile_spec hshown hsettled.lastError)
      intro r t₂ s₂ h₂
      exact h₂.1
    · exact rollbackSwapfile_unnoticed habsent hunnoticed.lastError

/-- After an apply on a path that was taken. -/
theorem applySwapfile_taken (htaken : plan.path.components ∈ start.files) {b : LinuxSwapfileBackend}
    {baseline : Finset PathKey} :
    Act.wp (system names faults) (fun _ _ => True) (applySwapfile linux plan)
      (fun _ t' s' => Settled names plan start t' s') (b, .fresh plan.path baseline) ⟨start, []⟩ := by
  have hrefused := @applySwapfile_refused names faults plan b baseline ⟨start, []⟩ htaken
  apply Act.wp_mono (Act.wp_weaken hrefused fun _ _ _ => trivial)
  rintro r t' s' ⟨hk, -, hcreated, hactivated⟩
  refine .inr ⟨.inl htaken, .left hcreated hactivated ?_⟩
  rw [hk]
  exact htaken

end Phases

/-! ## §4 Retries -/

/-- An apply and some rollbacks on the same backend, with faults. The snapshot names swaps that
    were active. -/
inductive Retried (names : SwapNames) (plan : SwapfilePlan) (start : Kernel) :
    LinuxSwapfileBackend × MutationSnapshot → Machine → Prop
  | applied {b : LinuxSwapfileBackend} {baseline : Finset PathKey}
      {r : Except BackendError TransactionOutcome} {t : LinuxSwapfileBackend × MutationSnapshot}
      {s : Machine} :
      baseline ⊆ start.listing names →
      Reaches (system names true) (applySwapfile linux plan (b, .fresh plan.path baseline))
        ⟨start, []⟩ (.pure (r, t)) s → Retried names plan start t s
  | rolledBack {r : Except BackendError TransactionOutcome}
      {t t' : LinuxSwapfileBackend × MutationSnapshot} {s s' : Machine} :
      Retried names plan start t s →
      Reaches (system names true) (rollbackSwapfile linux t) s (.pure (r, t')) s' →
      Retried names plan start t' s'

/-- The rollback has succeeded, the file is absent, its swap is inactive, with and without its
    file, and no file of an active swap was removed. -/
structure Recovered (plan : SwapfilePlan) (start : Kernel)
    (r : Except BackendError TransactionOutcome) (s : Machine) : Prop where
  succeeds : ∃ out, r = .ok out
  absent : plan.path.components ∉ s.kernel.files
  inactive : plan.path.components ∉ s.kernel.active
  orphaned : s.kernel.orphaned = start.orphaned
  inOrder : ¬ Unlinked s

section Runs

variable {names : SwapNames} {plan : SwapfilePlan} {start : Kernel}
  {t : LinuxSwapfileBackend × MutationSnapshot} {s : Machine}

theorem Retried.settled (hshown : Shown names plan.path.components)
    (h : Retried names plan start t s) : Settled names plan start t s := by
  induction h with
  | applied hbaseline hr =>
    -- `createOwned` refuses a path that is taken
    by_cases htaken : plan.path.components ∈ start.files
    · exact Prog.wp_reaches (applySwapfile_taken htaken) hr
    · exact Prog.wp_reaches (applySwapfile_absent hshown htaken hbaseline) hr
  | rolledBack _ hr ih => exact (Prog.wp_reaches (rollbackSwapfile_spec hshown ih) hr).1

theorem not_harmed {history : List Answer} {k : Kernel} (h : Harmless history) :
    ¬ Harmed ⟨k, history⟩ := fun ⟨x, hx, hharms⟩ => h x hx hharms

/-- A rollback without faults, after any number with faults, recovers if and only if the path
    was absent and no failure was of the kinds that no retry survives. -/
theorem retry_recovers_iff {t' : LinuxSwapfileBackend × MutationSnapshot} {s' : Machine}
    {r : Except BackendError TransactionOutcome} (hshown : Shown names plan.path.components)
    (h : Retried names plan start t s)
    (hr : Reaches (system names false) (rollbackSwapfile linux t) s (.pure (r, t')) s') :
    Recovered plan start r s' ↔ plan.path.components ∉ start.files ∧ Harmless s'.history := by
  have hspec := Prog.wp_reaches (rollbackSwapfile_spec hshown (h.settled hshown)) hr
  rcases hspec.2 rfl with ⟨rfl, ⟨hsound, -⟩, hgone⟩ | ⟨hspoiled, hstuck⟩
  · -- the last rollback found a state that it could undo
    constructor
    · intro _
      exact ⟨hsound.absent, fun x hx => (hsound.clean.spotless x hx).1⟩
    · intro _
      refine ⟨⟨_, rfl⟩, hgone, Kernel.inactive_of_absent hgone, hsound.clean.orphaned, ?_⟩
      rintro ⟨x, hx, hunlinks⟩
      exact (hsound.clean.spotless x hx).2 hunlinks
  · -- it found a state that no rollback undoes, and something is to blame for it
    constructor
    · rintro ⟨⟨out, hout⟩, hgone, -, -, hinOrder⟩
      rcases hstuck with ⟨e, he⟩ | hfile | hunlinked
      · cases hout.symm.trans he
      · exact absurd hfile hgone
      · exact absurd hunlinked hinOrder
    · rintro ⟨habsent, hharmless⟩
      rcases hspoiled with htaken | hharmed
      · exact absurd htaken habsent
      · exact absurd hharmed (not_harmed hharmless)

end Runs

/-! ## §5 Possible runs -/

/-- A call is answered, and the kernel goes on as `k`. -/
def Machine.answer (s : Machine) (op : SysOp) (r : op.Reply) (k : Kernel) : Machine where
  kernel := k
  history := s.history ++ [⟨s.kernel, ⟨op, r⟩, k⟩]

section Possible

variable {names : SwapNames} {path : PathBuf} {b : LinuxSwapfileBackend} {s : Machine}

theorem createOwned_possible {size : UInt64} (hpath : LinuxSwapfileBackend.requirePath path = .ok ())
    (habsent : path.components ∉ s.kernel.files) :
    Act.may (system names true) (LinuxSwapfileBackend.createOwned path .btrfs size)
      (fun r b' s' => r = .ok () ∧ path.components ∈ b'.owned ∧
        s'.kernel = s.kernel.create path.components) b s := by
  apply Act.may_bind.2
  rw [hpath]
  apply Act.may_ofExcept.2
  apply Act.may_bind.2
  apply Act.may_request.2
  refine ⟨false, s.answer (.exists path) false s.kernel,
    ⟨⟨(decide_eq_false habsent).symm, rfl⟩, rfl⟩, ?_⟩
  apply Act.may_ite.2
  refine ⟨fun h => (by cases h), fun _ => ?_⟩
  apply Act.may_bind.2
  apply Act.may_attempt.2
  refine ⟨.ok (), Machine.answer _ (.btrfs path size) (.ok ()) (s.kernel.create path.components),
    ⟨rfl, rfl⟩, ?_⟩
  exact ⟨rfl, Finset.mem_insert_self _ _, rfl⟩

theorem may_requireOwned {m : LinuxSwapfileBackend.Linux Unit}
    {Q : Except BackendError Unit → LinuxSwapfileBackend → Machine → Prop}
    (hpath : LinuxSwapfileBackend.requirePath path = .ok ()) (howned : path.components ∈ b.owned)
    (h : Act.may (system names true) m Q b s) :
    Act.may (system names true)
      (do Act.ofExcept (LinuxSwapfileBackend.requirePath path)
          LinuxSwapfileBackend.requireOwned path
          m) Q b s := by
  apply Act.may_bind.2
  rw [hpath]
  apply Act.may_ofExcept.2
  apply Act.may_bind.2
  apply Act.may_bind.2
  apply Act.may_current.2
  apply Act.may_ite.2
  refine ⟨fun _ => h, fun hnot => absurd ?_ hnot⟩
  exact decide_eq_true howned

/-- The activation fails without effect. -/
theorem activateOwned_possible {priority : Int32} (refusal : BackendError)
    (hpath : LinuxSwapfileBackend.requirePath path = .ok ()) (howned : path.components ∈ b.owned) :
    Act.may (system names true) (LinuxSwapfileBackend.activateOwned path priority)
      (fun r b' s' => (∃ e, r = .error e) ∧ b' = b ∧ s'.kernel = s.kernel) b s := by
  apply may_requireOwned hpath howned
  refine ⟨.error refusal, s.answer (.swapon path priority) (.error refusal) s.kernel,
    ⟨.inr ⟨rfl, .inl rfl⟩, rfl⟩, ?_⟩
  exact ⟨⟨_, rfl⟩, rfl, rfl⟩

theorem removeOwned_possible {removed : Except String Unit} {k : Kernel}
    (hpath : LinuxSwapfileBackend.requirePath path = .ok ()) (howned : path.components ∈ b.owned)
    (hremoved : s.kernel.Answers names true (.removeFile path) removed k) :
    Act.may (system names true) (LinuxSwapfileBackend.removeOwned path)
      (fun r b' s' => r.toBool = removed.toBool ∧ path.components ∉ b'.owned ∧ s'.kernel = k) b s := by
  apply may_requireOwned hpath howned
  apply Act.may_bind.2
  apply Act.may_assign.2
  refine ⟨removed, s.answer (.removeFile path) removed k, ⟨hremoved, rfl⟩, ?_, Finset.notMem_erase _ _, rfl⟩
  cases removed <;> rfl

end Possible

/-- The path is given up, and the rollback is marked if the removal was answered well. -/
structure GivenUp (plan : SwapfilePlan) (removed : Except String Unit) (k : Kernel)
    (t : LinuxSwapfileBackend × MutationSnapshot) (s : Machine) : Prop where
  path : t.2.path = plan.path
  created : t.2.created = true
  rolledBack : t.2.rolledBack = removed.toBool
  owned : plan.path.components ∉ t.1.owned
  kernel : s.kernel = k

section Unactivated

variable {names : SwapNames} {plan : SwapfilePlan} {start : Kernel}

/-- The rollback of a file that was not activated. -/
theorem rollbackSwapfile_possible {t : LinuxSwapfileBackend × MutationSnapshot} {s : Machine}
    {removed : Except String Unit} {k : Kernel} (hpath : t.2.path = plan.path)
    (hcreated : t.2.created = true) (hactivated : t.2.activated = false)
    (hrolled : t.2.rolledBack = false)
    (hallowed : LinuxSwapfileBackend.requirePath plan.path = .ok ())
    (howned : plan.path.components ∈ t.1.owned)
    (hremoved : s.kernel.Answers names true (.removeFile plan.path) removed k) :
    Act.may (system names true) (rollbackSwapfile linux)
      (fun _ => GivenUp plan removed k) t s := by
  have hisOwned : linux.isOwned t.1 t.2.path = true := by
    rw [hpath]
    exact decide_eq_true howned
  apply Act.may_of_eq (rollbackSwapfile_inactive hisOwned hcreated hactivated hrolled)
  apply Act.may_bind.2
  apply Act.may_focus.2
  show Act.may _ (LinuxSwapfileBackend.removeOwned t.2.path) _ _ _
  rw [hpath]
  apply Act.may_mono (removeOwned_possible hallowed howned hremoved)
  rintro r b' s' ⟨hr, hgivenUp, hk⟩
  cases r with
  | ok _ => exact ⟨hpath, hcreated, hr, hgivenUp, hk⟩
  | error e => exact ⟨hpath, hcreated, hrolled.trans hr, hgivenUp, hk⟩

/-- The activation fails without effect, and the rollback goes on to the removal. Whatever
    its answer, the path is given up. -/
theorem applySwapfile_possible (hrun : plan.dryRun = false) (hallow : plan.allowed = true)
    (hbtrfs : plan.filesystem = .btrfs)
    (hallowed : LinuxSwapfileBackend.requirePath plan.path = .ok ())
    (habsent : plan.path.components ∉ start.files) {removed : Except String Unit} {k : Kernel}
    (hremoved : (start.create plan.path.components).Answers names true (.removeFile plan.path) removed k)
    (b : LinuxSwapfileBackend) (baseline : Finset PathKey) :
    Act.may (system names true) (applySwapfile linux plan)
      (fun _ => GivenUp plan removed k) (b, .fresh plan.path baseline) ⟨start, []⟩ := by
  apply Act.may_ite.2
  refine ⟨fun hdry => absurd (hrun.symm.trans hdry) (by simp), fun _ => ?_⟩
  apply Act.may_ite.2
  refine ⟨fun hnot => absurd hnot (by simp [hallow]), fun _ => ?_⟩
  apply Act.may_bind.2
  apply Act.may_attempt.2
  apply Act.may_bind.2
  apply Act.may_focus.2
  show Act.may _ (LinuxSwapfileBackend.createOwned plan.path plan.filesystem _) _ _ _
  rw [hbtrfs]
  -- the file is created, and `swapon` has an error
  apply Act.may_mono (createOwned_possible hallowed habsent)
  rintro r b₁ s₁ ⟨rfl, howned, hk₁⟩
  apply Act.may_bind.2
  apply Act.may_assign.2
  apply Act.may_bind.2
  apply Act.may_focus.2
  apply Act.may_mono (activateOwned_possible (.operation "helper_timeout" "/usr/bin/swapon") hallowed howned)
  rintro r b₂ s₂ ⟨⟨e, rfl⟩, rfl, hk₂⟩
  apply Act.may_bind.2
  apply Act.may_assign.2
  apply Act.may_bind.2
  apply Act.may_attempt.2
  -- what is left to do is the rollback, with its own answer to the removal
  rw [← hk₁, ← hk₂] at hremoved
  exact rollbackSwapfile_possible rfl rfl rfl rfl hallowed howned hremoved

end Unactivated

/-! ## §6 A recovering and a failing run -/

/-- The name of an active swap without its file. -/
def deletedName (path : PathKey) : PathKey :=
  path.dropLast ++ path.getLast?.toList.map fun
    | .normal name => .normal (name ++ "\\040(deleted)".toList)
    | other => other

/-- The names that the kernel shows. -/
def procSwaps : SwapNames := ⟨id, deletedName⟩

/-- The plan for the swapfile of a production host. -/
def productionPlan : SwapfilePlan where
  path := ⟨"/var/lib/nemor/swap/nemor-tiering.swap"⟩
  filesystem := .btrfs
  proposedSize := 0x100000000
  priority := -2
  allowed := true
  blockedReasons := []
  dryRun := false

/-- No files and no swaps. -/
def bare : Kernel := ⟨∅, ∅, ∅, subset_rfl⟩

theorem requirePath_production :
    LinuxSwapfileBackend.requirePath productionPlan.path = .ok () := by
  unfold LinuxSwapfileBackend.requirePath
  exact if_pos (by decide +kernel)

theorem deletedName_ne (path : PathKey) (name : List Char) (h : name.getLast? ≠ some ')') (q : PathKey) :
    deletedName q ≠ path ++ [.normal name] := by
  intro heq
  rcases q.eq_nil_or_concat with rfl | ⟨init, last, rfl⟩
  · simp [deletedName] at heq
  · simp only [deletedName, List.concat_eq_append, List.dropLast_concat, List.getLast?_concat,
      Option.toList_some, List.map_cons, List.map_nil] at heq
    obtain ⟨-, hlast⟩ := List.append_inj' heq rfl
    cases last with
    | normal other =>
      simp only [List.cons.injEq, and_true, Component.normal.injEq] at hlast
      apply h
      rw [← hlast, List.getLast?_append]
      rfl
    | rootDir => cases hlast
    | curDir => cases hlast
    | parentDir => cases hlast

theorem shown_production : Shown procSwaps productionPlan.path.components where
  backed _ := Iff.rfl
  orphaned := by
    have hpath : productionPlan.path.components =
        [.rootDir, .normal "var".toList, .normal "lib".toList, .normal "nemor".toList,
          .normal "swap".toList] ++ [.normal "nemor-tiering.swap".toList] := by
      decide +kernel
    rw [hpath]
    exact deletedName_ne _ _ (by decide +kernel)

theorem bare_file : productionPlan.path.components ∈
    (bare.create productionPlan.path.components).files := Finset.mem_insert_self _ _

/-- An apply whose activation fails, on a machine without files. -/
theorem retried_production {removed : Except String Unit} {k : Kernel}
    (hremoved : (bare.create productionPlan.path.components).Answers procSwaps true
      (.removeFile productionPlan.path) removed k) :
    ∃ t s, Retried procSwaps productionPlan bare t s ∧ GivenUp productionPlan removed k t s := by
  have hmay := applySwapfile_possible rfl rfl rfl requirePath_production (Finset.notMem_empty _)
    hremoved ⟨∅⟩ ∅
  obtain ⟨⟨r, t⟩, s, hr, h⟩ := Prog.may_reaches hmay
  exact ⟨t, s, .applied (Finset.empty_subset _) hr, h⟩

/-- The activation fails and the file is removed. -/
theorem retry_recovers_sample :
    ∃ t s r t' s', Retried procSwaps productionPlan bare t s ∧
      Reaches (system procSwaps false) (rollbackSwapfile linux t) s (.pure (r, t')) s' ∧
      (Recovered productionPlan bare r s' ↔
        productionPlan.path.components ∉ bare.files ∧ Harmless s'.history) := by
  have hremoved : (bare.create productionPlan.path.components).Answers procSwaps true
      (.removeFile productionPlan.path) (.ok ()) _ := effect_removeFile bare_file
  obtain ⟨t, s, hretried, h⟩ := retried_production hremoved
  have hlast : Reaches (system procSwaps false) (rollbackSwapfile linux t) s
      (.pure (.ok rolledBackOutcome, t)) s := by
    rw [rollbackSwapfile_again h.rolledBack]
    exact .refl _ _
  exact ⟨t, s, _, t, s, hretried, hlast, retry_recovers_iff shown_production hretried hlast⟩

/-- The activation fails without effect and so does the removal. The file stays, and every
    rollback after that is refused. -/
theorem removal_failure_is_final :
    ∃ t s, Retried procSwaps productionPlan bare t s ∧
      productionPlan.path.components ∈ s.kernel.files ∧
      rollbackSwapfile linux t = .pure (.error (.blocked "rollback ownership is ambiguous"), t) ∧
      ∀ r t' s', Reaches (system procSwaps false) (rollbackSwapfile linux t) s (.pure (r, t')) s' →
        ¬ Recovered productionPlan bare r s' := by
  have hremoved : (bare.create productionPlan.path.components).Answers procSwaps true
      (.removeFile productionPlan.path) (.error "Input/output error") _ := .inr ⟨rfl, .inl rfl⟩
  obtain ⟨t, s, hretried, h⟩ := retried_production hremoved
  have hnotOwned : linux.isOwned t.1 t.2.path = false := by
    rw [h.path]
    exact decide_eq_false h.owned
  have hrefused : rollbackSwapfile linux t =
      .pure (.error (.blocked "rollback ownership is ambiguous"), t) :=
    rollbackSwapfile_ambiguous hnotOwned h.created h.rolledBack
  refine ⟨t, s, hretried, ?_, hrefused, fun r' t' s' hlast hrecovered => ?_⟩
  · rw [h.kernel]
    exact bare_file
  · rw [hrefused] at hlast
    cases hlast
    obtain ⟨out, hout⟩ := hrecovered.succeeds
    cases hout

end Nemor.Tiering.Swapfile
