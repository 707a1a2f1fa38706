import Nemor.Tiering.Swapfile.Kernel

/-!
# Swapfiles: swaps of others are untouchable

Whatever fails in an apply and in any number of rollbacks after it, each on any backend, a
swap that was active before the apply stays active. The backend refuses to create what
exists, and only what it has created is ever deactivated or removed.
-/

namespace Nemor.Tiering.Swapfile

open Effectful UnixPath

/-! ## §1 What stays -/

/-- Every swap that was active in the first kernel is active in the second. With it stays its
    file (`Kernel.backed`). -/
structure Protects (k₀ k : Kernel) : Prop where
  active : k₀.active ⊆ k.active
  orphaned : k₀.orphaned ⊆ k.orphaned

theorem Protects.refl (k : Kernel) : Protects k k := ⟨subset_rfl, subset_rfl⟩

/-- The snapshot is about `path`, and the swaps of `k₀` are still there. -/
structure Keeping (k₀ : Kernel) (path : PathBuf) (snapshot : MutationSnapshot) (s : Machine) :
    Prop where
  path : snapshot.path = path
  protects : Protects k₀ s.kernel

section Protection

variable {names : SwapNames} {faults : Bool} {k₀ : Kernel} {path : PathBuf}

/-- A call about a path that was no swap. -/
theorem Protects.call {μ : Type} {t : μ} {s s' : Machine} {op : SysOp} {r : op.Reply}
    (h : Protects k₀ s.kernel) (hr : system names faults t s op r s')
    (hop : ∀ p, op.path? = some p → p.components ∉ k₀.active) : Protects k₀ s'.kernel := by
  -- a call changes at most what it is about
  rcases answers_effect hr.1 with hk | hk
  · rw [hk]
    exact h
  · obtain ⟨horphaned, hactive⟩ := effect_frame hk
    refine ⟨fun q hq => ?_, h.orphaned.trans horphaned⟩
    apply hactive q (h.active hq)
    intro p hp heq
    exact hop p hp (heq ▸ hq)

/-! ## §2 Operations of the backend -/

theorem activeSwaps_protects :
    Act.Keeps (system names faults) (fun _ s => Protects k₀ s.kernel)
      LinuxSwapfileBackend.activeSwaps := by
  apply Act.keeps_perform
  intro t s r s' h hr
  exact h.call hr fun p hp => by cases hp

theorem requireOwned_protects :
    Act.Keeps (system names faults) (fun _ s => Protects k₀ s.kernel)
      (LinuxSwapfileBackend.requireOwned path) := by
  apply Act.keeps_bind Act.keeps_current
  intro b
  apply Act.keeps_ite
  · intro _
    exact Act.keeps_pure ()
  · intro _
    exact Act.keeps_fail _

section Owned

variable (hpath : path.components ∉ k₀.active)

include hpath

theorem request_protects {op : SysOp} (hp : op.path? = some path) :
    Act.Keeps (system names faults) (fun _ s => Protects k₀ s.kernel)
      (Act.request (I := sys) op : LinuxSwapfileBackend.Linux _) := by
  apply Act.keeps_request
  intro t s r s' h hr
  apply h.call hr
  intro p hp'
  cases hp.symm.trans hp'
  exact hpath

theorem helper_protects {op : SysOp} {hop : op.Reply = Except BackendError Unit}
    (hp : op.path? = some path) :
    Act.Keeps (system names faults) (fun _ s => Protects k₀ s.kernel)
      (LinuxSwapfileBackend.helper op hop) := by
  apply Act.keeps_perform
  intro t s r s' h hr
  apply h.call hr
  intro p hp'
  cases hp.symm.trans hp'
  exact hpath

theorem format_protects (size : UInt64) (filesystem : FilesystemKind) :
    Act.Keeps (system names faults) (fun _ s => Protects k₀ s.kernel)
      (LinuxSwapfileBackend.format path size filesystem) := by
  cases filesystem with
  | btrfs => exact Act.keeps_attempt (helper_protects hpath rfl)
  | ext4 =>
    apply Act.keeps_bind (helper_protects hpath rfl)
    intro _
    apply Act.keeps_bind (helper_protects hpath rfl)
    intro _
    exact Act.keeps_attempt (helper_protects hpath rfl)
  | unsupported => exact Act.keeps_fail _

theorem createOwned_protects (filesystem : FilesystemKind) (size : UInt64) :
    Act.Keeps (system names faults) (fun _ s => Protects k₀ s.kernel)
      (LinuxSwapfileBackend.createOwned path filesystem size) := by
  apply Act.keeps_bind (Act.keeps_ofExcept _)
  intro _
  apply Act.keeps_bind (request_protects hpath rfl)
  intro _
  apply Act.keeps_ite
  · intro _
    exact Act.keeps_fail _
  · intro _
    -- whatever is created or cleaned up is at the path
    apply Act.keeps_bind (format_protects hpath size filesystem)
    intro formatted
    cases formatted with
    | ok _ => exact Act.keeps_assign fun _ _ h => h
    | error error =>
      apply Act.keeps_bind (request_protects hpath rfl)
      intro _
      apply Act.keeps_ite
      · intro _
        apply Act.keeps_bind (request_protects hpath rfl)
        intro _
        exact Act.keeps_fail _
      · intro _
        exact Act.keeps_fail _

theorem activateOwned_protects (priority : Int32) :
    Act.Keeps (system names faults) (fun _ s => Protects k₀ s.kernel)
      (LinuxSwapfileBackend.activateOwned path priority) := by
  apply Act.keeps_bind (Act.keeps_ofExcept _)
  intro _
  apply Act.keeps_bind requireOwned_protects
  intro _
  exact helper_protects hpath rfl

theorem deactivateOwned_protects :
    Act.Keeps (system names faults) (fun _ s => Protects k₀ s.kernel)
      (LinuxSwapfileBackend.deactivateOwned path) := by
  apply Act.keeps_bind (Act.keeps_ofExcept _)
  intro _
  apply Act.keeps_bind requireOwned_protects
  intro _
  exact helper_protects hpath rfl

theorem removeOwned_protects :
    Act.Keeps (system names faults) (fun _ s => Protects k₀ s.kernel)
      (LinuxSwapfileBackend.removeOwned path) := by
  apply Act.keeps_bind (Act.keeps_ofExcept _)
  intro _
  apply Act.keeps_bind requireOwned_protects
  intro _
  apply Act.keeps_bind
  · exact Act.keeps_assign fun _ _ h => h
  · intro _
    apply Act.keeps_perform
    intro t s r s' h hr
    apply h.call hr
    intro p hp
    cases hp
    exact hpath

end Owned

/-! ## §3 Functions on a path that was no swap -/

/-- An operation of the backend does not see the snapshot. -/
theorem onBackend_keeping {α : Type} {m : LinuxSwapfileBackend.Linux α}
    (h : Act.Keeps (system names faults) (fun _ s => Protects k₀ s.kernel) m) :
    Act.Keeps (system names faults) (fun t => Keeping k₀ path t.2) (onBackend m) := by
  apply Act.keeps_focus
  intro t s hK
  apply Act.wp_mono (Act.wp_weaken (h t.1 s hK.protects) fun _ _ hp => ⟨hK.path, hp⟩)
  intro _ _ _ hp
  exact ⟨hK.path, hp⟩

theorem editSnapshot_keeping {f : MutationSnapshot → MutationSnapshot}
    (hf : ∀ s, (f s).path = s.path) :
    Act.Keeps (system names faults) (fun t => Keeping k₀ path t.2)
      (editSnapshot f : Procedure sys LinuxSwapfileBackend Unit) :=
  Act.keeps_assign fun t _ h => ⟨(hf t.2).trans h.path, h.protects⟩

section Functions

variable (hpath : path.components ∉ k₀.active)

include hpath

theorem deactivateListed_keeping :
    Act.Keeps (system names faults) (fun t => Keeping k₀ path t.2) (deactivateListed linux) := by
  apply Act.keeps_current_bind
  -- the path of the snapshot is the one the invariant is about
  rintro ⟨b, snapshot⟩ ⟨s, h⟩
  obtain rfl := h.path
  apply Act.keeps_ite
  · intro _
    apply Act.keeps_bind (onBackend_keeping activeSwaps_protects)
    intro active
    apply Act.keeps_ite
    · intro _
      apply Act.keeps_bind (onBackend_keeping (deactivateOwned_protects hpath))
      intro _
      apply Act.keeps_bind (onBackend_keeping activeSwaps_protects)
      intro active
      apply Act.keeps_ite
      · intro _
        exact Act.keeps_fail _
      · intro _
        exact Act.keeps_pure ()
    · intro _
      exact Act.keeps_pure ()
  · intro _
    exact Act.keeps_pure ()

theorem removeCreated_keeping :
    Act.Keeps (system names faults) (fun t => Keeping k₀ path t.2) (removeCreated linux) := by
  apply Act.keeps_current_bind
  rintro ⟨b, snapshot⟩ ⟨s, h⟩
  obtain rfl := h.path
  apply Act.keeps_ite
  · intro _
    exact onBackend_keeping (removeOwned_protects hpath)
  · intro _
    exact Act.keeps_pure ()

theorem rollbackSwapfile_keeping :
    Act.Keeps (system names faults) (fun t => Keeping k₀ path t.2) (rollbackSwapfile linux) := by
  apply Act.keeps_bind Act.keeps_current
  rintro ⟨b, snapshot⟩
  apply Act.keeps_ite
  · intro _
    exact Act.keeps_pure _
  · intro _
    apply Act.keeps_ite
    · intro _
      exact Act.keeps_fail _
    · intro _
      -- deactivation and removal name the path of the snapshot only
      apply Act.keeps_bind (deactivateListed_keeping hpath)
      intro _
      apply Act.keeps_bind (removeCreated_keeping hpath)
      intro _
      apply Act.keeps_bind
      · exact editSnapshot_keeping fun _ => rfl
      intro _
      exact Act.keeps_pure _

theorem createAndActivate_keeping {plan : SwapfilePlan} (hplan : plan.path = path) :
    Act.Keeps (system names faults) (fun t => Keeping k₀ path t.2) (createAndActivate linux plan) := by
  subst hplan
  apply Act.keeps_bind (onBackend_keeping (createOwned_protects hpath _ _))
  intro _
  apply Act.keeps_bind
  · exact editSnapshot_keeping fun _ => rfl
  intro _
  apply Act.keeps_bind (onBackend_keeping (activateOwned_protects hpath _))
  intro _
  apply Act.keeps_bind
  · exact editSnapshot_keeping fun _ => rfl
  intro _
  -- the verification only reads
  apply Act.keeps_bind (onBackend_keeping activeSwaps_protects)
  intro active
  apply Act.keeps_ite
  · intro _
    exact Act.keeps_fail _
  · intro _
    apply Act.keeps_bind Act.keeps_current
    rintro ⟨b, snapshot⟩
    apply Act.keeps_ite
    · intro _
      exact Act.keeps_fail _
    · intro _
      exact Act.keeps_pure _

theorem applySwapfile_keeping {plan : SwapfilePlan} (hplan : plan.path = path) :
    Act.Keeps (system names faults) (fun t => Keeping k₀ path t.2) (applySwapfile linux plan) := by
  apply Act.keeps_ite
  · intro _
    exact Act.keeps_pure _
  · intro _
    apply Act.keeps_ite
    · intro _
      exact Act.keeps_fail _
    · intro _
      apply Act.keeps_bind (Act.keeps_attempt (createAndActivate_keeping hpath hplan))
      intro result
      cases result with
      | ok outcome => exact Act.keeps_pure outcome
      | error error =>
        apply Act.keeps_bind
        · exact editSnapshot_keeping fun _ => rfl
        intro _
        -- the result of this rollback is dropped
        apply Act.keeps_bind (Act.keeps_attempt (rollbackSwapfile_keeping hpath))
        intro _
        exact Act.keeps_fail _

end Functions

/-! ## §4 A path that is taken -/

/-- The creation is refused, with no call but the question for the file. -/
theorem createOwned_refuses {J : LinuxSwapfileBackend → Machine → Prop} {b : LinuxSwapfileBackend}
    {s : Machine} {filesystem : FilesystemKind} {size : UInt64} (hJ : J b s)
    (h : path.components ∈ s.kernel.files) :
    Act.wp (system names faults) J (LinuxSwapfileBackend.createOwned path filesystem size)
      (fun r _ s' => (∃ e, r = .error e) ∧ s'.kernel = s.kernel ∧
        ∀ x ∈ s'.history, x ∈ s.history ∨ ∃ reply, x.event = ⟨.exists path, reply⟩) b s := by
  apply Act.wp_bind.2
  apply Act.wp_ofExcept.2
  cases LinuxSwapfileBackend.requirePath path with
  | error e => exact ⟨⟨e, rfl⟩, rfl, fun x hx => .inl hx⟩
  | ok _ =>
    apply Act.wp_bind.2
    apply Act.wp_request.2
    refine ⟨hJ, fun r s' hr => ?_⟩
    have hhistory := hr.2
    obtain ⟨rfl, hk⟩ := hr.1
    -- `refusing to adopt an existing swapfile`
    apply Act.wp_ite.2
    constructor
    · intro _
      refine ⟨⟨_, rfl⟩, hk, fun x hx => ?_⟩
      rw [hhistory, List.mem_append, List.mem_singleton] at hx
      rcases hx with hx | rfl
      · exact .inl hx
      · exact .inr ⟨_, rfl⟩
    · intro habsent
      exact absurd (by simp [h]) habsent

/-- On a path that exists an apply with a fresh snapshot changes nothing, and leaves nothing
    to undo. -/
theorem applySwapfile_refused {plan : SwapfilePlan} {b : LinuxSwapfileBackend}
    {baseline : Finset PathKey} {s : Machine} (h : plan.path.components ∈ s.kernel.files) :
    Act.wp (system names faults) (fun _ s' => s'.kernel = s.kernel) (applySwapfile linux plan)
      (fun _ t s' => s'.kernel = s.kernel ∧ t.2.path = plan.path ∧ t.2.created = false ∧
        t.2.activated = false) (b, .fresh plan.path baseline) s := by
  apply Act.wp_ite.2
  refine ⟨fun _ => ⟨rfl, rfl, rfl, rfl⟩, fun _ => ?_⟩
  apply Act.wp_ite.2
  refine ⟨fun _ => ⟨rfl, rfl, rfl, rfl⟩, fun _ => ?_⟩
  apply Act.wp_bind.2
  apply Act.wp_attempt.2
  apply Act.wp_bind.2
  apply Act.wp_focus.2
  apply Act.wp_mono (createOwned_refuses rfl h)
  rintro r b s' ⟨⟨e, rfl⟩, hk, -⟩
  -- the rollback finds a snapshot without a trace of a creation
  apply Act.wp_bind.2
  apply Act.wp_assign.2
  apply Act.wp_bind.2
  apply Act.wp_attempt.2
  apply wp_rollback_unused rfl rfl rfl
  exact ⟨hk, rfl, rfl, rfl⟩

end Protection

/-! ## §5 Sessions -/

/-- The snapshot after an apply and some rollbacks. A rollback may run on a backend of its own,
    as after a restart. -/
inductive Session (names : SwapNames) (plan : SwapfilePlan) (start : Kernel) :
    MutationSnapshot → Machine → Prop
  | applied {b : LinuxSwapfileBackend} {baseline : Finset PathKey}
      {r : Except BackendError TransactionOutcome} {t : LinuxSwapfileBackend × MutationSnapshot}
      {s : Machine} :
      Reaches (system names true) (applySwapfile linux plan (b, .fresh plan.path baseline))
        ⟨start, []⟩ (.pure (r, t)) s → Session names plan start t.2 s
  | rolledBack {snapshot : MutationSnapshot} {b : LinuxSwapfileBackend}
      {r : Except BackendError TransactionOutcome} {t : LinuxSwapfileBackend × MutationSnapshot}
      {s s' : Machine} :
      Session names plan start snapshot s →
      Reaches (system names true) (rollbackSwapfile linux (b, snapshot)) s (.pure (r, t)) s' →
      Session names plan start t.2 s'

section Sessions

variable {names : SwapNames} {plan : SwapfilePlan} {start : Kernel}

/-- The snapshot claims the path only if it was no swap. -/
structure Claimed (plan : SwapfilePlan) (start : Kernel) (snapshot : MutationSnapshot)
    (s : Machine) : Prop extends Keeping start plan.path snapshot s where
  unclaimed : plan.path.components ∈ start.active →
    snapshot.created = false ∧ snapshot.activated = false

theorem applySwapfile_claimed (b : LinuxSwapfileBackend) (baseline : Finset PathKey) :
    Act.wp (system names true) (fun _ s => Protects start s.kernel) (applySwapfile linux plan)
      (fun _ t s => Claimed plan start t.2 s) (b, .fresh plan.path baseline) ⟨start, []⟩ := by
  -- a path that is a swap has its file, so the creation is refused
  by_cases hpath : plan.path.components ∈ start.active
  · have hrefused := @applySwapfile_refused names true plan b baseline ⟨start, []⟩
      (start.backed hpath)
    apply Act.wp_mono (Act.wp_weaken hrefused fun _ _ hk => hk ▸ Protects.refl start)
    rintro r t s ⟨hk, hsnapshot, hcreated, hactivated⟩
    exact ⟨⟨hsnapshot, hk ▸ Protects.refl start⟩, fun _ => ⟨hcreated, hactivated⟩⟩
  · have hkeeping : Act.Keeps (system names true) (fun t => Keeping start plan.path t.2)
        (applySwapfile linux plan) := applySwapfile_keeping hpath rfl
    have hrun := hkeeping (b, .fresh plan.path baseline) ⟨start, []⟩ ⟨rfl, Protects.refl start⟩
    apply Act.wp_mono (Act.wp_weaken hrun fun _ _ hK => hK.protects)
    intro r t s hK
    exact ⟨hK, fun hmem => absurd hmem hpath⟩

theorem rollbackSwapfile_claimed {b : LinuxSwapfileBackend} {snapshot : MutationSnapshot}
    {s : Machine} (h : Claimed plan start snapshot s) :
    Act.wp (system names true) (fun _ s => Protects start s.kernel) (rollbackSwapfile linux)
      (fun _ t s => Claimed plan start t.2 s) (b, snapshot) s := by
  by_cases hpath : plan.path.components ∈ start.active
  · -- there is nothing to undo, so no call is made
    obtain ⟨hcreated, hactivated⟩ := h.unclaimed hpath
    cases hrolled : snapshot.rolledBack with
    | true =>
      exact wp_rollback_again hrolled h
    | false =>
      apply wp_rollback_unused hcreated hactivated hrolled
      exact ⟨⟨h.path, h.protects⟩, fun _ => ⟨hcreated, hactivated⟩⟩
  · have hkeeping : Act.Keeps (system names true) (fun t => Keeping start plan.path t.2)
        (rollbackSwapfile linux) := rollbackSwapfile_keeping hpath
    apply Act.wp_mono (Act.wp_weaken (hkeeping (b, snapshot) s h.toKeeping) fun _ _ hK => hK.protects)
    intro r t s hK
    exact ⟨hK, fun hmem => absurd hmem hpath⟩

theorem Session.claimed {snapshot : MutationSnapshot} {s : Machine}
    (h : Session names plan start snapshot s) : Claimed plan start snapshot s := by
  induction h with
  | applied hr => exact Prog.wp_reaches (applySwapfile_claimed _ _) hr
  | rolledBack _ hr ih => exact Prog.wp_reaches (rollbackSwapfile_claimed ih) hr

end Sessions

/-- From the start of an apply on, at every point of it and of every rollback after it, the swaps
    that were active before are active; and after a rollback that has returned `Ok` a further
    one, on any backend, makes no call and changes nothing. -/
def BaselineUntouched (names : SwapNames) (plan : SwapfilePlan) (start : Kernel) : Prop :=
  (∀ b baseline q s,
    Reaches (system names true) (applySwapfile linux plan (b, .fresh plan.path baseline))
      ⟨start, []⟩ q s → Protects start s.kernel) ∧
  ∀ snapshot s, Session names plan start snapshot s → ∀ b q s',
    Reaches (system names true) (rollbackSwapfile linux (b, snapshot)) s q s' →
      Protects start s'.kernel ∧
        ∀ out t, q = .pure (.ok out, t) → ∀ b',
          rollbackSwapfile linux (b', t.2) = .pure (.ok rolledBackOutcome, (b', t.2))

theorem baseline_untouched (names : SwapNames) (plan : SwapfilePlan) (start : Kernel) :
    BaselineUntouched names plan start := by
  constructor
  · intro b baseline q s hr
    apply Act.wp_always (K := fun s => Protects start s.kernel) _ hr
    apply Act.wp_mono (applySwapfile_claimed b baseline)
    intro _ _ _ h
    exact h.protects
  · intro snapshot s h b q s' hr
    constructor
    · apply Act.wp_always (K := fun s => Protects start s.kernel) _ hr
      apply Act.wp_mono (rollbackSwapfile_claimed h.claimed)
      intro _ _ _ h
      exact h.protects
    · -- the rollback has marked the snapshot, and a marked one makes no call
      rintro out t rfl b'
      apply rollbackSwapfile_again
      exact Prog.wp_reaches rollbackSwapfile_marks hr out rfl

end Nemor.Tiering.Swapfile
