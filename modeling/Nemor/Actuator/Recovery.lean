import Nemor.Actuator.Effect

/-!
# Recovery after a run

A run is any sequence of successful applications, mixed with processes that exit and
processes that start. Recovery then replays the pending snapshots oldest first.

Oldest first is the wrong order for snapshots that overlap: the second snapshot of a process
names a group that the first one's rollback has removed, and the second snapshot of a group
restores the limits that the first application wrote. `recovery_restores` shows that apart
from such overlaps, and from originals that a snapshot cannot express, recovery brings
everything back.
-/

namespace Nemor.Actuator

open Effectful

/-! ## §1 Runs -/

/-- A process over its whole life: a PID alone may be reused. -/
abbrev ProcessKey := UInt32 × UInt64

/-- The world, and where each process was before it was moved first. -/
structure RunState where
  world : World
  homes : ProcessKey → Option String

/-- Before the first step. No process has been moved. -/
def RunState.start (w : World) : RunState := { world := w, homes := fun _ => none }

/-- A step of a run: the daemon applies a plan, or the host changes its processes. -/
inductive Step where
  | apply (sessionId timestampNs : Int64) (plan : CgroupPlan)
  | exit (pid : UInt32)
  | spawn (pid : UInt32) (q : Proc)

namespace RunState

/-- Note where the process of `plan` is, unless that is known from before. -/
def noteHome (s : RunState) (plan : CgroupPlan) : ProcessKey → Option String :=
  match s.homes (plan.pid, plan.startTimeTicks) with
  | some _ => s.homes
  | none => Function.update s.homes (plan.pid, plan.startTimeTicks)
      ((s.world.kernel.procs.lookup plan.pid).map Proc.group)

/-- One step of a run. An application must succeed; a new process starts in a group that
    exists, under a free PID, and is not one that was moved before. -/
def next (s : RunState) : Step → Option RunState
  | .apply sessionId timestampNs plan =>
    let out := (applyOne sessionId timestampNs plan ()).exec World.handle s.world
    match out.1.1 with
    | .error _ => none
    | .ok none => some { s with world := out.2 }
    | .ok (some _) => some { world := out.2, homes := s.noteHome plan }
  | .exit pid =>
    some { s with world := { s.world with kernel := s.world.kernel.exit pid } }
  | .spawn pid q =>
    if h : q.group = "" ∨ q.group ∈ s.world.kernel.groups then
      if pid ∉ s.world.kernel.procs ∧ s.homes (pid, q.startTimeTicks) = none then
        some { s with world := { s.world with kernel := s.world.kernel.place pid q h } }
      else none
    else none

end RunState

/-- `s` is reached from `s₀` by steps that each meet `P` in the state before them. -/
inductive Runs (P : RunState → Step → Prop) (s₀ : RunState) : RunState → Prop
  | refl : Runs P s₀ s₀
  | snoc {s s' : RunState} {step : Step} :
      Runs P s₀ s → P s step → s.next step = some s' → Runs P s₀ s'

/-! ## §2 What recovery is to achieve -/

/-- Everything is as it was before the run: `k₀` is the hierarchy at its start. -/
structure Restored (k₀ : Kernel) (homes : ProcessKey → Option String) (w : World) : Prop where
  home : ∀ pid q home, w.kernel.procs.lookup pid = some q →
    homes (pid, q.startTimeTicks) = some home → q.group = home
  limits : ∀ key g, k₀.groups.lookup key = some g → w.kernel.groups.lookup key = some g
  created : ∀ key ∈ w.kernel.groups, key ∉ k₀.groups → w.kernel.residents key ≠ ∅
  pending : w.store.pending = []

/-- An application that recovery can take back whatever else is pending. -/
structure Separate (k₀ : Kernel) (s : RunState) (plan : CgroupPlan) : Prop where
  /-- The process has not been moved before. -/
  first : s.homes (plan.pid, plan.startTimeTicks) = none
  /-- It is in a group from before the run, other than the root. -/
  settled : ∀ q, s.world.kernel.procs.lookup plan.pid = some q → q.group ∈ k₀.groups
  /-- A target from before the run still has its limits, and those about to be written are
      numbers. -/
  target : ∀ g₀, k₀.groups.lookup plan.targetGroup = some g₀ →
    s.world.kernel.groups.lookup plan.targetGroup = some g₀ ∧ g₀.Restorable plan.properties

/-- The condition on a step; dry runs, exits and starts are free. -/
def SeparateStep (k₀ : Kernel) (s : RunState) : Step → Prop
  | .apply _ _ plan => plan.dryRun = true ∨ Separate k₀ s plan
  | _ => True

/-- The condition on the state before recovery: every target from before the run has a
    process in it that the run has not moved. -/
def Anchored (k₀ : Kernel) (homes : ProcessKey → Option String) (rest : List MutationSnapshot)
    (w : World) : Prop :=
  ∀ s ∈ rest, s.targetGroup ∈ k₀.groups → ∃ pid q, w.kernel.procs.lookup pid = some q ∧
    q.group = s.targetGroup ∧ homes (pid, q.startTimeTicks) = none

/-! ## §3 The invariant -/

/-- The process that a snapshot is about. -/
def MutationSnapshot.key (s : MutationSnapshot) : ProcessKey := (s.pid, s.startTimeTicks)

/-- The snapshots `rest` are pending, and undoing them gives back the start. -/
structure Outstanding (k₀ : Kernel) (homes : ProcessKey → Option String)
    (rest : List MutationSnapshot) (w : World) : Prop where
  pending : w.store.pending = rest
  managed : ∀ s ∈ rest, isManagedName s.targetGroup = true
  origin : ∀ s ∈ rest, ∃ home, homes s.key = some home ∧ home ∈ k₀.groups ∧
    s.originalGroup = "/" ++ home
  distinct : rest.Pairwise fun a b => a.key ≠ b.key
  moved : ∀ s ∈ rest, ∀ q, w.kernel.procs.lookup s.pid = some q →
    q.startTimeTicks = s.startTimeTicks → q.group = s.targetGroup
  home : ∀ pid q home, w.kernel.procs.lookup pid = some q →
    homes (pid, q.startTimeTicks) = some home →
    (∀ s ∈ rest, s.key ≠ (pid, q.startTimeTicks)) → q.group = home
  limits : ∀ key g₀, k₀.groups.lookup key = some g₀ → ∃ g, w.kernel.groups.lookup key = some g ∧
    g.write g₀.properties = g₀ ∧ (g = g₀ ∨ ∃ s ∈ rest, s.targetGroup = key)
  properties : ∀ s ∈ rest, ∀ g₀, k₀.groups.lookup s.targetGroup = some g₀ →
    s.originalProperties = g₀.properties
  ours : ∀ key ∈ w.kernel.groups, key ∉ k₀.groups → isManagedName key = true
  created : ∀ key ∈ w.kernel.groups, key ∉ k₀.groups →
    w.kernel.residents key ≠ ∅ ∨ ∃ s ∈ rest, s.targetGroup = key

/-- With nothing left to undo, everything is restored. -/
theorem Outstanding.restored {k₀ : Kernel} {homes : ProcessKey → Option String} {w : World}
    (h : Outstanding k₀ homes [] w) : Restored k₀ homes w where
  home pid q home hq hhome := h.home pid q home hq hhome (by simp)
  limits key g₀ hg₀ := by
    obtain ⟨g, hg, -, rfl | ⟨s, hs, -⟩⟩ := h.limits key g₀ hg₀
    · exact hg
    · cases hs
  created key hkey hnew := by
    rcases h.created key hkey hnew with hres | ⟨s, hs, -⟩
    · exact hres
    · cases hs
  pending := h.pending

/-! ## §4 One rollback -/

section Rollback

variable {k₀ : Kernel} {homes : ProcessKey → Option String} {rest : List MutationSnapshot}
  {s : MutationSnapshot} {home : String} {w w' : World}

theorem rehome_of_key_ne {pid : UInt32} {q : Proc} (h : s.key ≠ (pid, q.startTimeTicks)) :
    rehome s home pid q = q := by
  apply rehome_other
  rintro ⟨rfl, hticks⟩
  exact h (by rw [hticks]; rfl)

theorem Undone.process_of_key_ne (h : Undone s home w w') {pid : UInt32} {q : Proc}
    (hq : w.kernel.procs.lookup pid = some q) (hkey : s.key ≠ (pid, q.startTimeTicks)) :
    w'.kernel.procs.lookup pid = some q := by
  rw [h.procs, hq, Option.map_some, rehome_of_key_ne hkey]

/-- Where a process of the new state comes from. -/
theorem Undone.process_before (h : Undone s home w w') {pid : UInt32} {q' : Proc}
    (hq' : w'.kernel.procs.lookup pid = some q') :
    ∃ q, w.kernel.procs.lookup pid = some q ∧ q.startTimeTicks = q'.startTimeTicks ∧
      q' = rehome s home pid q := by
  rw [h.procs] at hq'
  obtain ⟨q, hq, rfl⟩ := Option.map_eq_some_iff.1 hq'
  exact ⟨q, hq, rehome_startTimeTicks.symm, rfl⟩

/-- A process that the run has not moved is not the one of a pending snapshot. -/
theorem Outstanding.key_ne (h : Outstanding k₀ homes rest w) (hs : s ∈ rest) {key : ProcessKey}
    (hkey : homes key = none) : s.key ≠ key := by
  obtain ⟨home, hhome, -⟩ := h.origin s hs
  rintro rfl
  rw [hkey] at hhome
  cases hhome

/-- No group lies below a group that the run has created. -/
theorem Outstanding.childless (h : Outstanding k₀ homes rest w) {key : String}
    (hnew : key ∉ k₀.groups) {child : String} (hchild : child ∈ w.kernel.groups) :
    isBelow child key = false := by
  apply Bool.eq_false_iff.2
  intro hbelow
  by_cases hold : child ∈ k₀.groups
  · exact hnew (k₀.parents child hold key hbelow)
  · rw [not_isBelow_of_isManagedName (h.ours child hchild hold)] at hbelow
    cases hbelow

/-- The anchor of a target stays where it is. -/
theorem Anchored.occupied (h : Outstanding k₀ homes (s :: rest) w)
    (ha : Anchored k₀ homes (s :: rest) w) (hundone : Undone s home w w')
    (hold : s.targetGroup ∈ k₀.groups) : w'.kernel.residents s.targetGroup ≠ ∅ := by
  obtain ⟨pid, q, hq, hgroup, hfree⟩ := ha s (List.mem_cons_self ..) hold
  have hq' := hundone.process_of_key_ne hq (h.key_ne (List.mem_cons_self ..) hfree)
  exact Finset.ne_empty_of_mem (Kernel.mem_residents.2 ⟨q, hq', hgroup⟩)

theorem Anchored.undone (h : Outstanding k₀ homes (s :: rest) w)
    (ha : Anchored k₀ homes (s :: rest) w) (hundone : Undone s home w w') :
    Anchored k₀ homes rest w' := by
  intro s' hs' hold
  obtain ⟨pid, q, hq, hgroup, hfree⟩ := ha s' (List.mem_cons_of_mem _ hs') hold
  exact ⟨pid, q, hundone.process_of_key_ne hq (h.key_ne (List.mem_cons_self ..) hfree), hgroup, hfree⟩

theorem Outstanding.pending_undone (h : Outstanding k₀ homes (s :: rest) w)
    (hundone : Undone s home w w') : w'.store.pending = rest := by
  rw [hundone.pending, h.pending]
  have hordered : (s :: rest).Pairwise fun a b => a.id < b.id := by
    rw [← h.pending]
    exact w.store.ordered.filter _
  rw [List.filter_cons_of_neg (by simp), List.filter_eq_self]
  intro row hrow
  have := (List.pairwise_cons.1 hordered).1 row hrow
  simp only [ne_eq, decide_not, Bool.not_eq_true', decide_eq_false_iff_not]
  omega

theorem Outstanding.limits_undone (h : Outstanding k₀ homes (s :: rest) w)
    (ha : Anchored k₀ homes (s :: rest) w) (hundone : Undone s home w w') {key : String} {g₀ : Group}
    (hg₀ : k₀.groups.lookup key = some g₀) :
    ∃ g, w'.kernel.groups.lookup key = some g ∧ g.write g₀.properties = g₀ ∧
      (g = g₀ ∨ ∃ s' ∈ rest, s'.targetGroup = key) := by
  obtain ⟨g, hg, hwrite, hreason⟩ := h.limits key g₀ hg₀
  by_cases hkey : key = s.targetGroup
  · -- the rollback writes the limits from before the run
    subst hkey
    have hoccupied := ha.occupied h hundone (Finmap.mem_of_lookup_eq_some hg₀)
    have horiginal := h.properties s (List.mem_cons_self ..) g₀ hg₀
    refine ⟨g₀, ?_, g₀.write_properties, .inl rfl⟩
    rw [hundone.occupied hoccupied, hg, horiginal, Option.map_some, hwrite]
  · refine ⟨g, by rw [hundone.others key hkey, hg], hwrite, hreason.imp_right ?_⟩
    rintro ⟨s', hs', rfl⟩
    rcases List.mem_cons.1 hs' with rfl | hs'
    · exact absurd rfl hkey
    · exact ⟨s', hs', rfl⟩

theorem Outstanding.mem_undone (hundone : Undone s home w w') {key : String}
    (hmem : key ∈ w'.kernel.groups) (hkey : key ≠ s.targetGroup) : key ∈ w.kernel.groups := by
  obtain ⟨g, hg⟩ := Finmap.mem_iff.1 hmem
  rw [hundone.others key hkey] at hg
  exact Finmap.mem_of_lookup_eq_some hg

theorem Outstanding.created_undone (h : Outstanding k₀ homes (s :: rest) w)
    (hundone : Undone s home w w') {key : String} (hmem : key ∈ w'.kernel.groups)
    (hnew : key ∉ k₀.groups) :
    w'.kernel.residents key ≠ ∅ ∨ ∃ s' ∈ rest, s'.targetGroup = key := by
  by_cases hkey : key = s.targetGroup
  · -- an empty target would be gone
    subst hkey
    exact .inl fun hempty => hundone.vacated hempty hmem
  · rcases h.created key (mem_undone hundone hmem hkey) hnew with hres | ⟨s', hs', htarget⟩
    · obtain ⟨pid, hpid⟩ := Finset.nonempty_iff_ne_empty.2 hres
      obtain ⟨q, hq, hgroup⟩ := Kernel.mem_residents.1 hpid
      -- the process that moves is in the target, not here
      have hother : s.key ≠ (pid, q.startTimeTicks) := by
        intro heq
        obtain ⟨rfl, hticks⟩ := Prod.mk.inj heq
        have := h.moved s (List.mem_cons_self ..) q hq hticks.symm
        exact hkey (hgroup.symm.trans this)
      have hq' := hundone.process_of_key_ne hq hother
      exact .inl (Finset.ne_empty_of_mem (Kernel.mem_residents.2 ⟨q, hq', hgroup⟩))
    · rcases List.mem_cons.1 hs' with rfl | hs'
      · exact absurd htarget.symm hkey
      · exact .inr ⟨s', hs', htarget⟩

/-- **One rollback of the recovery.** -/
theorem Outstanding.undone (h : Outstanding k₀ homes (s :: rest) w)
    (ha : Anchored k₀ homes (s :: rest) w) (hhome : homes s.key = some home)
    (hundone : Undone s home w w') : Outstanding k₀ homes rest w' where
  pending := h.pending_undone hundone
  managed s' hs' := h.managed s' (List.mem_cons_of_mem _ hs')
  origin s' hs' := h.origin s' (List.mem_cons_of_mem _ hs')
  distinct := (List.pairwise_cons.1 h.distinct).2
  moved s' hs' q' hq' hticks := by
    obtain ⟨q, hq, hstart, rfl⟩ := hundone.process_before hq'
    -- the process of a later snapshot is not the one that goes home
    have hother : s.key ≠ (s'.pid, q.startTimeTicks) := by
      rw [hstart, hticks]
      exact (List.pairwise_cons.1 h.distinct).1 s' hs'
    rw [rehome_of_key_ne hother]
    exact h.moved s' (List.mem_cons_of_mem _ hs') q hq (hstart.trans hticks)
  home pid q' home' hq' hhome' hfree := by
    obtain ⟨q, hq, hstart, rfl⟩ := hundone.process_before hq'
    by_cases hkey : s.key = (pid, q.startTimeTicks)
    · -- this process has just been sent home
      obtain ⟨hpid, hticks⟩ := Prod.mk.inj hkey
      rw [rehome_same hpid.symm hticks.symm]
      rw [← hstart, ← hkey, hhome] at hhome'
      exact Option.some.inj hhome'
    · rw [rehome_of_key_ne hkey]
      rw [← hstart] at hhome' hfree
      apply h.home pid q home' hq hhome'
      intro s' hs'
      rcases List.mem_cons.1 hs' with rfl | hs'
      · exact hkey
      · exact hfree s' hs'
  limits key g₀ hg₀ := h.limits_undone ha hundone hg₀
  properties s' hs' := h.properties s' (List.mem_cons_of_mem _ hs')
  ours key hmem hnew := by
    by_cases hkey : key = s.targetGroup
    · rw [hkey]
      exact h.managed s (List.mem_cons_self ..)
    · exact h.ours key (mem_undone hundone hmem hkey) hnew
  created key hmem hnew := h.created_undone hundone hmem hnew

theorem Outstanding.undo_ends (h : Outstanding k₀ homes (s :: rest) w)
    (ha : Anchored k₀ homes (s :: rest) w) {t : MutationSnapshot} :
    Ends (undo s) (fun _ _ w' => Outstanding k₀ homes rest w' ∧ Anchored k₀ homes rest w') t w := by
  have hmem : s ∈ s :: rest := List.mem_cons_self ..
  obtain ⟨home, hhome, hold, horigin⟩ := h.origin s hmem
  have hfresh : s.rolledBack = false := by
    have hpending : s ∈ w.store.pending := by
      rw [h.pending]
      exact hmem
    have := (List.mem_filter.1 hpending).2
    unfold MutationSnapshot.isPending at this
    simp_all
  have hpresent : HomePresent s home w := by
    obtain ⟨g₀, hg₀⟩ := Finmap.mem_iff.1 hold
    obtain ⟨g, hg, -⟩ := h.limits home g₀ hg₀
    exact ⟨horigin, Finmap.mem_of_lookup_eq_some hg⟩
  refine Act.wp_mono (undo_effect hfresh (h.managed s hmem) hpresent ?_) ?_
  · intro hempty child hchild
    by_cases htarget : s.targetGroup ∈ k₀.groups
    · -- an anchored target does not run empty
      obtain ⟨pid, q, hq, hgroup, hfree⟩ := ha s hmem htarget
      refine absurd ?_ (hempty pid q hq)
      rw [rehome_of_key_ne (h.key_ne hmem hfree), hgroup]
    · exact h.childless htarget hchild
  · rintro _ _ w' ⟨-, hundone⟩
    exact ⟨h.undone ha hhome hundone, ha.undone h hundone⟩

/-! ## §5 The whole recovery -/

theorem Outstanding.recoverAll (h : Outstanding k₀ homes rest w) (ha : Anchored k₀ homes rest w) :
    Ends (recoverAll rest) (fun _ _ w' => Outstanding k₀ homes [] w') () w := by
  induction rest generalizing w with
  | nil => exact h
  | cons s rest ih =>
    apply Act.wp_bind.2
    apply Act.wp_attempt.2
    apply Act.wp_locally.2
    apply Act.wp_bind.2
    apply Act.wp_current.2
    apply Act.wp_mono (h.undo_ends ha)
    rintro _ _ w₁ ⟨h₁, ha₁⟩
    apply Act.wp_bind.2
    apply Act.wp_mono (ih h₁ ha₁)
    intro r _ w₂ h₂
    cases r with
    | error e => exact h₂
    | ok results => exact h₂

theorem Outstanding.recovered (h : Outstanding k₀ homes w.store.pending w)
    (ha : Anchored k₀ homes w.store.pending w) : Restored k₀ homes (recovered w) := by
  have hends : Ends recover (fun _ _ w' => Outstanding k₀ homes [] w') () w :=
    ends_ask rfl (h.recoverAll ha)
  exact (Act.wp_exec hends).restored

end Rollback

/-! ## §6 The run before it -/

section Run

variable {k₀ : Kernel} {s s' : RunState}

/-- The invariant of a run: its snapshots are outstanding, and every group it has created is
    the target of one of them. -/
structure Sound (k₀ : Kernel) (s : RunState) : Prop where
  outstanding : Outstanding k₀ s.homes s.world.store.pending s.world
  claimed : ∀ key ∈ s.world.kernel.groups, key ∉ k₀.groups →
    ∃ m ∈ s.world.store.pending, m.targetGroup = key

theorem sound_start {w : World} (h : w.store.pending = []) : Sound w.kernel (.start w) where
  outstanding :=
    { pending := rfl
      managed := by simp [RunState.start, h]
      origin := by simp [RunState.start, h]
      distinct := by simp [RunState.start, h]
      moved := by simp [RunState.start, h]
      home := by simp [RunState.start]
      limits := fun key g₀ hg₀ => ⟨g₀, hg₀, g₀.write_properties, .inl rfl⟩
      properties := by simp [RunState.start, h]
      ours := fun key hkey hnew => absurd hkey hnew
      created := fun key hkey hnew => absurd hkey hnew }
  claimed := fun key hkey hnew => absurd hkey hnew

/-- Processes may come and go, as long as those that come are not known from before. -/
theorem Sound.of_procs (h : Sound k₀ s) (hhomes : s'.homes = s.homes)
    (hgroups : s'.world.kernel.groups = s.world.kernel.groups)
    (hstore : s'.world.store = s.world.store)
    (hprocs : ∀ pid q, s'.world.kernel.procs.lookup pid = some q →
      s.world.kernel.procs.lookup pid = some q ∨ s.homes (pid, q.startTimeTicks) = none) :
    Sound k₀ s' where
  outstanding :=
    { pending := rfl
      managed := hstore ▸ h.outstanding.managed
      origin := by
        rw [hstore, hhomes]
        exact h.outstanding.origin
      distinct := hstore ▸ h.outstanding.distinct
      moved := by
        rw [hstore]
        intro m hm q hq hticks
        rcases hprocs m.pid q hq with hold | hnew
        · exact h.outstanding.moved m hm q hold hticks
        · -- a pending row is about a process that had a home
          rw [hticks] at hnew
          exact absurd rfl (h.outstanding.key_ne hm hnew)
      home := by
        rw [hstore, hhomes]
        intro pid q home hq hhome hfree
        rcases hprocs pid q hq with hold | hnew
        · exact h.outstanding.home pid q home hold hhome hfree
        · -- what came since has none
          rw [hnew] at hhome
          cases hhome
      limits := by
        rw [hstore, hgroups]
        exact h.outstanding.limits
      properties := hstore ▸ h.outstanding.properties
      ours := hgroups ▸ h.outstanding.ours
      created := by
        rw [hstore, hgroups]
        exact fun key hkey hnew => .inr (h.claimed key hkey hnew) }
  claimed := by
    rw [hstore, hgroups]
    exact h.claimed

/-- The process of a separate application gets its home noted. -/
theorem noteHome_first {plan : CgroupPlan} {q : Proc}
    (hfirst : s.homes (plan.pid, plan.startTimeTicks) = none)
    (hq : s.world.kernel.procs.lookup plan.pid = some q) :
    s.noteHome plan = Function.update s.homes (plan.pid, plan.startTimeTicks) (some q.group) := by
  simp [RunState.noteHome, hfirst, hq]

section Applied

variable {plan : CgroupPlan} {q : Proc} {m : MutationSnapshot} {w' : World}

theorem Applied.key (ha : Applied plan q m s.world w') :
    m.key = (plan.pid, plan.startTimeTicks) := by
  rw [MutationSnapshot.key, ha.pid, ha.ticks]

/-- Every group that is not from before the run is the target of a snapshot, the new one's
    included. -/
theorem Sound.claimed_applied (h : Sound k₀ s) (ha : Applied plan q m s.world w') {key : String}
    (hmem : key ∈ w'.kernel.groups) (hnew : key ∉ k₀.groups) :
    ∃ m' ∈ s.world.store.pending ++ [m], m'.targetGroup = key := by
  by_cases htarget : key = plan.targetGroup
  · exact ⟨m, by simp, by rw [ha.target, htarget]⟩
  · obtain ⟨g, hg⟩ := Finmap.mem_iff.1 hmem
    rw [ha.others key htarget] at hg
    obtain ⟨m', hm', hm'target⟩ := h.claimed key (Finmap.mem_of_lookup_eq_some hg) hnew
    exact ⟨m', List.mem_append_left _ hm', hm'target⟩

theorem Sound.managed_applied (h : Sound k₀ s) (ha : Applied plan q m s.world w')
    {m' : MutationSnapshot} (hm' : m' ∈ s.world.store.pending ++ [m]) :
    isManagedName m'.targetGroup = true := by
  rcases List.mem_append.1 hm' with hm' | hm'
  · exact h.outstanding.managed m' hm'
  · rw [List.mem_singleton.1 hm', ha.target]
    exact ha.managed

/-- The process of each snapshot is in the snapshot's target, if it is still the process the
    snapshot was taken of. -/
theorem Sound.moved_applied (h : Sound k₀ s)
    (hold : ∀ m' ∈ s.world.store.pending, m'.key ≠ (plan.pid, plan.startTimeTicks))
    (ha : Applied plan q m s.world w') {m' : MutationSnapshot}
    (hm' : m' ∈ s.world.store.pending ++ [m]) {q' : Proc}
    (hq' : w'.kernel.procs.lookup m'.pid = some q')
    (hticks : q'.startTimeTicks = m'.startTimeTicks) : q'.group = m'.targetGroup := by
  rw [ha.procs] at hq'
  by_cases hpid : m'.pid = plan.pid
  · rw [hpid, Finmap.lookup_insert, Option.some.injEq] at hq'
    subst hq'
    rcases List.mem_append.1 hm' with hm' | hm'
    · -- an older snapshot of the process that moves would overlap
      refine absurd ?_ (hold m' hm')
      rw [MutationSnapshot.key, hpid, ← hticks, ← ha.alive]
    · rw [List.mem_singleton.1 hm', ha.target]
  · rw [Finmap.lookup_insert_of_ne _ hpid] at hq'
    rcases List.mem_append.1 hm' with hm' | hm'
    · exact h.outstanding.moved m' hm' q' hq' hticks
    · rw [List.mem_singleton.1 hm'] at hpid
      exact absurd ha.pid hpid

/-- A process without a pending snapshot is where it was. The process that moves has one now,
    so the update of `homes` does not matter here. -/
theorem Sound.home_applied (h : Sound k₀ s)
    (hnote : s.noteHome plan =
      Function.update s.homes (plan.pid, plan.startTimeTicks) (some q.group))
    (ha : Applied plan q m s.world w') {pid : UInt32} {q' : Proc} {home : String}
    (hq' : w'.kernel.procs.lookup pid = some q')
    (hhome : s.noteHome plan (pid, q'.startTimeTicks) = some home)
    (hfree : ∀ m' ∈ s.world.store.pending ++ [m], m'.key ≠ (pid, q'.startTimeTicks)) :
    q'.group = home := by
  have hother : (pid, q'.startTimeTicks) ≠ (plan.pid, plan.startTimeTicks) := by
    rw [← ha.key]
    exact (hfree m (by simp)).symm
  rw [hnote, Function.update_of_ne hother] at hhome
  rw [ha.procs] at hq'
  have hpid : pid ≠ plan.pid := by
    rintro rfl
    rw [Finmap.lookup_insert, Option.some.injEq] at hq'
    subst hq'
    exact hother (by rw [← ha.alive])
  rw [Finmap.lookup_insert_of_ne _ hpid] at hq'
  exact h.outstanding.home pid q' home hq' hhome fun m' hm' =>
    hfree m' (List.mem_append_left _ hm')

/-- The limits of a group from before the run can be written back, and differ only in the
    target of a snapshot. -/
theorem Sound.limits_applied (h : Sound k₀ s) (hsep : Separate k₀ s plan)
    (ha : Applied plan q m s.world w') {key : String} {g₀ : Group}
    (hg₀ : k₀.groups.lookup key = some g₀) :
    ∃ g, w'.kernel.groups.lookup key = some g ∧ g.write g₀.properties = g₀ ∧
      (g = g₀ ∨ ∃ m' ∈ s.world.store.pending ++ [m], m'.targetGroup = key) := by
  by_cases htarget : key = plan.targetGroup
  · -- the target still has its first limits: no application has written them before
    subst htarget
    obtain ⟨hnow, hrestorable⟩ := hsep.target g₀ hg₀
    refine ⟨g₀.write plan.properties, ?_, Group.write_write_properties hrestorable,
      .inr ⟨m, by simp, ha.target⟩⟩
    rw [ha.group, hnow]
    rfl
  · obtain ⟨g, hg, hwrite, hreason⟩ := h.outstanding.limits key g₀ hg₀
    refine ⟨g, by rw [ha.others key htarget, hg], hwrite, hreason.imp_right ?_⟩
    rintro ⟨m', hm', hm'target⟩
    exact ⟨m', List.mem_append_left _ hm', hm'target⟩

/-- **One application of the run.** -/
theorem Sound.applied (h : Sound k₀ s) (hsep : Separate k₀ s plan)
    (ha : Applied plan q m s.world w') :
    Sound k₀ { world := w', homes := s.noteHome plan } := by
  have hout := h.outstanding
  have hold : ∀ m' ∈ s.world.store.pending, m'.key ≠ (plan.pid, plan.startTimeTicks) :=
    fun m' hm' => hout.key_ne hm' hsep.first
  have hnote := noteHome_first hsep.first ha.found
  refine ⟨⟨rfl, ?managed, ?origin, ?distinct, ?moved, ?home, ?limits, ?properties, ?ours, ?created⟩,
    ?claimed⟩
  all_goals simp only [ha.pending]
  case managed => exact fun m' hm' => h.managed_applied ha hm'
  case origin =>
    intro m' hm'
    rw [hnote]
    rcases List.mem_append.1 hm' with hm' | hm'
    · obtain ⟨home, hhome, hrest⟩ := hout.origin m' hm'
      exact ⟨home, by rw [Function.update_of_ne (hold m' hm'), hhome], hrest⟩
    · rw [List.mem_singleton.1 hm', ha.key]
      exact ⟨q.group, Function.update_self .., hsep.settled q ha.found, ha.origin⟩
  case distinct =>
    rw [List.pairwise_append]
    refine ⟨hout.distinct, List.pairwise_singleton .., ?_⟩
    intro a hain b hb
    rw [List.mem_singleton.1 hb, ha.key]
    exact hold a hain
  case moved => exact fun m' hm' q' hq' hticks => h.moved_applied hold ha hm' hq' hticks
  case home => exact fun pid q' home hq' hhome hfree => h.home_applied hnote ha hq' hhome hfree
  case limits => exact fun key g₀ hg₀ => h.limits_applied hsep ha hg₀
  case properties =>
    intro m' hm' g₀ hg₀
    rcases List.mem_append.1 hm' with hm' | hm'
    · exact hout.properties m' hm' g₀ hg₀
    · rw [List.mem_singleton.1 hm'] at hg₀ ⊢
      rw [ha.target] at hg₀
      exact ha.properties g₀ (hsep.target g₀ hg₀).1
  case ours =>
    -- a new group is the target of a snapshot, and those are managed
    intro key hkey hnew
    obtain ⟨m', hm', rfl⟩ := h.claimed_applied ha hkey hnew
    exact h.managed_applied ha hm'
  case created => exact fun key hkey hnew => .inr (h.claimed_applied ha hkey hnew)
  case claimed => exact fun key hkey hnew => h.claimed_applied ha hkey hnew

end Applied

/-- One step of the run. -/
theorem Sound.next {step : Step} (h : Sound k₀ s) (hstep : SeparateStep k₀ s step)
    (hnext : s.next step = some s') : Sound k₀ s' := by
  cases step with
  | exit pid =>
    cases hnext
    refine h.of_procs rfl rfl rfl fun p q hq => .inl ?_
    have hne : p ≠ pid := by
      rintro rfl
      simp [Kernel.exit, Finmap.lookup_erase] at hq
    rwa [Kernel.exit, Finmap.lookup_erase_ne hne] at hq
  | spawn pid q =>
    simp only [RunState.next] at hnext
    split at hnext
    · split at hnext
      · rename_i hgroup hfree
        cases hnext
        refine h.of_procs rfl rfl rfl fun p q' hq' => ?_
        by_cases hpid : p = pid
        · subst hpid
          rw [Kernel.place, Finmap.lookup_insert, Option.some.injEq] at hq'
          exact .inr (hq' ▸ hfree.2)
        · rw [Kernel.place, Finmap.lookup_insert_of_ne _ hpid] at hq'
          exact .inl hq'
      · cases hnext
    · cases hnext
  | apply sessionId timestampNs plan =>
    have hends : Ends (applyOne sessionId timestampNs plan) _ () s.world := applyOne_effect
    have heffect := Act.wp_exec hends
    simp only [RunState.next] at hnext
    split at hnext
    · cases hnext
    · -- nothing to apply: the world is as it was
      rename_i hresult
      cases hnext
      have hsame := heffect none hresult
      exact h.of_procs rfl (by rw [hsame]) (by rw [hsame]) fun _ _ hq => .inl (by rwa [hsame] at hq)
    · rename_i m hresult
      cases hnext
      obtain ⟨q, happlied⟩ := heffect (some m) hresult
      -- an application that returns a snapshot was no dry run
      rcases hstep with hdry | hsep
      · rw [happlied.active] at hdry
        cases hdry
      · exact h.applied hsep happlied

theorem Sound.runs {s₀ : RunState} (h : Sound k₀ s₀) (hrun : Runs (SeparateStep k₀) s₀ s) :
    Sound k₀ s := by
  induction hrun with
  | refl => exact h
  | snoc _ hstep hnext ih => exact ih.next hstep hnext

end Run

/-- **Recovery over whole runs.** Start with no snapshot pending and let every step be
    separate. If at the end every target from before the run still has a process of its own,
    recovery restores everything. -/
theorem recovery_restores {w₀ : World} {s : RunState} (hfresh : w₀.store.pending = [])
    (hrun : Runs (SeparateStep w₀.kernel) (.start w₀) s)
    (hanchored : Anchored w₀.kernel s.homes s.world.store.pending s.world) :
    Restored w₀.kernel s.homes (recovered s.world) :=
  ((sound_start hfresh).runs hrun).outstanding.recovered hanchored

/-- Play `steps` from `s`. -/
def RunState.play (s : RunState) : List Step → Option RunState
  | [] => some s
  | step :: steps => (s.next step).bind fun s' => s'.play steps

theorem Runs.play {P : RunState → Step → Prop} {s₀ s s' : RunState} {steps : List Step}
    (h : Runs P s₀ s) (hP : ∀ s step, P s step) (hplay : s.play steps = some s') :
    Runs P s₀ s' := by
  induction steps generalizing s with
  | nil =>
    cases hplay
    exact h
  | cons step steps ih =>
    obtain ⟨s₁, hnext, hrest⟩ := Option.bind_eq_some_iff.1 hplay
    exact ih (.snoc h (hP s step) hnext) hrest

/-- The run with one application. -/
def movedOnce : Option RunState :=
  (RunState.start smallWorld).next (.apply 1 1 (protectPlan foregroundGroup))

/-- One protected process, and back. -/
theorem recovery_restores_one_process :
    ∃ s, movedOnce = some s ∧ Restored smallKernel s.homes (recovered s.world) := by
  have hrun : movedOnce.any (fun s => s.world.store.pending.all fun m =>
      decide (m.targetGroup ∉ smallKernel.groups)) = true := by decide +kernel
  obtain ⟨s, hnext, hnew⟩ := (Option.any_eq_true ..).1 hrun
  have hfresh : smallWorld.store.pending = [] := rfl
  refine ⟨s, hnext, recovery_restores hfresh (.snoc .refl ?_ hnext) ?_⟩
  · refine .inr ⟨rfl, fun q hq => ?_, fun g₀ hg₀ => ?_⟩
    · cases hq
      decide
    · cases hg₀
  · -- the target is new, so it needs no process of its own
    intro m hm hold
    have := List.all_eq_true.1 hnew m hm
    exact absurd hold (of_decide_eq_true this)

/-- The run that moves the process twice. -/
def movedTwice : Option RunState :=
  (RunState.start smallWorld).play
    [.apply 1 1 (protectPlan foregroundGroup), .apply 1 2 (protectPlan "nemor-validation-a.scope")]

/-- A process moved twice: the first rollback removes the group that the second one would
    have to find, and the second snapshot stays pending. -/
theorem second_move_stays_pending :
    ¬ ∀ (w₀ : World) (s : RunState), w₀.store.pending = [] →
      Runs (fun _ _ => True) (.start w₀) s →
      Restored w₀.kernel s.homes (recovered s.world) := by
  intro h
  have hrun : movedTwice.any (fun s => (recovered s.world).store.pending.length == 1) = true := by
    decide +kernel
  obtain ⟨s, hplay, hleft⟩ := (Option.any_eq_true ..).1 hrun
  have hpending := (h smallWorld s rfl (Runs.refl.play (fun _ _ => trivial) hplay)).pending
  rw [hpending] at hleft
  cases hleft

end Nemor.Actuator
