import Nemor.Actuator.Effect

/-!
# Applying and rolling back at once

A successful application followed by its rollback, with nothing in between. The rollback
moves the process back through `inspect_group`, which does not accept the root; it writes back
the limits that read as numbers; and it removes the target group whenever it is left empty,
also if the group was there before. §3 says exactly when all of this gives back the hierarchy
the application started from.
-/

namespace Nemor.Actuator

open Effectful

/-! ## §1 What a successful application has verified -/

section Verified

variable {plan : CgroupPlan} {w : World}

/-- The target's limits read back as requested. -/
def ReadsBack (plan : CgroupPlan) (o : Option MutationSnapshot) (w : World) : Prop :=
  o.isSome → ∀ g, w.kernel.groups.lookup plan.targetGroup = some g → g.properties = plan.properties

theorem abandon_onOk {s : MutationSnapshot} {e : ActuatorError}
    {P : Option MutationSnapshot → World → Prop} : Ends (abandon s e) (OnOk P) () w := by
  apply Act.wp_mono abandon_fails
  rintro _ _ _ ⟨e', rfl⟩
  exact onOk_error

theorem confirm_readsBack {s : MutationSnapshot} (hm : isManagedName plan.targetGroup = true) :
    Ends (confirm plan s) (OnOk (ReadsBack plan)) () w := by
  apply ends_onOk
  intro _ w₁ h₁
  cases h₁
  apply ends_onOk
  intro state w₂ h₂
  rw [handle_inspectGroup hm] at h₂
  cases hg : w.kernel.groups.lookup plan.targetGroup with
  | none =>
    rw [hg] at h₂
    cases h₂
    exact ends_fail
  | some g =>
    rw [hg] at h₂
    cases h₂
    refine Act.wp_ite.2 ⟨fun _ => abandon_onOk, fun hsame => ?_⟩
    apply ends_onOk
    intro _ w₃ h₃
    cases h₃
    intro o ho _ g' hg'
    obtain rfl : g = g' := Option.some.inj (hg.symm.trans hg')
    -- the confirmation compares what it read with the plan
    simp only [Kernel.groupState, not_or, not_not] at hsame
    simp [Group.properties, hsame.2.1, hsame.2.2]

theorem mutate_readsBack {sessionId : Int64} {s : MutationSnapshot}
    (hm : isManagedName plan.targetGroup = true) :
    Ends (mutate sessionId plan s) (OnOk (ReadsBack plan)) () w := by
  apply Act.wp_bind.2
  apply Act.wp_mono Act.wp_trivial
  intro r _ w₁ _
  cases r with
  | error e => exact onOk_error
  | ok _ =>
    apply Act.wp_bind.2
    refine wp_ask.2 ⟨trivial, fun r w₂ _ => ?_⟩
    cases r with
    | error e => exact abandon_onOk
    | ok _ =>
      apply Act.wp_bind.2
      refine wp_ask.2 ⟨trivial, fun r w₃ _ => ?_⟩
      cases r with
      | error e => exact abandon_onOk
      | ok _ => exact confirm_readsBack hm

theorem applyOne_readsBack {sessionId timestampNs : Int64} :
    Ends (applyOne sessionId timestampNs plan) (OnOk (ReadsBack plan)) () w := by
  apply applyOne_records (fun h => by cases h)
  intro _ hmanaged originalGroup _
  apply ends_onOk
  intro target w₂ _
  apply ends_onOk
  intro id w₃ _
  exact mutate_readsBack hmanaged

end Verified

/-! ## §2 Rollbacks that fail -/

section Refused

variable {s : MutationSnapshot} {home : String} {w : World}

/-- A call that is refused ends the procedure. -/
theorem ends_refused {τ α : Type} {op : Op} {t : τ} {w w' : World} {e : ActuatorError}
    {Q : Except ActuatorError α → τ → World → Prop} {f : op.Value → Act calls τ ActuatorError α}
    (he : World.handle op w = (.error e, w')) (h : Q (.error e) t w') :
    Ends (issue op >>= f) Q t w := by
  apply Act.wp_bind.2
  refine wp_issue.2 ⟨trivial, ?_⟩
  intro r w'' hr
  obtain ⟨rfl, rfl⟩ := Prod.mk.inj (hr.symm.trans he)
  exact h

/-- The procedure ends in an error. -/
abbrev Fails {τ α : Type} (m : Act calls τ ActuatorError α) (t : τ) (w : World) : Prop :=
  Ends m (fun r _ _ => ∃ e, r = .error e) t w

theorem inspectGroup_root (k : Kernel) : k.inspectGroup ("/" ++ "") =
    .error (.blocked "external group path is not normalized") := by
  have hroot : isNormalized "" = false := by decide
  unfold Kernel.inspectGroup inspectPath
  rw [isManagedName_slash, stripSlash_slash]
  simp [hroot]

/-- A process from the root cannot be moved back. -/
theorem undo_root_fails {q : Proc} {t : MutationSnapshot} (hfresh : s.rolledBack = false)
    (hm : isManagedName s.targetGroup = true) (horigin : s.originalGroup = "/" ++ "")
    (hq : w.kernel.procs.lookup s.pid = some q) (hticks : q.startTimeTicks = s.startTimeTicks) :
    Fails (undo s) t w := by
  rw [undo_of_fresh hfresh hm]
  apply Act.wp_bind.2
  have hplacement : Fails (restorePlacement s) t w := by
    have hstart : World.handle (.processStartTime s.pid) w = (.ok (some s.startTimeTicks), w) := by
      simp [World.handle, Kernel.processStartTime, hq, hticks]
    apply ends_issue hstart
    refine Act.wp_ite.2 ⟨fun _ => ?_, fun h => absurd rfl h⟩
    have hgroup : World.handle (.processGroup s.pid) w = (.ok (some ("/" ++ q.group)), w) := by
      simp [World.handle, Kernel.processGroup, hq]
    apply ends_issue hgroup
    refine Act.wp_ite.2 ⟨fun _ => ?_, fun h => absurd rfl h⟩
    -- the move goes through `inspect_group`, which takes the root for a path that is not normalized
    refine ends_refused (by rw [horigin, World.handle, inspectGroup_root]) ⟨_, rfl⟩
  apply Act.wp_mono hplacement
  rintro _ _ _ ⟨e, rfl⟩
  exact ⟨e, rfl⟩

theorem handle_cleanup_busy {name : String} {g : Group} (hm : isManagedName name = true)
    (hg : w.kernel.groups.lookup name = some g) (hempty : w.kernel.residents name = ∅)
    (hbusy : ¬ w.kernel.Vacant name) :
    World.handle (.cleanupEmptyOwnedGroup name) w =
      (.error (.backend "remove empty managed group" ebusy), w) := by
  simp [World.handle, World.onKernel, Kernel.cleanupEmptyOwnedGroup,
    Kernel.inspectGroup_managed hm, hg, Kernel.groupState, hempty, hbusy]

/-- A target that is left empty with a group below it cannot be removed. -/
theorem restoreGroup_busy_fails {τ : Type} {t : τ} {g : Group} {child : String}
    (hm : isManagedName s.targetGroup = true) (hg : w.kernel.groups.lookup s.targetGroup = some g)
    (hempty : w.kernel.residents s.targetGroup = ∅) (hchild : child ∈ w.kernel.groups)
    (hbelow : isBelow child s.targetGroup = true) : Fails (restoreGroup s) t w := by
  apply ends_issue (handle_inspectGroup hm)
  rw [hg]
  refine Act.wp_ite.2 ⟨fun _ => ?_, fun h => absurd rfl h⟩
  -- the limits are written back first; it is the `rmdir` that fails
  apply ends_issue (handle_setProperties hm hg)
  refine ends_refused (handle_cleanup_busy hm (Finmap.lookup_insert _) hempty ?_) ⟨_, rfl⟩
  intro hvacant
  have hkey : child ∈ (w.kernel.writeLimits s.targetGroup (g.write s.originalProperties)
      (Finmap.mem_of_lookup_eq_some hg)).groups.keys :=
    Finmap.mem_keys.2 (Finmap.mem_insert.2 (.inr hchild))
  have hnot := hvacant.2 child hkey
  rw [hbelow] at hnot
  cases hnot

/-- Nobody is in the target once the process has been moved back. -/
theorem residents_of_left {w₁ : World} (h : Replaced s home w w₁)
    (hleft : ∀ pid q, w.kernel.procs.lookup pid = some q →
      (rehome s home pid q).group ≠ s.targetGroup) : w₁.kernel.residents s.targetGroup = ∅ := by
  apply Finset.eq_empty_of_forall_notMem
  intro pid hpid
  obtain ⟨q, hq, hgroup⟩ := Kernel.mem_residents.1 hpid
  rw [h.procs] at hq
  obtain ⟨q₀, hq₀, rfl⟩ := Option.map_eq_some_iff.1 hq
  exact hleft pid q₀ hq₀ hgroup

theorem undo_busy_fails {t : MutationSnapshot} {g : Group} {child : String}
    (hfresh : s.rolledBack = false) (hm : isManagedName s.targetGroup = true)
    (hhome : HomePresent s home w) (hg : w.kernel.groups.lookup s.targetGroup = some g)
    (hleft : ∀ pid q, w.kernel.procs.lookup pid = some q →
      (rehome s home pid q).group ≠ s.targetGroup)
    (hchild : child ∈ w.kernel.groups) (hbelow : isBelow child s.targetGroup = true) :
    Fails (undo s) t w := by
  rw [undo_of_fresh hfresh hm]
  apply Act.wp_bind.2
  apply Act.wp_mono (restorePlacement_effect hhome)
  rintro _ t₁ w₁ ⟨rfl, hplaced⟩
  apply Act.wp_bind.2
  have hgroup : Fails (restoreGroup s) t₁ w₁ := by
    apply restoreGroup_busy_fails hm (by rw [hplaced.groups, hg]) (residents_of_left hplaced hleft)
      (by rw [hplaced.groups]; exact hchild) hbelow
  apply Act.wp_mono hgroup
  rintro _ _ _ ⟨e, rfl⟩
  exact ⟨e, rfl⟩

end Refused

/-! ## §3 The round trip -/

/-- An undisturbed rollback succeeds and gives back the processes and groups of `k`. -/
def RollsBackTo (s : MutationSnapshot) (w : World) (k : Kernel) : Prop :=
  ((rollbackOne s).exec World.handle w).1.1 = .ok () ∧
    ((rollbackOne s).exec World.handle w).2.kernel.procs = k.procs ∧
    ((rollbackOne s).exec World.handle w).2.kernel.groups = k.groups

/-- The hierarchy before the application is one a rollback can give back. -/
structure RoundTrips (plan : CgroupPlan) (k : Kernel) : Prop where
  /-- The process is not in the root. -/
  placed : ∀ q, k.procs.lookup plan.pid = some q → q.group ≠ ""
  /-- A target that is there has a process in it, and every limit the plan writes reads as a
      number. -/
  target : ∀ g, k.groups.lookup plan.targetGroup = some g →
    k.residents plan.targetGroup ≠ ∅ ∧ g.Restorable plan.properties

/-- What the body of the rollback ends with, its run ends with. -/
theorem rollbackOne_exec {s : MutationSnapshot} {w : World}
    {Q : Except ActuatorError Unit → World → Prop} (h : Ends (undo s) (fun r _ w' => Q r w') s w) :
    Q ((rollbackOne s).exec World.handle w).1.1 ((rollbackOne s).exec World.handle w).2 := by
  have hrun : Ends rollbackOne (fun r _ w' => Q r w') s w := Act.wp_bind.2 h
  exact Act.wp_exec hrun

section RoundTrip

variable {plan : CgroupPlan} {q : Proc} {s : MutationSnapshot} {w w₁ w₂ : World}

theorem Applied.rolledBack (h : Applied plan q s w w₁) : s.rolledBack = false := by
  have hmem : s ∈ w₁.store.pending := by simp [h.pending]
  have hpending : s.isPending = true := (List.mem_filter.1 hmem).2
  simp only [MutationSnapshot.isPending, Bool.and_eq_true, Bool.not_eq_true'] at hpending
  exact hpending.2

theorem Applied.homePresent (h : Applied plan q s w w₁) (hroot : q.group ≠ "") :
    HomePresent s q.group w₁ where
  origin := h.origin
  present := by
    by_cases hsame : q.group = plan.targetGroup
    · rw [hsame]
      exact Finmap.mem_of_lookup_eq_some h.group
    · have hmem := (w.kernel.placed plan.pid q h.found).resolve_left hroot
      obtain ⟨g, hg⟩ := Finmap.mem_iff.1 hmem
      exact Finmap.mem_of_lookup_eq_some ((h.others _ hsame).trans hg)

/-- Moving the process back undoes the move. -/
theorem Applied.lookup_rehome (h : Applied plan q s w w₁) (pid : UInt32) :
    (w₁.kernel.procs.lookup pid).map (rehome s q.group pid) = w.kernel.procs.lookup pid := by
  rw [h.procs]
  by_cases hpid : pid = plan.pid
  · subst hpid
    have hticks : q.startTimeTicks = s.startTimeTicks := by rw [h.alive, h.ticks]
    rw [Finmap.lookup_insert, Option.map_some, rehome_same h.pid.symm (by exact hticks), h.found]
  · rw [Finmap.lookup_insert_of_ne _ hpid]
    cases w.kernel.procs.lookup pid with
    | none => rfl
    | some q' =>
      rw [Option.map_some, rehome_other]
      rintro ⟨hp, -⟩
      exact hpid (hp.trans h.pid)

theorem Undone.procs_restored (happly : Applied plan q s w w₁) (h : Undone s q.group w₁ w₂) :
    w₂.kernel.procs = w.kernel.procs := by
  apply Finmap.ext_lookup
  intro pid
  rw [h.procs, happly.lookup_rehome]

/-- Who is in the target after the move back was in it before the application. -/
theorem Applied.left_iff (h : Applied plan q s w w₁) :
    (∀ pid q', w₁.kernel.procs.lookup pid = some q' →
        (rehome s q.group pid q').group ≠ s.targetGroup) ↔
      w.kernel.residents plan.targetGroup = ∅ := by
  constructor
  · intro hleft
    apply Finset.eq_empty_of_forall_notMem
    intro pid hpid
    obtain ⟨q₀, hq₀, hgroup⟩ := Kernel.mem_residents.1 hpid
    rw [← h.lookup_rehome] at hq₀
    obtain ⟨q', hq', rfl⟩ := Option.map_eq_some_iff.1 hq₀
    exact hleft pid q' hq' (hgroup.trans h.target.symm)
  · intro hempty pid q' hq' hgroup
    have hmem : pid ∈ w.kernel.residents plan.targetGroup := by
      apply Kernel.mem_residents.2
      refine ⟨rehome s q.group pid q', ?_, hgroup.trans h.target⟩
      rw [← h.lookup_rehome, hq', Option.map_some]
    rw [hempty] at hmem
    cases hmem

/-- What the rollback of the application does when it is not refused. -/
theorem Applied.rollback (h : Applied plan q s w w₁) (hroot : q.group ≠ "")
    (hchild : w.kernel.residents plan.targetGroup = ∅ →
      ∀ child ∈ w₁.kernel.groups, isBelow child plan.targetGroup = false) :
    ((rollbackOne s).exec World.handle w₁).1.1 = .ok () ∧
      Undone s q.group w₁ ((rollbackOne s).exec World.handle w₁).2 := by
  have hundo := undo_effect (t := s) h.rolledBack (h.target ▸ h.managed) (h.homePresent hroot)
    (fun hleft => h.target ▸ hchild (h.left_iff.1 hleft))
  exact rollbackOne_exec hundo

/-- No group is below a target that the application has made. -/
theorem Applied.not_isBelow (h : Applied plan q s w w₁)
    (habsent : plan.targetGroup ∉ w.kernel.groups) :
    ∀ child ∈ w₁.kernel.groups, isBelow child plan.targetGroup = false := by
  intro child hchild
  by_cases hsame : child = plan.targetGroup
  · rw [hsame]
    exact not_isBelow_of_isManagedName h.managed
  · obtain ⟨g, hg⟩ := Finmap.mem_iff.1 hchild
    rw [h.others _ hsame] at hg
    apply Bool.eq_false_iff.2
    intro hbelow
    exact habsent (w.kernel.parents child (Finmap.mem_of_lookup_eq_some hg) _ hbelow)

/-- A target that was not there had no process in it. -/
theorem Applied.residents_absent (h : Applied plan q s w w₁)
    (habsent : plan.targetGroup ∉ w.kernel.groups) :
    w.kernel.residents plan.targetGroup = ∅ := by
  apply Finset.eq_empty_of_forall_notMem
  intro pid hpid
  obtain ⟨q', hq', hgroup⟩ := Kernel.mem_residents.1 hpid
  rcases w.kernel.placed pid q' hq' with hroot | hmem
  · have hlen := isManagedName_length h.managed
    rw [← hgroup, hroot] at hlen
    simp at hlen
  · exact habsent (hgroup ▸ hmem)

/-- The rollback gives back every group. -/
theorem RoundTrips.groups_restored (hcond : RoundTrips plan w.kernel)
    (h : Applied plan q s w w₁) (hundone : Undone s q.group w₁ w₂) :
    w₂.kernel.groups = w.kernel.groups := by
  have hprocs := hundone.procs_restored h
  apply Finmap.ext_lookup
  intro key
  by_cases hkey : key = plan.targetGroup
  · subst hkey
    cases hg : w.kernel.groups.lookup plan.targetGroup with
    -- a target that the application made is empty again and is removed
    | none =>
      have hempty := h.residents_absent (Finmap.lookup_eq_none.1 hg)
      apply Finmap.lookup_eq_none.2
      rw [← h.target]
      apply hundone.vacated
      rw [h.target, Kernel.residents_congr hprocs, hempty]
    -- one that was there keeps its processes, and its limits are written back
    | some g =>
      obtain ⟨hoccupied, hrestorable⟩ := hcond.target g hg
      have hlookup := hundone.occupied (by
        rw [h.target, Kernel.residents_congr hprocs]
        exact hoccupied)
      rw [h.target, h.group, hg, h.properties g hg] at hlookup
      rw [hlookup, Option.map_some, Option.getD_some, Group.write_write_properties hrestorable]
  · rw [hundone.others key (by rw [h.target]; exact hkey), h.others key hkey]

/-- A limit that was written and is back was a number. -/
theorem Limit.read_isSome_of_restored {l : Limit} {request : Option UInt64}
    (hverified : (l.write request).read = request)
    (hrestored : (l.write request).write l.read = l) : request.isSome → l.read.isSome := by
  intro hrequest
  cases hread : l.read with
  | some bytes => rfl
  -- for a limit that read as `max` nothing is written back: it is still the requested one
  | none =>
    rw [hread, Limit.write_none] at hrestored
    rw [hrestored, hread] at hverified
    rw [← hverified] at hrequest
    exact hrequest

/-- A rollback that gives everything back started from a hierarchy of that kind. -/
theorem Applied.roundTrips_of_rollsBackTo (h : Applied plan q s w w₁)
    (hverified : ∀ g, w₁.kernel.groups.lookup plan.targetGroup = some g →
      g.properties = plan.properties)
    (hback : RollsBackTo s w₁ w.kernel) : RoundTrips plan w.kernel := by
  obtain ⟨hok, hprocs, hgroups⟩ := hback
  have hm : isManagedName s.targetGroup = true := h.target ▸ h.managed
  -- the rollback has not been refused
  have hnot : ¬ Fails (undo s) s w₁ := by
    intro hfails
    obtain ⟨e, he⟩ := rollbackOne_exec (Q := fun r _ => ∃ e, r = .error e) hfails
    rw [hok] at he
    cases he
  have hroot : q.group ≠ "" := by
    intro hroot
    apply hnot
    apply undo_root_fails (q := { q with group := plan.targetGroup }) h.rolledBack hm
      (hroot ▸ h.origin)
    · rw [h.procs, h.pid]
      exact Finmap.lookup_insert _
    · exact h.alive.trans h.ticks.symm
  refine ⟨fun q' hq' => ?_, fun g hg => ?_⟩
  · obtain rfl : q = q' := Option.some.inj (h.found.symm.trans hq')
    exact hroot
  have hchild : w.kernel.residents plan.targetGroup = ∅ →
      ∀ child ∈ w₁.kernel.groups, isBelow child plan.targetGroup = false := by
    intro hempty child hmem
    apply Bool.eq_false_iff.2
    intro hbelow
    exact hnot (undo_busy_fails h.rolledBack hm (h.homePresent hroot) (by rw [h.target, h.group])
      (h.left_iff.2 hempty) hmem (by rw [h.target]; exact hbelow))
  obtain ⟨-, hundone⟩ := h.rollback hroot hchild
  have hoccupied : w.kernel.residents plan.targetGroup ≠ ∅ := by
    -- an empty target would be gone
    intro hempty
    have hgone := hundone.vacated (by
      rw [h.target, Kernel.residents_congr hprocs]
      exact hempty)
    rw [h.target, hgroups] at hgone
    exact hgone (Finmap.mem_of_lookup_eq_some hg)
  refine ⟨hoccupied, ?_⟩
  have hlookup := hundone.occupied (by
    rw [h.target, Kernel.residents_congr hprocs]
    exact hoccupied)
  rw [h.target, hgroups, h.group, hg, h.properties g hg, Option.map_some, Option.getD_some,
    Option.some.injEq] at hlookup
  have hgroup := h.group
  rw [hg, Option.getD_some] at hgroup
  have hread := hverified _ hgroup
  constructor
  · exact Limit.read_isSome_of_restored (congrArg RequestedProperties.memoryLow hread)
      (congrArg Group.memoryLow hlookup).symm
  · exact Limit.read_isSome_of_restored (congrArg RequestedProperties.memoryHigh hread)
      (congrArg Group.memoryHigh hlookup).symm

/-- **The round trip.** After every successful application, the rollback that follows at once
    succeeds and gives back the placement of every process, the limits of every group and the
    set of groups, exactly when the process was not in the root and the target was either not
    there, or had a process in it and numbers for all limits the plan writes. -/
theorem apply_rollback_round_trip_iff {sessionId timestampNs : Int64}
    (happly : (applyOne sessionId timestampNs plan ()).exec World.handle w =
      ((.ok (some s), ()), w₁)) :
    RollsBackTo s w₁ w.kernel ↔ RoundTrips plan w.kernel := by
  have heffect := Act.wp_exec (@applyOne_effect plan w sessionId timestampNs)
  have hverified := Act.wp_exec (@applyOne_readsBack plan w sessionId timestampNs)
  rw [happly] at heffect hverified
  obtain ⟨q, h⟩ := heffect _ rfl
  constructor
  · exact h.roundTrips_of_rollsBackTo (hverified _ rfl rfl)
  · intro hcond
    have hroot := hcond.placed q h.found
    have hchild : w.kernel.residents plan.targetGroup = ∅ →
        ∀ child ∈ w₁.kernel.groups, isBelow child plan.targetGroup = false := by
      intro hempty
      cases hg : w.kernel.groups.lookup plan.targetGroup with
      | none => exact h.not_isBelow (Finmap.lookup_eq_none.1 hg)
      | some g => exact absurd hempty (hcond.target g hg).1
    obtain ⟨hok, hundone⟩ := h.rollback hroot hchild
    exact ⟨hok, hundone.procs_restored h, hcond.groups_restored h hundone⟩

end RoundTrip

/-- The run of an application on a world that is left alone. -/
def appliedTo (w : World) (plan : CgroupPlan) :
    (Except ActuatorError (Option MutationSnapshot) × Unit) × World :=
  (applyOne 1 1 plan ()).exec World.handle w

/-- The snapshot and the world of a successful application. -/
def succeeded (out : (Except ActuatorError (Option MutationSnapshot) × Unit) × World) :
    Option (MutationSnapshot × World) :=
  match out with
  | ((.ok (some s), ()), w) => some (s, w)
  | _ => none

theorem eq_of_succeeded {out : (Except ActuatorError (Option MutationSnapshot) × Unit) × World}
    {s : MutationSnapshot} {w : World} (h : succeeded out = some (s, w)) :
    out = ((.ok (some s), ()), w) := by
  unfold succeeded at h
  split at h
  · cases h
    rfl
  · cases h

/-- Protecting the process of the small hierarchy, and back. -/
theorem round_trip_protected_process :
    ∃ s w₁, appliedTo smallWorld (protectPlan foregroundGroup) = ((.ok (some s), ()), w₁) ∧
      RollsBackTo s w₁ smallKernel := by
  have hrun : (succeeded (appliedTo smallWorld (protectPlan foregroundGroup))).isSome = true := by
    decide +kernel
  obtain ⟨⟨s, w₁⟩, hout⟩ := Option.isSome_iff_exists.1 hrun
  refine ⟨s, w₁, eq_of_succeeded hout, (apply_rollback_round_trip_iff (eq_of_succeeded hout)).2 ?_⟩
  refine ⟨fun q hq => ?_, fun g hg => ?_⟩
  · cases hq
    decide
  · cases hg

/-- The same process in the root. -/
def rootWorld : World where
  kernel := smallKernel.place 7 { startTimeTicks := 100, group := "" } (.inl rfl)
  store := emptyStore

/-- A process from the root stays in the target: its rollback is refused. -/
theorem root_process_does_not_return :
    ¬ ∀ (w : World) (plan : CgroupPlan) (s : MutationSnapshot) (w₁ : World),
      appliedTo w plan = ((.ok (some s), ()), w₁) → RollsBackTo s w₁ w.kernel := by
  intro h
  have hrun : (succeeded (appliedTo rootWorld (protectPlan foregroundGroup))).any
      (fun out => !((rollbackOne out.1).exec World.handle out.2).1.1.toBool) = true := by
    decide +kernel
  obtain ⟨⟨s, w₁⟩, hout, hrefused⟩ := (Option.any_eq_true ..).1 hrun
  have hback := h _ _ s w₁ (eq_of_succeeded hout)
  rw [hback.1] at hrefused
  cases hrefused

end Nemor.Actuator
