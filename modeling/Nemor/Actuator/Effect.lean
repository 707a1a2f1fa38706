import Nemor.Actuator.Transaction

/-!
# What applying and rolling back do when nothing fails

Two specifications, from which everything about undisturbed runs follows:

- `applyOne_effect`: a successful application moves one process, writes one group and adds
  one pending snapshot;
- `undo_effect`: a rollback moves the process back if it is still the same one, writes the
  original limits, removes the group if it is left empty, and retires the snapshot.
-/

namespace Nemor.Actuator

open Effectful

/-! ## §1 Faulty answers -/

/-- Calls that leave the hierarchy alone. -/
def Op.quiet : Op → Bool
  | .createManagedGroup _ | .setProperties _ _ | .attachPid _ _ | .cleanupEmptyOwnedGroup _ => false
  | _ => true

section Faulty

variable {τ : Type} {t : τ} {w w' : World} {op : Op} {r : Except ActuatorError op.Value}

theorem handle_kernel (h : op.quiet = true) : (World.handle op w).2.kernel = w.kernel := by
  cases op <;> first | rfl | cases h

theorem partly_of_quiet (h : op.quiet = true) : w.partly op = w := by
  cases op <;> first | rfl | cases h

theorem faulty_kernel (h : op.quiet = true) (hr : faulty t w op r w') : w'.kernel = w.kernel := by
  rcases hr with heq | ⟨e, -, rfl | rfl⟩
  · rw [← handle_kernel h (w := w), heq]
  · rfl
  · rw [partly_of_quiet h]

/-- A call that only reads answers truthfully or fails. -/
theorem faulty_read (hread : (World.handle op w).2 = w) (h : op.quiet = true)
    (hr : faulty t w op r w') : w' = w ∧ (r = (World.handle op w).1 ∨ ∃ e, r = .error e) := by
  rcases hr with heq | ⟨e, rfl, rfl | rfl⟩
  · rw [heq] at hread
    exact ⟨hread, .inl (by rw [heq])⟩
  · exact ⟨rfl, .inr ⟨e, rfl⟩⟩
  · exact ⟨partly_of_quiet h, .inr ⟨e, rfl⟩⟩

/-- A read followed by `f`. -/
theorem wp_read {α : Type} {J : τ → World → Prop} {f : op.Value → Act calls τ ActuatorError α}
    {Q : Except ActuatorError α → τ → World → Prop} (hread : (World.handle op w).2 = w)
    (h : op.quiet = true) (hJ : J t w) (herr : ∀ e, Q (.error e) t w)
    (hok : ∀ v, (World.handle op w).1 = .ok v → Act.wp faulty J (f v) Q t w) :
    Act.wp faulty J (issue op >>= f) Q t w := by
  apply Act.wp_bind.2
  refine wp_issue.2 ⟨hJ, ?_⟩
  intro r w' hr
  obtain ⟨rfl, hr | ⟨e, rfl⟩⟩ := faulty_read hread h hr
  · cases r with
    | error e => exact herr e
    | ok v => exact hok v hr.symm
  · exact herr e

end Faulty

/-! ## §2 Undisturbed runs -/

/-- Without faults, `m` ends with `Q`. -/
abbrev Ends {τ α : Type} (m : Act calls τ ActuatorError α)
    (Q : Except ActuatorError α → τ → World → Prop) (t : τ) (w : World) : Prop :=
  Act.wp faultless (fun _ _ => True) m Q t w

section Ends

variable {τ α : Type} {op : Op} {t : τ} {w w' : World} {Q : Except ActuatorError α → τ → World → Prop}

/-- Follow a call whose answer is known. -/
theorem ends_issue {f : op.Value → Act calls τ ActuatorError α} {v : op.Value}
    (hv : World.handle op w = (.ok v, w')) (h : Ends (f v) Q t w') : Ends (issue op >>= f) Q t w := by
  apply Act.wp_bind.2
  refine wp_issue.2 ⟨trivial, ?_⟩
  intro r w'' hr
  obtain ⟨rfl, rfl⟩ := Prod.mk.inj (hr.symm.trans hv)
  exact h

/-- Follow a call that may be refused. -/
theorem ends_cases {f : op.Value → Act calls τ ActuatorError α}
    (herr : ∀ e w', Q (.error e) t w')
    (hok : ∀ v w', World.handle op w = (.ok v, w') → Ends (f v) Q t w') :
    Ends (issue op >>= f) Q t w := by
  apply Act.wp_bind.2
  refine wp_issue.2 ⟨trivial, ?_⟩
  intro r w' hr
  cases r with
  | error e => exact herr e w'
  | ok v => exact hok v w' hr

/-- If the procedure succeeds, its value and the world it leaves satisfy `P`. -/
def OnOk (P : α → World → Prop) (r : Except ActuatorError α) (_ : τ) (w : World) : Prop :=
  ∀ a, r = .ok a → P a w

theorem onOk_error {P : α → World → Prop} {e : ActuatorError} : OnOk P (.error e) t w := by
  intro a h
  cases h

theorem ends_fail {P : α → World → Prop} {e : ActuatorError} :
    Ends (Act.fail e : Act calls τ ActuatorError α) (OnOk P) t w :=
  onOk_error (t := t)

theorem ends_onOk {f : op.Value → Act calls τ ActuatorError α} {P : α → World → Prop}
    (hok : ∀ v w', World.handle op w = (.ok v, w') → Ends (f v) (OnOk P) t w') :
    Ends (issue op >>= f) (OnOk P) t w :=
  ends_cases (fun _ _ => onOk_error) hok

theorem ends_ask {f : Except ActuatorError op.Value → Act calls τ ActuatorError α}
    {r : Except ActuatorError op.Value} (hr : World.handle op w = (r, w'))
    (h : Ends (f r) Q t w') : Ends (ask op >>= f) Q t w := by
  apply Act.wp_bind.2
  refine wp_ask.2 ⟨trivial, ?_⟩
  intro r' w'' hr'
  obtain ⟨rfl, rfl⟩ := Prod.mk.inj (hr'.symm.trans hr)
  exact h

end Ends

/-! ## §3 Rollback -/

/-- The process of `s`, moved to `home`; any other process as it is. -/
def rehome (s : MutationSnapshot) (home : String) (pid : UInt32) (q : Proc) : Proc :=
  if pid = s.pid ∧ q.startTimeTicks = s.startTimeTicks then { q with group := home } else q

section Rollback

variable {s : MutationSnapshot} {home : String} {pid : UInt32} {q : Proc} {w w' : World}

theorem rehome_other (h : ¬ (pid = s.pid ∧ q.startTimeTicks = s.startTimeTicks)) :
    rehome s home pid q = q := if_neg h

theorem rehome_same (hpid : pid = s.pid) (hstart : q.startTimeTicks = s.startTimeTicks) :
    rehome s home pid q = { q with group := home } := if_pos ⟨hpid, hstart⟩

@[simp] theorem rehome_startTimeTicks :
    (rehome s home pid q).startTimeTicks = q.startTimeTicks := by
  unfold rehome
  split <;> rfl

/-- Only the placement of the process of `s` differs, and it is `home`. -/
structure Replaced (s : MutationSnapshot) (home : String) (w w' : World) : Prop where
  procs : ∀ pid, w'.kernel.procs.lookup pid = (w.kernel.procs.lookup pid).map (rehome s home pid)
  groups : w'.kernel.groups = w.kernel.groups
  store : w'.store = w.store

/-- Nothing to move: the process is gone or is another one. -/
theorem replaced_refl
    (h : ∀ q, w.kernel.procs.lookup s.pid = some q → q.startTimeTicks ≠ s.startTimeTicks) :
    Replaced s home w w := by
  refine ⟨fun pid => ?_, rfl, rfl⟩
  cases hq : w.kernel.procs.lookup pid with
  | none => rfl
  | some q =>
    rw [Option.map_some, rehome_other]
    rintro ⟨rfl, hstart⟩
    exact h q hq hstart

theorem replaced_place (hq : w.kernel.procs.lookup s.pid = some q)
    (hstart : q.startTimeTicks = s.startTimeTicks) (hhome : home ∈ w.kernel.groups) :
    Replaced s home w
      { w with kernel := w.kernel.place s.pid { q with group := home } (.inr hhome) } := by
  refine ⟨fun pid => ?_, rfl, rfl⟩
  by_cases hpid : pid = s.pid
  · subst hpid
    simp [Kernel.place, Finmap.lookup_insert, hq, rehome_same rfl hstart]
  · have hsame : rehome s home pid = id := by
      funext q'
      exact rehome_other fun h => hpid h.1
    simp [Kernel.place, Finmap.lookup_insert_of_ne _ hpid, hsame]

/-- The group to go back to is there. -/
structure HomePresent (s : MutationSnapshot) (home : String) (w : World) : Prop where
  origin : s.originalGroup = "/" ++ home
  present : home ∈ w.kernel.groups

theorem restorePlacement_effect {τ : Type} {t : τ} (h : HomePresent s home w) :
    Ends (restorePlacement s) (fun r _ w' => r = .ok () ∧ Replaced s home w w') t w := by
  have hstart : World.handle (.processStartTime s.pid) w =
      (.ok ((w.kernel.procs.lookup s.pid).map Proc.startTimeTicks), w) := rfl
  apply ends_issue hstart
  apply Act.wp_ite.2
  constructor
  · intro halive
    obtain ⟨q, hq, hticks⟩ := Option.map_eq_some_iff.1 halive
    have hgroup : World.handle (.processGroup s.pid) w = (.ok (some ("/" ++ q.group)), w) := by
      simp [World.handle, Kernel.processGroup, hq]
    apply ends_issue hgroup
    refine Act.wp_ite.2 ⟨fun _ => ?_, fun hnone => absurd rfl hnone⟩
    obtain ⟨g, hg⟩ := Finmap.mem_iff.1 h.present
    have hinspect : World.handle (.inspectGroup s.originalGroup) w =
        (.ok (some (w.kernel.groupState s.originalGroup home false g)), w) := by
      simp [World.handle, h.origin, Kernel.inspectGroup_slash (w.kernel.normalized home h.present), hg]
    apply ends_issue hinspect
    refine Act.wp_ite.2 ⟨fun hnone => (by cases hnone), fun _ => ?_⟩
    refine wp_issue.2 ⟨trivial, fun r w' hr => ?_⟩
    have hpath : attachPath s.originalGroup = .ok home := by rw [h.origin, attachPath_slash]
    obtain ⟨rfl, rfl⟩ := Prod.mk.inj (hr.symm.trans (handle_attachPid hpath h.present hq))
    exact ⟨rfl, replaced_place hq hticks h.present⟩
  · -- another process may have the PID by now: it is left where it is
    intro hgone
    refine ⟨rfl, replaced_refl fun q hq hticks => hgone ?_⟩
    rw [hq, ← hticks]
    rfl

/-- The target has its original limits, or is gone if no process is left in it. -/
structure Cleared (s : MutationSnapshot) (w w' : World) : Prop where
  procs : w'.kernel.procs = w.kernel.procs
  others : ∀ key, key ≠ s.targetGroup → w'.kernel.groups.lookup key = w.kernel.groups.lookup key
  occupied : w.kernel.residents s.targetGroup ≠ ∅ → w'.kernel.groups.lookup s.targetGroup =
    (w.kernel.groups.lookup s.targetGroup).map fun g => g.write s.originalProperties
  vacated : w.kernel.residents s.targetGroup = ∅ → s.targetGroup ∉ w'.kernel.groups
  rows : w'.store.rows = w.store.rows

theorem restoreGroup_effect {τ : Type} {t : τ} (hm : isManagedName s.targetGroup = true)
    (hchild : w.kernel.residents s.targetGroup = ∅ →
      ∀ child ∈ w.kernel.groups, isBelow child s.targetGroup = false) :
    Ends (restoreGroup s) (fun r _ w' => r = .ok () ∧ Cleared s w w') t w := by
  apply ends_issue (handle_inspectGroup hm)
  cases hg : w.kernel.groups.lookup s.targetGroup with
  | none =>
    -- the group is gone already
    refine ⟨rfl, rfl, fun _ _ => rfl, fun _ => ?_, fun _ => Finmap.lookup_eq_none.1 hg, rfl⟩
    rw [hg]
    rfl
  | some g =>
    refine Act.wp_ite.2 ⟨fun _ => ?_, fun hnone => absurd rfl hnone⟩
    apply ends_issue (handle_setProperties hm hg)
    by_cases hempty : w.kernel.residents s.targetGroup = ∅
    · -- nobody is left: the directory goes, and its row with it
      have hvacant : (w.kernel.writeLimits s.targetGroup (g.write s.originalProperties)
          (Finmap.mem_of_lookup_eq_some hg)).Vacant s.targetGroup := by
        refine ⟨hempty, fun child hmem => ?_⟩
        rcases Finmap.mem_insert.1 (Finmap.mem_keys.1 hmem) with rfl | hmem
        · exact not_isBelow_of_isManagedName hm
        · exact hchild hempty child hmem
      apply ends_issue (handle_cleanup_vacant hm (Finmap.lookup_insert _) hvacant)
      apply ends_issue (handle_inspectGroup hm)
      refine Act.wp_ite.2 ⟨fun _ => ?_, fun hsome => absurd ?_ hsome⟩
      · refine wp_issue.2 ⟨trivial, fun r w' hr => ?_⟩
        obtain ⟨rfl, rfl⟩ := Prod.mk.inj hr
        refine ⟨rfl, rfl, fun key hkey => ?_, fun h => absurd hempty h, fun _ => ?_, rfl⟩
        · exact (Finmap.lookup_erase_ne hkey).trans (Finmap.lookup_insert_of_ne _ hkey)
        · exact Finmap.notMem_erase_self
      · simp [Kernel.rmdir, Finmap.lookup_erase]
    · -- somebody has stayed: the cleanup leaves the group alone
      obtain ⟨pid, hpid⟩ := Finset.nonempty_iff_ne_empty.2 hempty
      refine ends_issue (handle_cleanup_occupied hm (by exact hpid)) ?_
      apply ends_issue (handle_inspectGroup hm)
      refine Act.wp_ite.2 ⟨fun hnone => ?_, fun _ => ?_⟩
      · simp [Kernel.writeLimits, Finmap.lookup_insert] at hnone
      · refine ⟨rfl, rfl, fun key hkey => ?_, fun _ => ?_, fun h => absurd h hempty, rfl⟩
        · exact Finmap.lookup_insert_of_ne _ hkey
        · rw [hg]
          exact Finmap.lookup_insert _

/-- What a rollback of `s` to `home` makes of `w`. -/
structure Undone (s : MutationSnapshot) (home : String) (w w' : World) : Prop where
  procs : ∀ pid, w'.kernel.procs.lookup pid = (w.kernel.procs.lookup pid).map (rehome s home pid)
  others : ∀ key, key ≠ s.targetGroup → w'.kernel.groups.lookup key = w.kernel.groups.lookup key
  occupied : w'.kernel.residents s.targetGroup ≠ ∅ → w'.kernel.groups.lookup s.targetGroup =
    (w.kernel.groups.lookup s.targetGroup).map fun g => g.write s.originalProperties
  vacated : w'.kernel.residents s.targetGroup = ∅ → s.targetGroup ∉ w'.kernel.groups
  pending : w'.store.pending = w.store.pending.filter fun row => row.id ≠ s.id

theorem Undone.of_parts {w₁ w₂ : World} (h₁ : Replaced s home w w₁) (h₂ : Cleared s w₁ w₂) :
    Undone s home w
      { w₂ with store := w₂.store.update { s with rolledBack := true } } where
  procs pid := by
    rw [← h₁.procs, ← h₂.procs]
  others key hkey := by
    rw [← h₁.groups]
    exact h₂.others key hkey
  occupied h := by
    rw [← h₁.groups]
    apply h₂.occupied
    rw [← Kernel.residents_congr h₂.procs]
    exact h
  vacated h := by
    apply h₂.vacated
    rw [← Kernel.residents_congr h₂.procs]
    exact h
  pending := by
    have hrows : w₂.store.pending = w.store.pending := by
      unfold Store.pending
      rw [h₂.rows, h₁.store]
    rw [← hrows]
    exact Store.pending_update_rolledBack rfl

/-- Neither guard of a rollback stops that of a managed group whose snapshot is not retired. -/
theorem undo_of_fresh (hfresh : s.rolledBack = false) (hm : isManagedName s.targetGroup = true) :
    undo s = (do
      restorePlacement s
      restoreGroup s
      Act.assign fun t => { t with rolledBack := true }
      issue (.update { s with rolledBack := true })) := by
  rw [undo, if_neg (by simp [hfresh]), if_neg (by simp [hm])]

/-- **Effect of a rollback.** The group to go back to must be there, and if nobody stays in
    the target, it must have no groups below it. -/
theorem undo_effect (hfresh : s.rolledBack = false) (hm : isManagedName s.targetGroup = true)
    (hhome : HomePresent s home w)
    (hchild : (∀ pid q, w.kernel.procs.lookup pid = some q →
        (rehome s home pid q).group ≠ s.targetGroup) →
      ∀ child ∈ w.kernel.groups, isBelow child s.targetGroup = false) {t : MutationSnapshot} :
    Ends (undo s) (fun r _ w' => r = .ok () ∧ Undone s home w w') t w := by
  rw [undo_of_fresh hfresh hm]
  apply Act.wp_bind.2
  apply Act.wp_mono (restorePlacement_effect hhome)
  rintro _ t₁ w₁ ⟨rfl, hplaced⟩
  apply Act.wp_bind.2
  -- who is in the target after the move decides whether the directory goes
  have hchild₁ : w₁.kernel.residents s.targetGroup = ∅ →
      ∀ child ∈ w₁.kernel.groups, isBelow child s.targetGroup = false := by
    intro hempty
    rw [hplaced.groups]
    apply hchild
    intro pid q hq hgroup
    have hmem : pid ∈ w₁.kernel.residents s.targetGroup := by
      apply Kernel.mem_residents.2
      exact ⟨rehome s home pid q, by rw [hplaced.procs, hq]; rfl, hgroup⟩
    rw [hempty] at hmem
    cases hmem
  apply Act.wp_mono (restoreGroup_effect hm hchild₁)
  rintro _ t₂ w₂ ⟨rfl, hcleared⟩
  refine ⟨trivial, fun r w' hr => ?_⟩
  obtain ⟨rfl, rfl⟩ := Prod.mk.inj hr
  exact ⟨rfl, .of_parts hplaced hcleared⟩

end Rollback

/-! ## §4 Apply -/

/-- What `identify` has found out when it returns `originalGroup`. -/
structure Identified (plan : CgroupPlan) (k : Kernel) (originalGroup : String) : Prop where
  ready : ∃ c, k.capabilities = .ok c ∧ c.mutationReady = true
  alive : (k.procs.lookup plan.pid).map Proc.startTimeTicks = some plan.startTimeTicks
  placement : ∃ q, k.procs.lookup plan.pid = some q ∧ originalGroup = "/" ++ q.group

theorem identify_wp {J : Unit → World → Prop} {plan : CgroupPlan} {w : World} (hJ : J () w) :
    Act.wp faulty J (identify plan)
      (fun r _ w' => w' = w ∧ ∀ group, r = .ok group → Identified plan w.kernel group) () w := by
  have hstop : ∀ e : ActuatorError,
      w = w ∧ ∀ group, Except.error e = .ok group → Identified plan w.kernel group :=
    fun e => ⟨rfl, fun _ h => by cases h⟩
  -- three reads, and a refusal after each
  apply wp_read rfl rfl hJ hstop
  intro c hc
  apply Act.wp_ite.2
  refine ⟨fun _ => hstop _, fun hready => ?_⟩
  apply wp_read rfl rfl hJ hstop
  intro start hstart
  apply Act.wp_ite.2
  refine ⟨fun _ => hstop _, fun halive => ?_⟩
  apply wp_read rfl rfl hJ hstop
  intro group hgroup
  cases group with
  | none => exact hstop _
  | some originalGroup =>
    refine ⟨rfl, fun _ h => ?_⟩
    cases h
    refine ⟨⟨c, hc, by simpa using hready⟩, ?_, ?_⟩
    · rw [not_not] at halive
      rw [← halive]
      exact Except.ok.inj hstart
    · have := Except.ok.inj hgroup
      obtain ⟨q, hq, heq⟩ := Option.map_eq_some_iff.1 this
      exact ⟨q, hq, heq.symm⟩

section Apply

variable {plan : CgroupPlan} {w w' : World}

/-- `abandon` ends in an error, whatever the rollback does. -/
theorem abandon_fails {s : MutationSnapshot} {e : ActuatorError} :
    Ends (abandon s e) (fun r _ _ => ∃ e', r = .error e') () w := by
  apply ends_cases (fun e' _ => ⟨e', rfl⟩)
  intro _ w₁ _
  apply Act.wp_bind.2
  apply Act.wp_mono Act.wp_trivial
  intro r _ _ _
  cases r with
  | error e' => exact ⟨e', rfl⟩
  | ok _ => exact ⟨e, rfl⟩

/-- The group exists; it is new if it was not there. -/
structure Ensured (name : String) (w w' : World) : Prop where
  procs : w'.kernel.procs = w.kernel.procs
  group : w'.kernel.groups.lookup name = some ((w.kernel.groups.lookup name).getD .fresh)
  others : ∀ key, key ≠ name → w'.kernel.groups.lookup key = w.kernel.groups.lookup key
  rows : w'.store.rows = w.store.rows

theorem ensureGroup_effect {sessionId : Int64} {name : String} (hm : isManagedName name = true) :
    Ends (ensureGroup sessionId name) (fun r _ w' => r = .ok () ∧ Ensured name w w') () w := by
  apply ends_issue (handle_inspectGroup hm)
  cases hg : w.kernel.groups.lookup name with
  | some g =>
    exact ⟨rfl, rfl, by rw [hg]; rfl, fun _ _ => rfl, rfl⟩
  | none =>
    refine Act.wp_ite.2 ⟨fun _ => ?_, fun hsome => absurd rfl hsome⟩
    apply ends_issue (handle_createManagedGroup hm hg)
    refine ⟨trivial, fun r w' hr => ?_⟩
    obtain ⟨rfl, rfl⟩ := Prod.mk.inj hr
    refine ⟨rfl, rfl, ?_, fun key hkey => Finmap.lookup_insert_of_ne _ hkey, rfl⟩
    rw [hg]
    exact Finmap.lookup_insert _

/-- The snapshot as `confirm` leaves it. -/
def confirmed (s : MutationSnapshot) : MutationSnapshot :=
  { s with applied := true, verified := true }

theorem confirm_effect {s : MutationSnapshot} :
    Ends (confirm plan s)
      (OnOk fun o w' => o = some (confirmed s) ∧ w'.kernel = w.kernel ∧
        w'.store = (w.store.update { s with applied := true }).update (confirmed s)) () w := by
  apply ends_onOk
  intro _ w₁ h₁
  cases h₁
  apply ends_onOk
  intro state w₂ h₂
  have hw₂ := congrArg Prod.snd h₂
  dsimp only [World.handle] at hw₂
  subst hw₂
  cases state with
  | none => exact ends_fail
  | some state =>
    refine Act.wp_ite.2 ⟨fun _ => ?_, fun _ => ?_⟩
    · -- a failed verification rolls back and ends in an error
      apply Act.wp_mono abandon_fails
      rintro _ _ _ ⟨e, rfl⟩
      exact onOk_error
    · apply ends_onOk
      intro _ w₃ h₃
      cases h₃
      intro o ho
      cases ho
      exact ⟨rfl, rfl, rfl⟩

/-- The process is in the target, which has its limits, and no row has been touched. -/
structure Moved (plan : CgroupPlan) (q : Proc) (w w' : World) : Prop where
  procs : w'.kernel.procs = w.kernel.procs.insert plan.pid { q with group := plan.targetGroup }
  group : w'.kernel.groups.lookup plan.targetGroup =
    some (((w.kernel.groups.lookup plan.targetGroup).getD .fresh).write plan.properties)
  others : ∀ key, key ≠ plan.targetGroup →
    w'.kernel.groups.lookup key = w.kernel.groups.lookup key
  rows : w'.store.rows = w.store.rows

/-- On a hierarchy where no call fails, `mutate` gets as far as `confirm`. -/
theorem mutate_confirms {sessionId : Int64} {s : MutationSnapshot} {q : Proc}
    {Q : Except ActuatorError (Option MutationSnapshot) → Unit → World → Prop}
    (hm : isManagedName plan.targetGroup = true)
    (hq : w.kernel.procs.lookup plan.pid = some q)
    (h : ∀ w', Moved plan q w w' → Ends (confirm plan s) Q () w') :
    Ends (mutate sessionId plan s) Q () w := by
  apply Act.wp_bind.2
  apply Act.wp_mono (ensureGroup_effect hm)
  rintro _ _ w₁ ⟨rfl, hensured⟩
  -- the group is there now, so the limits are written and the process is moved
  apply ends_ask (handle_setProperties hm hensured.group)
  have hq₁ : w₁.kernel.procs.lookup plan.pid = some q := hensured.procs ▸ hq
  refine ends_ask (handle_attachPid (attachPath_managed hm)
    (by exact Finmap.mem_insert.2 (.inl rfl)) (by exact hq₁)) ?_
  apply h
  refine ⟨?_, Finmap.lookup_insert _, fun key hkey => ?_, hensured.rows⟩
  · rw [← hensured.procs]
    rfl
  · rw [← hensured.others key hkey]
    exact Finmap.lookup_insert_of_ne _ hkey

/-- The hierarchy and the rows after a successful `mutate`. -/
structure Mutated (plan : CgroupPlan) (q : Proc) (s : MutationSnapshot) (w w' : World) : Prop where
  procs : w'.kernel.procs = w.kernel.procs.insert plan.pid { q with group := plan.targetGroup }
  group : w'.kernel.groups.lookup plan.targetGroup =
    some (((w.kernel.groups.lookup plan.targetGroup).getD .fresh).write plan.properties)
  others : ∀ key, key ≠ plan.targetGroup →
    w'.kernel.groups.lookup key = w.kernel.groups.lookup key
  rows : w'.store.rows =
    ((w.store.update { s with applied := true }).update (confirmed s)).rows

theorem mutate_effect {sessionId : Int64} {s : MutationSnapshot} {q : Proc}
    (hm : isManagedName plan.targetGroup = true)
    (hq : w.kernel.procs.lookup plan.pid = some q) :
    Ends (mutate sessionId plan s)
      (OnOk fun o w' => o = some (confirmed s) ∧ Mutated plan q s w w') () w := by
  apply mutate_confirms hm hq
  intro w₁ hmoved
  apply Act.wp_mono confirm_effect
  intro r _ w' hr o ho
  obtain ⟨rfl, hkernel, hstore⟩ := hr o ho
  refine ⟨rfl, hkernel ▸ hmoved.procs, hkernel ▸ hmoved.group, hkernel ▸ hmoved.others, ?_⟩
  rw [hstore]
  simp only [Store.update, hmoved.rows]

/-- What a successful application of `plan` to the process `q` makes of `w`. -/
structure Applied (plan : CgroupPlan) (q : Proc) (s : MutationSnapshot) (w w' : World) : Prop where
  active : plan.dryRun = false
  managed : isManagedName plan.targetGroup = true
  found : w.kernel.procs.lookup plan.pid = some q
  alive : q.startTimeTicks = plan.startTimeTicks
  pid : s.pid = plan.pid
  ticks : s.startTimeTicks = plan.startTimeTicks
  target : s.targetGroup = plan.targetGroup
  origin : s.originalGroup = "/" ++ q.group
  properties : ∀ g, w.kernel.groups.lookup plan.targetGroup = some g →
    s.originalProperties = g.properties
  procs : w'.kernel.procs = w.kernel.procs.insert plan.pid { q with group := plan.targetGroup }
  group : w'.kernel.groups.lookup plan.targetGroup =
    some (((w.kernel.groups.lookup plan.targetGroup).getD .fresh).write plan.properties)
  others : ∀ key, key ≠ plan.targetGroup →
    w'.kernel.groups.lookup key = w.kernel.groups.lookup key
  pending : w'.store.pending = w.store.pending ++ [s]

/-- A stored snapshot has the next identifier. -/
theorem persist_answer {s : MutationSnapshot} {id : ℕ}
    (h : World.handle (.persist s) w = (.ok id, w')) :
    id = w.store.lastId + 1 ∧ w' = { w with store := w.store.insert s } := by
  by_cases hticks : 2 ^ 63 ≤ s.startTimeTicks.toNat
  · simp only [World.handle] at h
    rw [Store.persist_overflow hticks] at h
    cases h
  · simp only [World.handle] at h
    rw [Store.persist_ok (not_le.1 hticks)] at h
    cases h
    exact ⟨rfl, rfl⟩

/-- A row inserted and then confirmed is the newest pending one. -/
theorem pending_insert_confirmed {store : Store} {s : MutationSnapshot} (hrolled : s.rolledBack = false) :
    (((store.insert s).update { store.inserted s with applied := true }).update
      (confirmed (store.inserted s))).pending = store.pending ++ [confirmed (store.inserted s)] := by
  have hold : ∀ r ∈ store.rows, r.id ≠ store.lastId + 1 := by
    intro r hr
    have := store.bounded r hr
    omega
  have hfirst : ((store.insert s).update { store.inserted s with applied := true }).rows =
      store.rows ++ [{ store.inserted s with applied := true }] :=
    Store.rows_update_last rfl rfl hold
  have hsecond := Store.rows_update_last (s := confirmed (store.inserted s)) hfirst rfl hold
  unfold Store.pending
  rw [hsecond, List.filter_append]
  congr 1
  apply List.filter_cons_of_pos
  simp [MutationSnapshot.isPending, MutationSnapshot.withProgress, confirmed, Store.inserted, hrolled]

/-- An application that is no dry run and is not stopped records a process that it has
    identified. -/
theorem applyOne_records {sessionId timestampNs : Int64}
    {P : Option MutationSnapshot → World → Prop} (hdry : P none w)
    (h : plan.dryRun = false → isManagedName plan.targetGroup = true →
      ∀ originalGroup, Identified plan w.kernel originalGroup →
        Ends (record sessionId timestampNs plan originalGroup) (OnOk P) () w) :
    Ends (applyOne sessionId timestampNs plan) (OnOk P) () w := by
  refine Act.wp_ite.2 ⟨fun _ o ho => ?_, fun hactive => Act.wp_ite.2 ⟨fun _ => ends_fail, fun _ =>
    Act.wp_ite.2 ⟨fun _ => ends_fail, fun hmanaged => Act.wp_bind.2 ?_⟩⟩⟩
  · cases ho
    exact hdry
  -- what the identification has found, of a host with or without faults
  apply Act.wp_mono (Act.wp_env (identify_wp trivial) faulty_of_faultless)
  rintro r _ w₁ ⟨rfl, hfound⟩
  cases r with
  | error e => exact onOk_error
  | ok originalGroup =>
    exact h (by simpa using hactive) (by simpa using hmanaged) originalGroup (hfound _ rfl)

/-- **Effect of an application.** A dry run changes nothing; any other success moves the
    process, writes the group and leaves one more pending snapshot. -/
theorem applyOne_effect {sessionId timestampNs : Int64} :
    Ends (applyOne sessionId timestampNs plan)
      (OnOk fun o w' => match o with
        | none => w' = w
        | some s => ∃ q, Applied plan q s w w') () w := by
  apply applyOne_records rfl
  rintro hactive hm originalGroup ⟨-, halive, q, hq, rfl⟩
  apply ends_issue (handle_inspectGroup hm)
  -- the snapshot keeps what was read of the target, present or not
  generalize htarget : (w.kernel.groups.lookup plan.targetGroup).map
    (w.kernel.groupState plan.targetGroup plan.targetGroup true) = target
  apply ends_onOk
  intro id w₂ hpersist
  obtain ⟨rfl, rfl⟩ := persist_answer hpersist
  refine Act.wp_mono (mutate_effect hm (by exact hq)) ?_
  intro r _ w' hr o ho
  obtain ⟨rfl, hmutated⟩ := hr o ho
  have hticks : q.startTimeTicks = plan.startTimeTicks := by
    rw [hq] at halive
    exact Option.some.inj halive
  refine ⟨q, hactive, hm, hq, hticks, rfl, rfl, rfl, rfl, fun g hg => ?_,
    hmutated.procs, hmutated.group, hmutated.others, ?_⟩
  · rw [hg] at htarget
    rw [← htarget]
    rfl
  · unfold Store.pending
    rw [hmutated.rows]
    exact pending_insert_confirmed rfl

end Apply

end Nemor.Actuator
