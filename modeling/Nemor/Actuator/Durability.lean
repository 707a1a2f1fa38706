import Nemor.Actuator.Effect

/-!
# Interrupted applications

`applyOne` stores its snapshot before it changes anything, but a snapshot counts as pending
only once its `applied` flag is stored, and that happens after the group is created, the
limits are written and the process is moved. Whatever stops `applyOne` in between leaves
changes that recovery does not see.

The main result says exactly when this matters: an application is durable if and only if it
is refused before its first change, or everything it writes is there already.
-/

namespace Nemor.Actuator

open Effectful

/-! ## §1 Early stops -/

/-- What an application may change: where its process is, and whether its group exists
    with which limits. -/
def observe (plan : CgroupPlan) (k : Kernel) : Option String × Option Group :=
  ((k.procs.lookup plan.pid).map Proc.group, k.groups.lookup plan.targetGroup)

/-- The call was cut off before its next request, or it returned an error. -/
def EarlyStop {α : Type} : Prog calls Unit (Except ActuatorError α × Unit) → Prop
  | .call _ _ _ => True
  | .pure out => ∃ e, out.1 = .error e

/-- A change against `w₀` is on record as the snapshot of this action, and recovery takes it
    back. -/
def Recoverable (plan : CgroupPlan) (w₀ w : World) : Prop :=
  observe plan w.kernel ≠ observe plan w₀.kernel →
    (∃ s ∈ w.store.pending, s.id = w₀.store.lastId + 1) ∧
      observe plan (recovered w).kernel = observe plan w₀.kernel

/-- Every early stop is recoverable, whatever calls fail. -/
def Durable (sessionId timestampNs : Int64) (plan : CgroupPlan) (w₀ : World) : Prop :=
  ∀ q w, Reaches faulty (applyOne sessionId timestampNs plan ()) w₀ q w → EarlyStop q →
    Recoverable plan w₀ w

theorem durable_iff_wp {sessionId timestampNs : Int64} {plan : CgroupPlan} {w₀ : World} :
    Durable sessionId timestampNs plan w₀ ↔
      Act.wp faulty (fun _ w => Recoverable plan w₀ w) (applyOne sessionId timestampNs plan)
        (fun r _ w => (∃ e, r = .error e) → Recoverable plan w₀ w) () w₀ := by
  constructor
  · intro h
    apply Prog.wp_of_reaches
    · intro m op k w hr
      exact h _ w hr trivial
    · intro a w hr herr
      exact h _ w hr herr
  · intro h q w hr hstop
    have hq := Prog.wp_reaches h hr
    cases q with
    | pure out => exact hq hstop
    | call m op k => exact hq.1

/-! ## §2 When an application has an effect -/

/-- All checks before the first change pass. -/
structure Admitted (plan : CgroupPlan) (k : Kernel) : Prop where
  active : plan.dryRun = false
  allowed : plan.allowed = true
  managed : isManagedName plan.targetGroup = true
  ready : ∃ c, k.capabilities = .ok c ∧ c.mutationReady = true
  alive : (k.procs.lookup plan.pid).map Proc.startTimeTicks = some plan.startTimeTicks
  storable : plan.startTimeTicks.toNat < 2 ^ 63

/-- The process is in the target already, and the requested limits are those it has. -/
def Settled (plan : CgroupPlan) (k : Kernel) : Prop :=
  ∃ g, observe plan k = (some plan.targetGroup, some g) ∧ g.write plan.properties = g

/-! ## §3 A settled application changes nothing -/

section Settled

variable {plan : CgroupPlan} {g : Group} {τ : Type}

/-- The process is in the target, and the target has the limits `g`. -/
def Still (plan : CgroupPlan) (g : Group) (k : Kernel) : Prop :=
  observe plan k = (some plan.targetGroup, some g)

theorem Still.group {k : Kernel} (h : Still plan g k) :
    k.groups.lookup plan.targetGroup = some g :=
  congrArg Prod.snd h

theorem Still.process {k : Kernel} (h : Still plan g k) :
    ∃ q, k.procs.lookup plan.pid = some q ∧ q.group = plan.targetGroup :=
  Option.map_eq_some_iff.1 (congrArg Prod.fst h)

theorem Still.setProperties {k : Kernel} {p : RequestedProperties} (h : Still plan g k)
    (hm : isManagedName plan.targetGroup = true) (hp : g.write p = g) :
    Still plan g (k.setProperties plan.targetGroup p).2 := by
  rw [Kernel.setProperties_present hm h.group]
  obtain ⟨q, hq, hgroup⟩ := h.process
  simp [Still, observe, Kernel.writeLimits, Finmap.lookup_insert, hp, hq, hgroup]

theorem Still.attachPid {k : Kernel} {name : String} (h : Still plan g k)
    (hpath : attachPath name = .ok plan.targetGroup) :
    Still plan g (k.attachPid name plan.pid).2 := by
  obtain ⟨q, hq, hgroup⟩ := h.process
  rw [Kernel.attachPid_present hpath (Finmap.mem_of_lookup_eq_some h.group) hq]
  simp [Still, observe, Kernel.place, Finmap.lookup_insert, h.group]

theorem Still.cleanupEmptyOwnedGroup {k : Kernel} (h : Still plan g k)
    (hm : isManagedName plan.targetGroup = true) :
    Still plan g (k.cleanupEmptyOwnedGroup plan.targetGroup).2 := by
  -- the process itself keeps the group from being removed
  rw [Kernel.cleanupEmptyOwnedGroup_occupied hm (Kernel.mem_residents.2 h.process)]
  exact h

/-- Every way to answer `op` keeps the limits and the placement. -/
def Op.Calm (plan : CgroupPlan) (g : Group) (op : Op) : Prop :=
  ∀ w : World, Still plan g w.kernel →
    Still plan g (World.handle op w).2.kernel ∧ Still plan g (w.partly op).kernel

theorem calm_of_quiet {op : Op} (h : op.quiet = true) : op.Calm plan g := by
  intro w hw
  rw [handle_kernel h, partly_of_quiet h]
  exact ⟨hw, hw⟩

theorem calm_setProperties {p : RequestedProperties} (hm : isManagedName plan.targetGroup = true)
    (hp : g.write p = g) : (Op.setProperties plan.targetGroup p).Calm plan g := by
  intro w hw
  refine ⟨hw.setProperties hm hp, hw.setProperties hm ?_⟩
  -- the first of two writes that change nothing changes nothing
  have hlow : g.memoryLow.write p.memoryLow = g.memoryLow := congrArg Group.memoryLow hp
  simp [Group.write, hlow]

theorem calm_attachPid {name : String} (hpath : attachPath name = .ok plan.targetGroup) :
    (Op.attachPid name plan.pid).Calm plan g :=
  fun _ hw => ⟨hw.attachPid hpath, hw⟩

theorem calm_cleanup (hm : isManagedName plan.targetGroup = true) :
    (Op.cleanupEmptyOwnedGroup plan.targetGroup).Calm plan g :=
  fun _ hw => ⟨hw.cleanupEmptyOwnedGroup hm, hw⟩

/-- The procedure leaves the limits and the placement as they are. -/
abbrev KeepsStill {α : Type} (plan : CgroupPlan) (g : Group)
    (m : Act calls τ ActuatorError α) : Prop :=
  Act.Keeps faulty (fun _ w => Still plan g w.kernel) m

theorem faulty_still {op : Op} (h : op.Calm plan g) (t : τ) (w : World)
    (r : Except ActuatorError op.Value) (w' : World) (hw : Still plan g w.kernel)
    (hr : faulty t w op r w') : Still plan g w'.kernel := by
  rcases hr with heq | ⟨e, -, rfl | rfl⟩
  · have := (h w hw).1
    rw [heq] at this
    exact this
  · exact hw
  · exact (h w hw).2

theorem keepsStill_issue {op : Op} (h : op.Calm plan g) :
    KeepsStill plan g (issue op : Act calls τ ActuatorError op.Value) :=
  Act.keeps_perform (faulty_still h)

theorem keepsStill_ask {op : Op} (h : op.Calm plan g) :
    KeepsStill plan g (ask op : Act calls τ ActuatorError _) :=
  Act.keeps_request (faulty_still h)

/-- A snapshot of `plan` whose undo writes what is there. -/
structure Idle (plan : CgroupPlan) (g : Group) (s : MutationSnapshot) : Prop where
  pid : s.pid = plan.pid
  target : s.targetGroup = plan.targetGroup
  origin : s.originalGroup = "/" ++ plan.targetGroup
  properties : s.originalProperties = g.properties

theorem restorePlacement_still {s : MutationSnapshot} (h : Idle plan g s) :
    KeepsStill plan g (restorePlacement s : Act calls τ ActuatorError Unit) := by
  apply Act.keeps_bind (keepsStill_issue (calm_of_quiet rfl))
  intro start
  apply Act.keeps_ite
  · intro _
    apply Act.keeps_bind (keepsStill_issue (calm_of_quiet rfl))
    intro group
    apply Act.keeps_ite
    · intro _
      apply Act.keeps_bind (keepsStill_issue (calm_of_quiet rfl))
      intro original
      apply Act.keeps_ite
      · intro _
        exact Act.keeps_fail _
      · -- the process is attached to the group it is in
        intro _
        rw [h.pid]
        apply keepsStill_issue
        apply calm_attachPid
        rw [h.origin, attachPath_slash]
    · intro _
      exact Act.keeps_pure _
  · intro _
    exact Act.keeps_pure _

theorem restoreGroup_still {s : MutationSnapshot} (hm : isManagedName plan.targetGroup = true)
    (h : Idle plan g s) : KeepsStill plan g (restoreGroup s : Act calls τ ActuatorError Unit) := by
  unfold restoreGroup
  rw [h.target]
  apply Act.keeps_bind (keepsStill_issue (calm_of_quiet rfl))
  intro target
  apply Act.keeps_ite
  · intro _
    have hwrite : g.write s.originalProperties = g := by simp [h.properties]
    apply Act.keeps_bind (keepsStill_issue (calm_setProperties hm hwrite))
    intro _
    apply Act.keeps_bind (keepsStill_issue (calm_cleanup hm))
    intro _
    apply Act.keeps_bind (keepsStill_issue (calm_of_quiet rfl))
    intro left
    apply Act.keeps_ite
    · intro _
      exact keepsStill_issue (calm_of_quiet rfl)
    · intro _
      exact Act.keeps_pure _
  · intro _
    exact Act.keeps_pure _

theorem undo_still {s : MutationSnapshot} (hm : isManagedName plan.targetGroup = true)
    (h : Idle plan g s) : KeepsStill plan g (undo s) := by
  apply Act.keeps_ite
  · intro _
    exact Act.keeps_pure _
  · intro _
    apply Act.keeps_ite
    · intro _
      exact Act.keeps_fail _
    · intro _
      apply Act.keeps_bind (restorePlacement_still h)
      intro _
      apply Act.keeps_bind (restoreGroup_still hm h)
      intro _
      apply Act.keeps_bind
      · exact Act.keeps_assign fun _ _ hw => hw
      · intro _
        exact keepsStill_issue (calm_of_quiet rfl)

theorem abandon_still {s : MutationSnapshot} {e : ActuatorError}
    (hm : isManagedName plan.targetGroup = true) (h : Idle plan g s) :
    KeepsStill plan g (abandon s e) := by
  apply Act.keeps_bind (keepsStill_issue (calm_of_quiet rfl))
  intro _
  apply Act.keeps_bind
  · apply Act.keeps_locally
    intro _ w hw
    apply Act.wp_bind.2
    apply Act.wp_current.2
    have hidle : Idle plan g { s with lastError := some e.display } :=
      ⟨h.pid, h.target, h.origin, h.properties⟩
    exact undo_still hm hidle _ w hw
  · intro _
    exact Act.keeps_fail _

theorem confirm_still {s : MutationSnapshot} (hm : isManagedName plan.targetGroup = true)
    (h : Idle plan g s) : KeepsStill plan g (confirm plan s) := by
  apply Act.keeps_bind (keepsStill_issue (calm_of_quiet rfl))
  intro _
  apply Act.keeps_bind (keepsStill_issue (calm_of_quiet rfl))
  intro state
  cases state with
  | none => exact Act.keeps_fail _
  | some state =>
    apply Act.keeps_ite
    · intro _
      exact abandon_still hm ⟨h.pid, h.target, h.origin, h.properties⟩
    · intro _
      apply Act.keeps_bind (keepsStill_issue (calm_of_quiet rfl))
      intro _
      exact Act.keeps_pure _

/-- The group is there, so it is not created. -/
theorem ensureGroup_still {sessionId : Int64} (hm : isManagedName plan.targetGroup = true) :
    KeepsStill plan g (ensureGroup sessionId plan.targetGroup) := by
  intro _ w hw
  apply wp_read rfl rfl hw (fun _ => hw)
  intro present hpresent
  apply Act.wp_ite.2
  refine ⟨fun hnone => ?_, fun _ => hw⟩
  have htruth := (Kernel.inspectGroup_managed hm).symm.trans hpresent
  rw [hw.group, Option.map_some, Except.ok.injEq] at htruth
  rw [← htruth] at hnone
  cases hnone

theorem mutate_still {sessionId : Int64} {s : MutationSnapshot}
    (hm : isManagedName plan.targetGroup = true) (hp : g.write plan.properties = g)
    (h : Idle plan g s) : KeepsStill plan g (mutate sessionId plan s) := by
  apply Act.keeps_bind (ensureGroup_still hm)
  intro _
  apply Act.keeps_bind (keepsStill_ask (calm_setProperties hm hp))
  intro written
  cases written with
  | error e => exact abandon_still hm h
  | ok _ =>
    apply Act.keeps_bind (keepsStill_ask (calm_attachPid (attachPath_managed hm)))
    intro attached
    cases attached with
    | error e => exact abandon_still hm h
    | ok _ => exact confirm_still hm h

end Settled

theorem applyOne_unadmitted {sessionId timestampNs : Int64} {plan : CgroupPlan} {w : World}
    (h : ¬ Admitted plan w.kernel) :
    Act.wp faulty (fun _ w' => w'.kernel = w.kernel) (applyOne sessionId timestampNs plan)
      (fun _ _ w' => w'.kernel = w.kernel) () w := by
  apply Act.wp_ite.2
  refine ⟨fun _ => rfl, fun hactive => Act.wp_ite.2 ⟨fun _ => rfl, fun hallowed =>
    Act.wp_ite.2 ⟨fun _ => rfl, fun hmanaged => Act.wp_bind.2 ?_⟩⟩⟩
  apply Act.wp_mono (identify_wp rfl)
  rintro r _ _ ⟨rfl, hfound⟩
  cases r with
  | error e => rfl
  | ok originalGroup =>
    obtain ⟨hready, halive, -⟩ := hfound _ rfl
    refine wp_read rfl rfl (by rfl) (fun _ => by rfl) fun target _ => ?_
    apply Act.wp_bind.2
    refine wp_issue.2 ⟨rfl, fun r w' hr => ?_⟩
    have hkernel := faulty_kernel rfl hr
    -- all other checks have passed, so the snapshot is one that cannot be stored
    have hstore : 2 ^ 63 ≤ plan.startTimeTicks.toNat := by
      by_contra hlt
      exact h ⟨by simpa using hactive, by simpa using hallowed, by simpa using hmanaged,
        hready, halive, not_le.1 hlt⟩
    cases r with
    | error e => exact hkernel
    | ok id =>
      rcases hr with heq | ⟨e, he, -⟩
      · have hrefused := congrArg Prod.fst heq
        simp only [World.handle] at hrefused
        rw [Store.persist_overflow hstore] at hrefused
        cases hrefused
      · cases he

theorem applyOne_settled {sessionId timestampNs : Int64} {plan : CgroupPlan} {w : World} {g : Group}
    (h : Still plan g w.kernel) (hp : g.write plan.properties = g) :
    Act.wp faulty (fun _ w' => Still plan g w'.kernel) (applyOne sessionId timestampNs plan)
      (fun _ _ w' => Still plan g w'.kernel) () w := by
  apply Act.wp_ite.2
  refine ⟨fun _ => h, fun _ => Act.wp_ite.2 ⟨fun _ => h, fun _ =>
    Act.wp_ite.2 ⟨fun _ => h, fun hmanaged => Act.wp_bind.2 ?_⟩⟩⟩
  have hm : isManagedName plan.targetGroup = true := by simpa using hmanaged
  apply Act.wp_mono (identify_wp h)
  rintro r _ _ ⟨rfl, hfound⟩
  cases r with
  | error e => exact h
  | ok originalGroup =>
    obtain ⟨-, -, q, hq, rfl⟩ := hfound _ rfl
    obtain ⟨q', hq', hgroup⟩ := h.process
    obtain rfl : q' = q := Option.some.inj (hq'.symm.trans hq)
    -- the snapshot records the limits and the group that the plan asks for
    apply wp_read rfl rfl h (fun _ => h)
    intro target htarget
    have htruth := (Kernel.inspectGroup_managed hm).symm.trans htarget
    rw [h.group, Option.map_some, Except.ok.injEq] at htruth
    subst htruth
    refine Act.keeps_bind (keepsStill_issue (calm_of_quiet rfl)) (fun id => ?_) () _ h
    apply mutate_still hm hp
    refine ⟨rfl, rfl, ?_, rfl⟩
    rw [hgroup]
    rfl

/-! ## §4 Any other application can be lost -/

section Lost

variable {J : Unit → World → Prop} {α : Type} {Q : Except ActuatorError α → Unit → World → Prop}
  {w w' : World} {op : Op} {v : op.Value} {plan : CgroupPlan}

/-- Follow the faultless answer of a call. -/
theorem wp_issue_ok {f : op.Value → Act calls Unit ActuatorError α}
    (h : Act.wp faulty J (issue op >>= f) Q () w) (hv : World.handle op w = (.ok v, w')) :
    Act.wp faulty J (f v) Q () w' :=
  (wp_issue.1 (Act.wp_bind.1 h)).2 _ _ (.inl hv)

theorem wp_ask_ok {f : Except ActuatorError op.Value → Act calls Unit ActuatorError α}
    (h : Act.wp faulty J (ask op >>= f) Q () w) (hv : World.handle op w = (.ok v, w')) :
    Act.wp faulty J (f (.ok v)) Q () w' :=
  (wp_ask.1 (Act.wp_bind.1 h)).2 _ _ (.inl hv)

theorem identify_run {f : String → Act calls Unit ActuatorError α} {q : Proc}
    (h : Act.wp faulty J (identify plan >>= f) Q () w) (ha : Admitted plan w.kernel)
    (hq : w.kernel.procs.lookup plan.pid = some q) :
    Act.wp faulty J (f ("/" ++ q.group)) Q () w := by
  obtain ⟨c, hc, hready⟩ := ha.ready
  have halive := ha.alive
  have hcapabilities : World.handle .capabilities w = (.ok c, w) := by
    simp [World.handle, hc]
  have hstart : World.handle (.processStartTime plan.pid) w =
      (.ok (some plan.startTimeTicks), w) := by
    simp [World.handle, Kernel.processStartTime, halive]
  have hgroup : World.handle (.processGroup plan.pid) w = (.ok (some ("/" ++ q.group)), w) := by
    simp [World.handle, Kernel.processGroup, hq]
  have h := wp_issue_ok (Act.wp_bind.1 h) hcapabilities
  have h := (Act.wp_ite.1 h).2 (by simp [hready])
  have h := wp_issue_ok h hstart
  have h := (Act.wp_ite.1 h).2 (by simp)
  exact wp_issue_ok h hgroup

/-- Once `ensureGroup` is through, the group exists; one that was there is as it was. -/
theorem ensureGroup_run {f : Unit → Act calls Unit ActuatorError α} {sessionId : Int64}
    {name : String} (h : Act.wp faulty J (ensureGroup sessionId name >>= f) Q () w)
    (hm : isManagedName name = true) :
    ∃ w' g, Act.wp faulty J (f ()) Q () w' ∧ w'.kernel.procs = w.kernel.procs ∧
      w'.kernel.groups.lookup name = some g ∧
      (∀ g₀, w.kernel.groups.lookup name = some g₀ → g = g₀) ∧ w'.store.rows = w.store.rows := by
  have h := wp_issue_ok (Act.wp_bind.1 h) (handle_inspectGroup hm)
  cases hg : w.kernel.groups.lookup name with
  | some g =>
    rw [hg] at h
    exact ⟨w, g, h, rfl, hg, fun g₀ h₀ => Option.some.inj h₀, rfl⟩
  | none =>
    rw [hg] at h
    have h := wp_issue_ok h (handle_createManagedGroup hm hg)
    have h := (wp_issue.1 h).2 (.ok ()) _ (.inl rfl)
    exact ⟨_, .fresh, h, rfl, Finmap.lookup_insert _, fun _ h₀ => (by cases h₀), rfl⟩

/-- A crash right after the process is moved: group and placement are those of the plan,
    and no stored row has changed. -/
theorem mutate_run {sessionId : Int64} {s : MutationSnapshot} {q : Proc}
    {Q : Except ActuatorError (Option MutationSnapshot) → Unit → World → Prop}
    (h : Act.wp faulty J (mutate sessionId plan s) Q () w)
    (hm : isManagedName plan.targetGroup = true)
    (hq : w.kernel.procs.lookup plan.pid = some q) :
    ∃ w' g, J () w' ∧ observe plan w'.kernel = (some plan.targetGroup, some (g.write plan.properties)) ∧
      (∀ g₀, w.kernel.groups.lookup plan.targetGroup = some g₀ → g = g₀) ∧
      w'.store.rows = w.store.rows := by
  obtain ⟨w₁, g, h, hprocs, hg, hsame, hrows⟩ := ensureGroup_run h hm
  have h := wp_ask_ok h (handle_setProperties hm hg)
  have hmem : plan.targetGroup ∈ w₁.kernel.groups.insert plan.targetGroup (g.write plan.properties) :=
    Finmap.mem_insert.2 (.inl rfl)
  have h := wp_ask_ok h (handle_attachPid (attachPath_managed hm) hmem (hprocs ▸ hq))
  refine ⟨_, g, (wp_issue.1 (Act.wp_bind.1 h)).1, ?_, hsame, hrows⟩
  simp [observe, Kernel.place, Kernel.writeLimits, Finmap.lookup_insert]

end Lost

/-- A row that was stored but not marked is not pending. -/
theorem not_pending_of_insert {store : Store} {s : MutationSnapshot} (h : s.applied = false)
    {row : MutationSnapshot} (hrow : row ∈ (store.insert s).pending) : row.id ≠ store.lastId + 1 := by
  obtain ⟨hmem, hpending⟩ := List.mem_filter.1 hrow
  rcases List.mem_append.1 hmem with hold | hnew
  · have := store.bounded row hold
    omega
  · rw [List.mem_singleton.1 hnew] at hpending
    simp [Store.inserted, MutationSnapshot.isPending, h] at hpending

theorem settled_of_durable {sessionId timestampNs : Int64} {plan : CgroupPlan} {w₀ : World}
    (h : Durable sessionId timestampNs plan w₀) (ha : Admitted plan w₀.kernel) :
    Settled plan w₀.kernel := by
  obtain ⟨q, hq, -⟩ := Option.map_eq_some_iff.1 ha.alive
  -- follow the run in which every call up to the first change succeeds
  have h := durable_iff_wp.1 h
  have h := (Act.wp_ite.1 h).2 (by simp [ha.active])
  have h := (Act.wp_ite.1 h).2 (by simp [ha.allowed])
  have h := (Act.wp_ite.1 h).2 (by simp [ha.managed])
  have h := identify_run h ha hq
  have h := wp_issue_ok h (handle_inspectGroup ha.managed)
  have hpersist : ∀ s : MutationSnapshot, s.startTimeTicks = plan.startTimeTicks →
      World.handle (.persist s) w₀ =
        (.ok (w₀.store.lastId + 1), { w₀ with store := w₀.store.insert s }) := by
    intro s hs
    simp only [World.handle]
    rw [Store.persist_ok (hs ▸ ha.storable)]
  have h := wp_issue_ok h (hpersist _ rfl)
  obtain ⟨w, g, hrec, hobs, hsame, hrows⟩ := mutate_run h ha.managed hq
  by_cases hchanged : observe plan w.kernel = observe plan w₀.kernel
  · rw [hobs] at hchanged
    have hg := hsame _ (congrArg Prod.snd hchanged).symm
    exact ⟨g, by rw [← hchanged, ← hg], hg.symm⟩
  · -- the change is there, but the stored row still says that nothing was applied
    obtain ⟨⟨row, hrow, hid⟩, -⟩ := hrec hchanged
    unfold Store.pending at hrow
    rw [hrows] at hrow
    exact absurd hid (not_pending_of_insert rfl hrow)

/-- **Durability of an application.** Every early stop of `applyOne` can be recovered if and
    only if the application is refused before its first change, or asks for what is there
    already. -/
theorem durable_iff {sessionId timestampNs : Int64} {plan : CgroupPlan} {w₀ : World} :
    Durable sessionId timestampNs plan w₀ ↔ (Admitted plan w₀.kernel → Settled plan w₀.kernel) := by
  constructor
  · intro h ha
    exact settled_of_durable h ha
  · intro h
    by_cases ha : Admitted plan w₀.kernel
    · obtain ⟨g, hstill, hp⟩ := h ha
      intro q w hr _ hchanged
      have := Act.wp_always (applyOne_settled hstill hp) hr
      exact absurd (this.trans hstill.symm) hchanged
    · intro q w hr _ hchanged
      have := Act.wp_always (applyOne_unadmitted ha) hr
      exact absurd (by rw [this]) hchanged

/-- The process has been moved into a new group when `applyOne` is cut off, and the store
    knows of no pending snapshot. -/
theorem crash_after_attach_is_lost :
    ¬ Durable 1 1 (protectPlan foregroundGroup) smallWorld := by
  intro h
  have hreach := (Prog.after_reaches World.handle 10
    (applyOne 1 1 (protectPlan foregroundGroup) ()) smallWorld).mono faulty_of_faultless
  obtain ⟨⟨s, hs, -⟩, -⟩ := h _ _ hreach trivial (by decide)
  exact absurd hs (List.not_mem_nil)

end Nemor.Actuator
