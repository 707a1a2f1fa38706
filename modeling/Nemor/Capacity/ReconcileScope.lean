import Nemor.Capacity.Custody
import Nemor.Lib.Log
import Nemor.Lib.Text

/-!
# What the reconciliation of a scope does to the scope

A run of `reconcileCompositionScope` is a row of moments. At each of them one call is answered,
and what the calls read of processes and control groups is what is there at that moment; from
one moment to the next everything may change. §2 says when the unit is stopped, §3 what the
record is worth that is returned.
-/

namespace Nemor.Capacity

open Effectful Log Text

/-! ## §1 Moments -/

/-- What is found where a control group is looked for. -/
inductive ControlGroup where
  | absent
  | unreadable
  | procs (text : String)

/-- `cgroup_members`: the lines of `cgroup.procs` that are not blank. -/
def cgroupMembers : ControlGroup → Option ℕ
  | .absent => some 0
  | .unreadable => none
  | .procs text => some ((lines text.toList).filter fun line => decide (trim line ≠ [])).length

/-- There is no control group, or one without members. -/
def ControlGroup.Deserted : ControlGroup → Prop
  | .absent => True
  | .unreadable => False
  | .procs text => ∀ line ∈ lines text.toList, trim line = []

theorem cgroupMembers_eq_zero {g : ControlGroup} : cgroupMembers g = some 0 ↔ g.Deserted := by
  cases g with
  | absent => simp [cgroupMembers, ControlGroup.Deserted]
  | unreadable => simp [cgroupMembers, ControlGroup.Deserted]
  | procs text => simp [cgroupMembers, ControlGroup.Deserted, List.filter_eq_nil_iff]

/-- The processes by pid, with their start or the reason why that cannot be read, and the
    control groups by path. -/
structure Surroundings where
  startTicks : UInt32 → Except String (Option UInt64)
  controlGroup : String → ControlGroup

/-- The process is gone, or its pid belongs to another one. -/
def Surroundings.Absent (w : Surroundings) (identity : OwnedProcessIdentity) : Prop :=
  w.startTicks identity.pid = .ok none ∨
    ∃ actual, w.startTicks identity.pid = .ok (some actual) ∧ actual ≠ identity.startTicks

/-- What a call reads of the surroundings. Whatever else it answers is up to systemd. -/
def Surroundings.Shows (w : Surroundings) : (op : HostOp) → op.Reply → Prop
  | .ask (.processStartTicks pid), r => r = w.startTicks pid
  | .ask (.cgroupMembers path), r => r = cgroupMembers (w.controlGroup path)
  | _, _ => True

/-- An answered call, with the surroundings at the time. -/
structure Moment where
  event : Event compositionHost
  around : Surroundings

/-- Any answers in any surroundings, noted in a log. -/
def watched : Env compositionHost Unit (List Moment) :=
  fun _ log op r log' => ∃ w : Surroundings, w.Shows op r ∧ log' = log ++ [⟨⟨op, r⟩, w⟩]

/-- The moment is a request to stop the unit. -/
def Moment.stops (m : Moment) : Bool :=
  match m.event.op with
  | .ask (.stopOwnedScope _) => true
  | _ => false

/-! ## §2 Before the stop -/

section Run

variable (plan : TransientScopePlan) (original : ScopeState) (cgroup : String)

/-- The three observations that clear a stop, one after the other: the worker is absent, the
    unit is there and exactly owned, its control group is deserted. -/
def Cleared (log : List Moment) : Prop :=
  ∃ worker unit members state, log = [worker, unit, members] ∧
    worker.event.op = .ask (.processStartTicks plan.identity.pid) ∧
    worker.around.Absent plan.identity ∧
    unit.event = ⟨.ask (.readScopeState .beforeStop plan.unitName), .ok (some state)⟩ ∧
    exactScopeOwnership state original plan = true ∧
    members.event.op = .ask (.cgroupMembers cgroup) ∧
    (members.around.controlGroup cgroup).Deserted

/-- Nothing is stopped that has not been cleared. -/
def StopsCleared (log : List Moment) : Prop :=
  AllPrefixed (fun pre m => m.stops = true → Cleared plan original cgroup pre) log

/-- The last four moments: the unit is not there, its control group is deserted, the worker is
    absent, and the time is taken. -/
def LeftClean (log : List Moment) : Prop :=
  ∃ before unit members worker time, log = before ++ [unit, members, worker, time] ∧
    unit.event = ⟨.ask (.readScopeState .last plan.unitName), .ok none⟩ ∧
    members.event.op = .ask (.cgroupMembers cgroup) ∧
    (members.around.controlGroup cgroup).Deserted ∧
    worker.event.op = .ask (.processStartTicks plan.identity.pid) ∧
    worker.around.Absent plan.identity

end Run

variable {plan : TransientScopePlan} {original : ScopeState} {cgroup : String}
variable {log : List Moment} {J : Unit → List Moment → Prop}

theorem Cleared.length (h : Cleared plan original cgroup log) : log.length = 3 := by
  obtain ⟨_, _, _, _, rfl, -⟩ := h
  rfl

/-- A stop that is cleared comes fourth, so there is only one. -/
theorem StopsCleared.at_most_once (h : StopsCleared plan original cgroup log) :
    (log.filter Moment.stops).length ≤ 1 := by
  rcases hstops : log.filter Moment.stops with _ | ⟨first, _ | ⟨second, rest⟩⟩
  · exact Nat.zero_le _
  · exact Nat.le_refl _
  · -- a second stop would have more than three moments before it
    exfalso
    obtain ⟨pre, post, rfl, -, hfirst, hrest⟩ := List.filter_eq_cons_iff.1 hstops
    obtain ⟨between, post', rfl, -, hsecond, -⟩ := List.filter_eq_cons_iff.1 hrest
    have hthird := (h pre first _ rfl hfirst).length
    have hmore := (h (pre ++ first :: between) second post' (by simp) hsecond).length
    simp only [List.length_append, List.length_cons] at hmore
    omega

theorem StopsCleared.quiet (h : StopsCleared plan original cgroup log) {m : Moment}
    (hm : m.stops = false) : StopsCleared plan original cgroup (log ++ [m]) := by
  apply AllPrefixed.snoc h
  intro hstops
  rw [hm] at hstops
  cases hstops

/-! ## §3 The calls -/

theorem ask_watched {q : Question} {Q : Except String q.Reply → Unit → List Moment → Prop}
    (hJ : J () log) (hQ : ∀ r w, Surroundings.Shows w (.ask q) r →
      Q (.ok r) () (log ++ [⟨⟨.ask q, r⟩, w⟩])) : Act.wp watched J (ask q) Q () log := by
  apply Act.wp_request.2
  refine ⟨hJ, ?_⟩
  rintro r _ ⟨w, hw, rfl⟩
  exact hQ r w hw

theorem exactWorkerAbsent_watched {identity : OwnedProcessIdentity}
    {Q : Except String Bool → Unit → List Moment → Prop} (hJ : J () log)
    (hQ : ∀ absent m, m.event.op = .ask (.processStartTicks identity.pid) →
      (absent = true → m.around.Absent identity) → Q (.ok absent) () (log ++ [m])) :
    Act.wp watched J (exactWorkerAbsent identity) Q () log := by
  unfold exactWorkerAbsent
  apply Act.wp_bind.2
  refine ask_watched hJ fun r w hw => ?_
  have hticks : r = w.startTicks identity.pid := hw
  rcases r with error | _ | actual
  · exact hQ false _ rfl fun h => by cases h
  · exact hQ true _ rfl fun _ => .inl hticks.symm
  · refine hQ (decide (actual ≠ identity.startTicks)) _ rfl fun h => .inr ⟨actual, hticks.symm, ?_⟩
    exact of_decide_eq_true h

theorem cgroupMembers_watched {Q : Except String (Option ℕ) → Unit → List Moment → Prop}
    (hJ : J () log) (hQ : ∀ r m, m.event.op = .ask (.cgroupMembers cgroup) →
      (r = some 0 → (m.around.controlGroup cgroup).Deserted) → Q (.ok r) () (log ++ [m])) :
    Act.wp watched J (ask (.cgroupMembers cgroup)) Q () log := by
  refine ask_watched hJ fun r w hw => ?_
  have hmembers : r = cgroupMembers (w.controlGroup cgroup) := hw
  exact hQ r _ rfl fun hzero => cgroupMembers_eq_zero.1 (hmembers ▸ hzero)

theorem stops_eq_false {m : Moment} {q : Question} (hop : m.event.op = .ask q)
    (hq : ∀ plan, q ≠ .stopOwnedScope plan) : m.stops = false := by
  unfold Moment.stops
  rw [hop]
  cases q <;> first | rfl | exact absurd rfl (hq _)

/-- Where a part of the reconciliation ends: with a value, and with nothing stopped that was not
    cleared. -/
def Orderly (plan : TransientScopePlan) (original : ScopeState) (cgroup : String) {α : Type} :
    Except String α → Unit → List Moment → Prop :=
  fun r _ log => (∃ a, r = .ok a) ∧ StopsCleared plan original cgroup log

theorem orderly_pure {α : Type} {a : α} (h : StopsCleared plan original cgroup log) :
    Orderly plan original cgroup (.ok a) () log :=
  ⟨⟨a, rfl⟩, h⟩

theorem workerAndMembersGone_watched {identity : OwnedProcessIdentity}
    (h : StopsCleared plan original cgroup log) :
    Act.wp watched (fun _ => StopsCleared plan original cgroup)
      (workerAndMembersGone identity cgroup) (Orderly plan original cgroup) () log := by
  unfold workerAndMembersGone
  apply Act.wp_bind.2
  refine exactWorkerAbsent_watched h fun absent m hop _ => ?_
  have h₁ := h.quiet (stops_eq_false hop (by simp))
  refine Act.wp_ite.2 ⟨fun _ => ?_, fun _ => orderly_pure h₁⟩
  apply Act.wp_bind.2
  refine cgroupMembers_watched h₁ fun r m hop _ => ?_
  exact orderly_pure (h₁.quiet (stops_eq_false hop (by simp)))

theorem reconcileNoSuchUnit_watched {error : StopError}
    (h : StopsCleared plan original cgroup log) :
    Act.wp watched (fun _ => StopsCleared plan original cgroup)
      (reconcileNoSuchUnit plan cgroup error) (Orderly plan original cgroup) () log := by
  unfold reconcileNoSuchUnit
  apply Act.wp_bind.2
  refine ask_watched h fun reread w _ => ?_
  apply Act.wp_bind.2
  apply Act.wp_mono (workerAndMembersGone_watched (h.quiet rfl))
  rintro _ _ log ⟨⟨gone, rfl⟩, h⟩
  exact Act.wp_ite.2 ⟨fun _ => orderly_pure h, fun _ => orderly_pure h⟩

/-- The stop itself is the one call that has to be cleared. -/
theorem stopUnit_watched (h : StopsCleared plan original cgroup log)
    (hclear : Cleared plan original cgroup log) :
    Act.wp watched (fun _ => StopsCleared plan original cgroup) (stopUnit plan cgroup)
      (Orderly plan original cgroup) () log := by
  unfold stopUnit
  apply Act.wp_bind.2
  refine ask_watched h fun stopped w _ => ?_
  have h₁ : StopsCleared plan original cgroup
      (log ++ [⟨⟨.ask (.stopOwnedScope plan), stopped⟩, w⟩]) :=
    AllPrefixed.snoc h _ fun _ => hclear
  cases stopped with
  | ok _ =>
    apply Act.wp_bind.2
    refine ask_watched h₁ fun removed w _ => ?_
    cases removed with
    | ok _ => exact orderly_pure (h₁.quiet rfl)
    | error _ => exact orderly_pure (h₁.quiet rfl)
  | error error =>
    exact Act.wp_ite.2 ⟨fun _ => reconcileNoSuchUnit_watched h₁, fun _ => orderly_pure h₁⟩

theorem stopScope_watched {readable present owned workerAbsent : Bool} {memberCount : Option ℕ}
    (h : StopsCleared plan original cgroup log)
    (hclear : present = true → owned = true → memberCount = some 0 → workerAbsent = true →
      Cleared plan original cgroup log) :
    Act.wp watched (fun _ => StopsCleared plan original cgroup)
      (stopScope plan cgroup readable present owned memberCount workerAbsent)
      (Orderly plan original cgroup) () log := by
  unfold stopScope
  refine Act.wp_ite.2 ⟨fun _ => orderly_pure h, fun _ => ?_⟩
  refine Act.wp_ite.2 ⟨fun _ => orderly_pure h, fun hpresent => ?_⟩
  refine Act.wp_ite.2 ⟨fun hallowed => ?_, fun _ => orderly_pure h⟩
  simp only [Bool.and_eq_true, decide_eq_true_eq] at hallowed
  exact stopUnit_watched h (hclear (by simpa using hpresent) hallowed.1.1 hallowed.1.2 hallowed.2)

/-! ## §4 The whole reconciliation -/

/-- Where a reconciliation ends: evidence is returned, nothing was stopped that was not cleared,
    and evidence that passes was taken from a clean end. -/
def Reconciled (plan : TransientScopePlan) (original : ScopeState) (cgroup : String)
    (r : Except String CompositionScopeCleanupEvidence) (log : List Moment) : Prop :=
  StopsCleared plan original cgroup log ∧
    ∃ evidence, r = .ok evidence ∧ (evidence.passed = true → LeftClean plan cgroup log)

/-- Evidence that passes says that everything was gone at the end. -/
theorem passed_only_if {e : CompositionScopeCleanupEvidence} (h : e.passed = true) :
    e.workerAbsent = true ∧ e.cgroupAbsentOrZeroMembers = true ∧ e.unitRemoved = true := by
  simp only [CompositionScopeCleanupEvidence.passed, Bool.and_eq_true] at h
  obtain ⟨⟨⟨⟨⟨habsent, -⟩, hempty⟩, hremoved⟩, -⟩, -⟩ := h
  exact ⟨habsent, hempty, hremoved⟩

theorem leftClean_of {final : Except String (Option ScopeState)} {w : Surroundings}
    {members worker time : Moment} (hgone : (final.isOk && final.toOption.join.isNone) = true)
    (hmembers : members.event.op = .ask (.cgroupMembers cgroup))
    (hdeserted : (members.around.controlGroup cgroup).Deserted)
    (hworker : worker.event.op = .ask (.processStartTicks plan.identity.pid))
    (habsent : worker.around.Absent plan.identity) :
    LeftClean plan cgroup (log ++ [⟨⟨.ask (.readScopeState .last plan.unitName), final⟩, w⟩] ++
      [members] ++ [worker] ++ [time]) := by
  rcases final with error | _ | state
  · cases hgone
  · exact ⟨log, ⟨⟨.ask (.readScopeState .last plan.unitName), .ok none⟩, w⟩, members, worker, time,
      by simp, rfl, hmembers, hdeserted, hworker, habsent⟩
  · cases hgone

theorem reconcileCompositionScope_watched :
    Act.wp watched (fun _ => StopsCleared plan original cgroup)
      (reconcileCompositionScope plan original cgroup)
      (fun r _ log => Reconciled plan original cgroup r log) () [] := by
  have h₀ : StopsCleared plan original cgroup [] := AllPrefixed.nil _
  unfold reconcileCompositionScope
  apply Act.wp_bind.2
  refine exactWorkerAbsent_watched h₀ fun workerAbsentBefore worker hworker habsent => ?_
  have h₁ := h₀.quiet (stops_eq_false hworker (by simp))
  apply Act.wp_bind.2
  refine ask_watched h₁ fun pre around _ => ?_
  have h₂ := h₁.quiet (m := ⟨⟨.ask (.readScopeState .beforeStop plan.unitName), pre⟩, around⟩) rfl
  apply Act.wp_bind.2
  refine cgroupMembers_watched h₂ fun preMembers members hmembers hdeserted => ?_
  have h₃ := h₂.quiet (stops_eq_false hmembers (by simp))
  apply Act.wp_bind.2
  apply Act.wp_mono (stopScope_watched h₃ ?_)
  · -- whatever has become of the stop, everything is looked at once more
    rintro _ _ log ⟨⟨stop, rfl⟩, h⟩
    apply Act.wp_bind.2
    refine ask_watched h fun final w _ => ?_
    have h₁ := h.quiet (m := ⟨⟨.ask (.readScopeState .last plan.unitName), final⟩, w⟩) rfl
    apply Act.wp_bind.2
    refine cgroupMembers_watched h₁ fun finalMembers members hmembers hdeserted => ?_
    have h₂ := h₁.quiet (stops_eq_false hmembers (by simp))
    apply Act.wp_bind.2
    refine exactWorkerAbsent_watched h₂ fun workerAbsent worker hworker habsent => ?_
    have h₃ := h₂.quiet (stops_eq_false hworker (by simp))
    apply Act.wp_bind.2
    refine ask_watched h₃ fun elapsed w' _ => ?_
    refine ⟨h₃.quiet rfl, _, rfl, fun hpassed => ?_⟩
    obtain ⟨hgone, hempty, hremoved⟩ := passed_only_if hpassed
    exact leftClean_of hremoved hmembers (hdeserted (of_decide_eq_true hempty)) hworker
      (habsent hgone)
  · intro hpresent howned hzero hgone
    rcases pre with error | _ | state
    · cases hpresent
    · cases hpresent
    · exact ⟨worker, _, members, state, rfl, hworker, habsent hgone, rfl, howned, hmembers,
        hdeserted hzero⟩

/-- **Exact reconciliation.** In every run, cut off anywhere and whatever the calls answer, a stop
    is requested at most once, right after the three observations that clear it; a run that ends
    returns evidence, which passes only if everything was gone at the end. -/
theorem reconcileCompositionScope_exact {plan : TransientScopePlan} {original : ScopeState}
    {cgroup : String} {log : List Moment}
    {q : Prog compositionHost Unit (Except String CompositionScopeCleanupEvidence × Unit)}
    (hrun : Reaches watched (reconcileCompositionScope plan original cgroup ()) [] q log) :
    StopsCleared plan original cgroup log ∧ (log.filter Moment.stops).length ≤ 1 ∧
      ∀ out, q = .pure out → ∃ evidence, out.1 = .ok evidence ∧
        (evidence.passed = true → LeftClean plan cgroup log) := by
  have hwp := Prog.wp_reaches (@reconcileCompositionScope_watched plan original cgroup) hrun
  cases q with
  | pure out =>
    obtain ⟨hstops, hevidence⟩ := hwp
    refine ⟨hstops, hstops.at_most_once, ?_⟩
    rintro _ ⟨⟩
    exact hevidence
  | call _ op k =>
    have hstops : StopsCleared plan original cgroup log := hwp.1
    exact ⟨hstops, hstops.at_most_once, fun out hout => by cases hout⟩

/-! ### A scope that is stopped -/

/-- The scope of the run below. -/
def stoppedPlan : TransientScopePlan where
  unitName := "nemor-benchmark-1.scope"
  description := "pressure worker"
  identity := ⟨"run-1", 100, 7⟩
  memoryMax := 1024
  runtimeMaxUsec := 100000000
  memoryAccounting := true
  cpuAccounting := true
  ioAccounting := true
  collectMode := "inactive-or-failed"
  contract := .progressivePressure

/-- No process and no control group is left. -/
def deserted : Surroundings := ⟨fun _ => .ok none, fun _ => .absent⟩

/-- The calm host, on which the unit is still there before it is stopped. -/
def stoppingReply : (op : HostOp) → op.Reply
  | .ask (.readScopeState .beforeStop _) => .ok (some (calmScope stoppedPlan))
  | op => calmReply ⟨∅, ∅, ∅, ∅, ∅⟩ op

/-- A host that stops the scope when it is asked to. -/
def stoppingHost (op : HostOp) (log : List Moment) : op.Reply × List Moment :=
  (stoppingReply op, log ++ [⟨⟨op, stoppingReply op⟩, deserted⟩])

theorem stoppingHost_watched (op : HostOp) (log : List Moment) (r : op.Reply) (log' : List Moment)
    (h : stoppingHost op log = (r, log')) : watched () log op r log' := by
  cases h
  refine ⟨deserted, ?_, rfl⟩
  cases op with
  | gate g => trivial
  | ask q => cases q <;> trivial

/-- The reconciliation of that scope. -/
def stoppedRun : (Except String CompositionScopeCleanupEvidence × Unit) × List Moment :=
  (reconcileCompositionScope stoppedPlan (calmScope stoppedPlan) "/scope" ()).exec stoppingHost []

/-- The unit is stopped, and the evidence passes. -/
theorem stoppedRun_exact :
    ∃ evidence, stoppedRun.1 = (.ok evidence, ()) ∧ evidence.passed = true ∧
      (stoppedRun.2.filter Moment.stops).length = 1 ∧
      LeftClean stoppedPlan "/scope" stoppedRun.2 := by
  have hexec : Reaches (Env.ofHandler stoppingHost)
      (reconcileCompositionScope stoppedPlan (calmScope stoppedPlan) "/scope" ()) []
      (.pure stoppedRun.1) stoppedRun.2 := Prog.exec_reaches _ _ _
  have hreach : Reaches watched _ [] (.pure stoppedRun.1) stoppedRun.2 :=
    hexec.mono fun _ log op r log' => stoppingHost_watched op log r log'
  obtain ⟨-, -, hends⟩ := reconcileCompositionScope_exact hreach
  obtain ⟨evidence, hevidence, hclean⟩ := hends _ rfl
  have hpassed : evidence.passed = true := by
    cases hevidence
    rfl
  exact ⟨evidence, Prod.ext hevidence rfl, hpassed, rfl, hclean hpassed⟩

end Nemor.Capacity
