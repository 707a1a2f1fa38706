import Mathlib.Tactic.Common

/-!
# The gates of a harness run

A harness run has a fixed list of required gates. Each of them is looked up by its name and set to
a state when the run has come that far, and in the end the first required gate that has not passed
decides what is reported.

- §1: gates
- §2: the outcome
- §3: when the required gates are reported as passed
- §4: gates that are not there or there twice
-/

namespace Nemor.Harness

/-! ## §1 Gates -/

/-- What a gate says. -/
inductive GateState where
  | pass
  | fail
  | notEvaluated
  deriving DecidableEq

/-- A gate of the report. -/
structure HarnessGate where
  name : String
  state : GateState
  detail : String
  deriving DecidableEq

/-- The gates that a run has to pass, in the order of the run. -/
def checkpoint2RequiredGates : List String :=
  ["systemd_capability",
   "cgroup_memory_capability",
   "headroom",
   "worker_spawned",
   "worker_ready_outside_scope",
   "audit_before_mutation",
   "transient_scope_created",
   "scope_identity_verified",
   "memory_limit_property_verified",
   "control_group_resolved",
   "memory_limit_kernel_verified",
   "owned_child_attached",
   "exclusive_membership",
   "worker_payload_allocated",
   "worker_ready",
   "worker_integrity",
   "metrics_collected",
   "watchdog",
   "no_oom",
   "worker_cleanup",
   "scope_cleanup",
   "owned_unit_absent_final",
   "owned_cgroup_absent_final",
   "owned_process_absent_final",
   "configuration_restored",
   "host_unchanged"]

/-- The required gates before the run. -/
def initialGates : List HarnessGate :=
  checkpoint2RequiredGates.map fun name =>
    { name := name, state := .notEvaluated, detail := "not reached" }

/-- Set the first gate of a name. A gate that is not there is not added. -/
def setGate (name : String) (state : GateState) (detail : String) :
    List HarnessGate → List HarnessGate
  | [] => []
  | gate :: gates =>
    if gate.name = name then { gate with state := state, detail := detail } :: gates
    else gate :: setGate name state detail gates

/-- The state of the first gate of a name. -/
def stateOf (gates : List HarnessGate) (name : String) : Option GateState :=
  (gates.find? fun gate => gate.name = name).map HarnessGate.state

section Gates

variable {gates : List HarnessGate} {name other detail : String} {state : GateState}

theorem stateOf_cons {gate : HarnessGate} :
    stateOf (gate :: gates) name =
      if gate.name = name then some gate.state else stateOf gates name := by
  unfold stateOf
  by_cases hname : gate.name = name <;> simp [hname]

/-- Setting a gate leaves the others as they are. -/
theorem stateOf_setGate_of_ne (hne : name ≠ other) :
    stateOf (setGate name state detail gates) other = stateOf gates other := by
  induction gates with
  | nil => rfl
  | cons gate gates ih =>
    by_cases hgate : gate.name = name
    · simp [setGate, hgate, stateOf_cons, hne]
    · simp [setGate, hgate, stateOf_cons, ih]

/-- A gate that is there is in the state that it is set to. -/
theorem stateOf_setGate :
    stateOf (setGate name state detail gates) name =
      (stateOf gates name).map fun _ => state := by
  induction gates with
  | nil => rfl
  | cons gate gates ih =>
    by_cases hgate : gate.name = name
    · simp [setGate, hgate, stateOf_cons]
    · simp [setGate, hgate, stateOf_cons, ih]

end Gates

/-! ## §2 The outcome -/

/-- The verdict, with the first failure if there is one. -/
structure HarnessOutcome where
  requiredGatesPassed : Bool
  failureClass : Option String
  failureReason : Option String
  errors : List String
  exitCode : Int
  deriving DecidableEq

/-- Gates about what is left behind. -/
def cleanupGates : List String :=
  ["worker_cleanup", "scope_cleanup", "owned_unit_absent_final", "owned_cgroup_absent_final",
   "owned_process_absent_final", "configuration_restored", "host_unchanged"]

/-- The first required gate that has not passed. -/
def firstFailure (gates : List HarnessGate) : Option HarnessGate :=
  checkpoint2RequiredGates.findSome? fun required =>
    -- a required gate that is not there at all does not count as a failure
    (gates.find? fun gate => gate.name = required).filter fun gate => decide (gate.state ≠ .pass)

/-- The verdict on a list of gates. -/
def finalizeHarness (gates : List HarnessGate) : HarnessOutcome :=
  match firstFailure gates with
  | none =>
    { requiredGatesPassed := true
      failureClass := none
      failureReason := none
      errors := []
      exitCode := 0 }
  | some failure =>
    { requiredGatesPassed := false
      failureClass :=
        some (if failure.name ∈ cleanupGates then "cleanup_failure" else "safety_failure")
      failureReason := some failure.name
      errors := [failure.name ++ ": " ++ failure.detail]
      exitCode := 1 }

/-! ## §3 When the required gates are reported as passed -/

/-- The gate is there and has not passed. -/
def NotPassed (gates : List HarnessGate) (name : String) : Prop :=
  ∃ state, stateOf gates name = some state ∧ state ≠ .pass

/-- A required gate that has not passed is enough. -/
theorem requiredGatesPassed_eq_false {gates : List HarnessGate} {name : String}
    (hrequired : name ∈ checkpoint2RequiredGates) (h : NotPassed gates name) :
    (finalizeHarness gates).requiredGatesPassed = false := by
  obtain ⟨state, hstate, hne⟩ := h
  obtain ⟨gate, hgate, rfl⟩ := Option.map_eq_some_iff.1 hstate
  unfold finalizeHarness
  cases hfirst : firstFailure gates with
  | some failure => rfl
  | none =>
    have hnone := List.findSome?_eq_none_iff.1 hfirst name hrequired
    rw [hgate] at hnone
    simp [Option.filter, hne] at hnone

theorem notPassed_setGate {gates : List HarnessGate} {name other detail : String}
    {state : GateState} (hne : name ≠ other) (h : NotPassed gates other) :
    NotPassed (setGate name state detail gates) other := by
  obtain ⟨old, hold, hpass⟩ := h
  exact ⟨old, (stateOf_setGate_of_ne hne).trans hold, hpass⟩

theorem notPassed_initial {name : String} (h : name ∈ checkpoint2RequiredGates) :
    NotPassed initialGates name := by
  refine ⟨.notEvaluated, ?_, fun h => (by cases h)⟩
  unfold initialGates
  -- by induction on the names, of which only the membership of `name` is known
  generalize checkpoint2RequiredGates = names at h
  induction names with
  | nil => cases h
  | cons required names ih =>
    rw [List.map_cons, stateOf_cons]
    by_cases hname : required = name
    · simp [hname]
    · have hmem := (List.mem_cons.1 h).resolve_left (Ne.symm hname)
      simp [hname, ih hmem]

/-! ## §4 Gates that are not there or there twice -/

/-- The gates of a name. -/
def named (gates : List HarnessGate) (name : String) : List HarnessGate :=
  gates.filter fun gate => gate.name = name

/-- The gate is there, and each time it is, it has passed. -/
def Held (gates : List HarnessGate) (name : String) : Prop :=
  (∃ gate ∈ gates, gate.name = name) ∧ ∀ gate ∈ gates, gate.name = name → gate.state = .pass

theorem stateOf_eq_named {gates : List HarnessGate} {name : String} :
    stateOf gates name = (named gates name).head?.map HarnessGate.state := by
  rw [named, List.head?_filter]
  rfl

theorem held_iff_named {gates : List HarnessGate} {name : String} :
    Held gates name ↔
      named gates name ≠ [] ∧ ∀ gate ∈ named gates name, gate.state = .pass := by
  simp [Held, named, List.filter_eq_nil_iff]

/-- Only the first gate of a name is looked at: when it has not failed, the gate is held if there
is one and the others of its name have passed as well. -/
theorem held_iff_tail {gates : List HarnessGate} {name : String} (h : ¬ NotPassed gates name) :
    Held gates name ↔
      named gates name ≠ [] ∧ ∀ gate ∈ (named gates name).tail, gate.state = .pass := by
  rw [held_iff_named]
  refine and_congr_right fun hne => ?_
  have hstate : stateOf gates name = (named gates name).head?.map HarnessGate.state :=
    stateOf_eq_named
  cases hnamed : named gates name with
  | nil => exact absurd hnamed hne
  | cons first rest =>
    have hfirst : first.state = .pass := by
      by_contra hfailed
      exact h ⟨first.state, by simp [hstate, hnamed], hfailed⟩
    simp [hfirst]

theorem not_notPassed_of_held {gates : List HarnessGate} {name : String} (h : Held gates name) :
    ¬ NotPassed gates name := by
  rintro ⟨state, hstate, hne⟩
  obtain ⟨gate, hgate, rfl⟩ := Option.map_eq_some_iff.1 hstate
  exact hne (h.2 gate (List.mem_of_find?_eq_some hgate) (by simpa using List.find?_some hgate))

/-- The verdict is that no required gate has been found that did not pass. -/
theorem requiredGatesPassed_iff {gates : List HarnessGate} :
    (finalizeHarness gates).requiredGatesPassed = true ∧ (finalizeHarness gates).exitCode = 0 ↔
      ∀ name ∈ checkpoint2RequiredGates, ¬ NotPassed gates name := by
  constructor
  · intro ⟨hpassed, _⟩ name hname hfailed
    simp [requiredGatesPassed_eq_false hname hfailed] at hpassed
  · intro h
    have hnone : firstFailure gates = none := by
      refine List.findSome?_eq_none_iff.2 fun name hname => ?_
      cases hgate : gates.find? fun gate => gate.name = name with
      | none => rfl
      | some gate =>
        have hpass : gate.state = .pass := by
          by_contra hne
          exact h name hname ⟨gate.state, by simp [stateOf, hgate], hne⟩
        simp [Option.filter, hpass]
    simp [finalizeHarness, hnone]

/-- **When the verdict is that of every gate.** A required gate that is found in another state than
passed is enough to fail; otherwise the verdict is right if each required gate is there and none
of its name behind the first has another state. -/
theorem requiredGates_verdict_iff (gates : List HarnessGate) :
    ((finalizeHarness gates).requiredGatesPassed = true ∧ (finalizeHarness gates).exitCode = 0 ↔
        ∀ name ∈ checkpoint2RequiredGates, Held gates name) ↔
      (∃ name ∈ checkpoint2RequiredGates, NotPassed gates name) ∨
        ∀ name ∈ checkpoint2RequiredGates, named gates name ≠ [] ∧
          ∀ gate ∈ (named gates name).tail, gate.state = .pass := by
  rw [requiredGatesPassed_iff]
  by_cases hfound : ∃ name ∈ checkpoint2RequiredGates, NotPassed gates name
  · obtain ⟨name, hname, hfailed⟩ := hfound
    have hnot : ¬ ∀ name ∈ checkpoint2RequiredGates, Held gates name := fun h =>
      not_notPassed_of_held (h name hname) hfailed
    have hverdict : ¬ ∀ name ∈ checkpoint2RequiredGates, ¬ NotPassed gates name := fun h =>
      h name hname hfailed
    exact iff_of_true (iff_of_false hverdict hnot) (Or.inl ⟨name, hname, hfailed⟩)
  · have hall : ∀ name ∈ checkpoint2RequiredGates, ¬ NotPassed gates name := fun name hname h =>
      hfound ⟨name, hname, h⟩
    have hheld := forall₂_congr fun name hname => held_iff_tail (hall name hname)
    rw [hheld, or_iff_right hfound, iff_true_left hall]

/-- Every required gate passed, and `host_unchanged` once more, failed. -/
def contradictedGates : List HarnessGate :=
  (checkpoint2RequiredGates.map fun name => { name := name, state := .pass, detail := "ok" }) ++
    [{ name := "host_unchanged", state := .fail, detail := "changed" }]

/-- Without any gate the verdict is good, and it is so with a required gate that has failed as
well as passed. -/
theorem absent_and_contradicted_gates :
    ((finalizeHarness []).requiredGatesPassed = true ∧ (finalizeHarness []).exitCode = 0 ∧
      ¬ Held [] "no_oom") ∧
    (finalizeHarness contradictedGates).requiredGatesPassed = true ∧
      (finalizeHarness contradictedGates).exitCode = 0 ∧
      ¬ Held contradictedGates "host_unchanged" := by
  refine ⟨⟨rfl, rfl, ?_⟩, by decide +kernel, by decide +kernel, ?_⟩
  · rintro ⟨⟨gate, hmem, _⟩, _⟩
    exact List.not_mem_nil hmem
  · rintro ⟨_, hall⟩
    have hfailed := hall { name := "host_unchanged", state := .fail, detail := "changed" }
      (by simp [contradictedGates]) rfl
    cases hfailed

end Nemor.Harness
