import Nemor.Policy.Hysteresis

/-!
# Policy engine: planning without telemetry

When all five pressure signals are missing the transition keeps the state. Planning is a
separate pass: it looks at the retained state and at the guards of the input, never at the
signals. So the plan of a retained pressure state can still mutate, and `heldBack` says
exactly when it does not.
-/

namespace Nemor.Policy

open MachineNumbers Log

/-! ## §1 When a plan mutates -/

/-- No action of the list mutates anything. -/
def Inert (planned : List PlannedAction) : Prop :=
  ∀ item ∈ planned, item.mutating = false

/-- The guards of the planner that hold back the mutations of a state. A calm state has none;
    `stabilizing` is not guarded by the capabilities and the actuator. -/
def heldBack (state : PressureState) (input : PolicyInput) (observe : Bool) : Bool :=
  match state with
  | .normal | .watch => true
  | .pressure | .critical | .emergency =>
    decide (0 < input.recentSafetyEvents) || !capabilitiesReady input || observe ||
      !input.actuatorAvailable
  | .stabilizing => decide (0 < input.recentSafetyEvents) || observe

theorem inert_rejectMutations (planned : List PlannedAction) (rejected : List RejectedAction)
    (code : String) : Inert (rejectMutations planned rejected code).planned := by
  intro item hitem
  simpa [rejectMutations] using (List.mem_filter.1 hitem).2

theorem not_inert_severeActions (state : PressureState) (input : PolicyInput) :
    ¬ Inert (severeActions state input) := by
  intro h
  have hprotect := h _ (List.mem_cons_self ..)
  simp [action] at hprotect

/-- The guards of the three pressure states, in the order in which they are asked. -/
theorem inert_severe_iff (state : PressureState) (input : PolicyInput) (observe : Bool)
    (hstate : state.isPressure = true) :
    Inert (stateActions state input observe).planned ↔ heldBack state input observe = true := by
  have hshape : (stateActions state input observe).planned =
      if heldBack state input observe = true then
        (severeActions state input).filter fun item => !item.mutating
      else severeActions state input := by
    cases state <;> cases hstate
    all_goals
      simp only [stateActions, heldBack, rejectMutations, Bool.or_eq_true, decide_eq_true_eq]
      split_ifs <;> simp_all
  rw [hshape]
  by_cases hheld : heldBack state input observe = true
  · simp only [hheld, if_true, iff_true]
    intro item hitem
    simpa using (List.mem_filter.1 hitem).2
  · simp only [hheld]
    exact iff_of_false (not_inert_severeActions state input) (by simp)

/-- **What the planner holds back.** The plan of a state mutates nothing exactly when a guard
    of that state holds it back. -/
theorem inert_planActions_iff (state : PressureState) (input : PolicyInput) (observe : Bool) :
    Inert (planActions state input observe).planned ↔ heldBack state input observe = true := by
  have hplanned : (planActions state input observe).planned =
      (stateActions state input observe).planned := by
    unfold planActions
    dsimp only
    split_ifs <;> rfl
  rw [hplanned]
  cases state with
  | normal => simp [stateActions, heldBack, Inert, action, zramAction, tieringAction]
  | watch => simp [stateActions, heldBack, Inert, action, zramAction, tieringAction]
  | pressure => exact inert_severe_iff .pressure input observe rfl
  | critical => exact inert_severe_iff .critical input observe rfl
  | emergency => exact inert_severe_iff .emergency input observe rfl
  | stabilizing =>
    simp only [stateActions, heldBack, Bool.or_eq_true, decide_eq_true_eq]
    split_ifs with hsafety hobserve
    · simp [hsafety, inert_rejectMutations]
    · simp [hobserve, inert_rejectMutations]
    · -- the rollback of the cgroup measures is planned
      simp [hsafety, hobserve, Inert, action]

/-! ## §2 Evaluations without telemetry -/

/-- The evaluation leaves the state, the previous state and the entry time alone. -/
structure Evaluation.Retains (x : Evaluation) : Prop where
  current : x.after.current = x.before.current
  previous : x.after.previous = x.before.previous
  entered : x.after.enteredAtNs = x.before.enteredAtNs

theorem retains_of_insufficient {config : PressureConfig} {x : Evaluation}
    (hmoves : Moves config x.before x.input x.after x.decision.stateChanged)
    (hmissing : sufficient x.input = false) : x.Retains := by
  obtain ⟨before, input, decision, after⟩ := x
  dsimp only at hmoves hmissing
  generalize decision.stateChanged = changed at hmoves
  cases hmoves with
  | settle reason hstay => exact ⟨rfl, rfl, rfl⟩
  | commit reason hsuff hne hheld => rw [hmissing] at hsuff; cases hsuff
  | hold hsuff hne => exact ⟨rfl, rfl, rfl⟩

/-- **Telemetry loss.** In every run an evaluation without any pressure signal retains the
    state, and it plans no mutation exactly when a guard of the retained state holds the
    mutations back. -/
theorem telemetry_loss_inert_iff {config : PressureConfig} {engine : PolicyEngine}
    {log : List Evaluation} (h : Run config engine log) :
    ∀ x ∈ log, sufficient x.input = false →
      x.Retains ∧
        ∃ observe, PolicyEngine.evaluate ⟨config, x.before⟩ x.input observe =
            .ok (x.decision, ⟨config, x.after⟩) ∧
          (Inert x.decision.plannedActions ↔ heldBack x.before.current x.input observe = true) := by
  intro x hx hmissing
  obtain ⟨observe, hev⟩ := h.evaluated x hx
  obtain ⟨-, -, -, -, hplanned, -⟩ := PolicyEngine.evaluate_inv hev
  have hretains := retains_of_insufficient (accepted_of_evaluate hev).moves hmissing
  refine ⟨hretains, observe, hev, ?_⟩
  rw [hplanned, ← hretains.current]
  exact inert_planActions_iff _ _ _

/-- A reading with capable cgroups. -/
def capableAt (timestampNs : Int64) (available some full : ℚ) : PolicyInput :=
  { inputAt timestampNs available some full with
    cgroupCapabilities := Option.some ⟨true, true, "unified", true, true, true, true⟩ }

/-- A reading in which all five pressure signals are missing. -/
def blindAt (timestampNs : Int64) : PolicyInput :=
  { capableAt timestampNs 50 0 0 with
    psiMemorySomeAvg10 := none
    psiMemoryFullAvg10 := none
    majorFaultsPerSecond := none
    swapInPerSecond := none
    swapOutPerSecond := none }

/-- Ten seconds of pressure, then no signal at all, in a run that only observes: the engine
    stays in `pressure`, and its plans hold nothing but passive actions. -/
theorem telemetry_loss_observing :
    ((freshLog 10 [capableAt 0 11 11 0, capableAt 10000000000 11 11 0,
          blindAt 11000000000]).2.map fun x =>
        (sufficient x.input, x.before.current, x.after.current,
          x.decision.plannedActions.map (·.mutating))) =
      [(true, .watch, .watch, [false, false, false]),
        (true, .watch, .pressure, [false, false]),
        (false, .pressure, .pressure, [false, false])] ∧
    ∀ x ∈ (freshLog 10 [capableAt 0 11 11 0, capableAt 10000000000 11 11 0,
        blindAt 11000000000]).2, sufficient x.input = false → x.Retains ∧
      ∃ observe, PolicyEngine.evaluate ⟨shippedPressure 10, x.before⟩ x.input observe =
          .ok (x.decision, ⟨shippedPressure 10, x.after⟩) ∧
        (Inert x.decision.plannedActions ↔ heldBack x.before.current x.input observe = true) :=
  ⟨by decide, telemetry_loss_inert_iff (run_freshLog _ _)⟩

/-- The same readings when the engine may act: in the retained `pressure` it plans to protect
    the foreground and to limit the background. -/
theorem telemetry_loss_under_pressure :
    ∃ engine log x, Run (shippedPressure 10) engine (log ++ [x]) ∧
      sufficient x.input = false ∧ x.before.current = .pressure ∧
      ¬ Inert x.decision.plannedActions := by
  refine ⟨_, _, _, (run_freshLog 10
    [capableAt 0 11 11 0, capableAt 10000000000 11 11 0]).accept
      (show PolicyEngine.evaluate _ (blindAt 11000000000) false = .ok (_, _) from rfl),
    by decide, by decide, ?_⟩
  intro hinert
  have hprotect := hinert _ (List.mem_cons_self ..)
  revert hprotect
  decide

end Nemor.Policy
