import Nemor.Policy.Hysteresis

/-!
# Policy engine: the order of timestamps

`evaluate` refuses an input that is older than the entry into the current state. It keeps no
record of the evaluations since then. So an input older than an accepted one is refused for
sure only while nothing newer than the entry has been accepted: §3 says so of every state a
run reaches.
-/

namespace Nemor.Policy

open MachineNumbers Log

/-! ## §1 The method on the engine in place -/

/-- The method with the engine as it leaves it, also after an error. The assignment comes
    after both checks. -/
def PolicyEngine.evaluateInPlace (engine : PolicyEngine) (input : PolicyInput) (observe : Bool) :
    Except PolicyError PolicyDecision × PolicyEngine :=
  match input.validate with
  | .error e => (.error e, engine)
  | .ok _ =>
    if input.timestampNs < engine.state.enteredAtNs then (.error .timeRegression, engine)
    else
      let moved := transition engine.state input engine.config
      let engine : PolicyEngine := { engine with state := moved.state }
      let actions := planActions engine.state.current input observe
      (.ok
        { timestampNs := input.timestampNs
          currentState := engine.state.current
          previousState := engine.state.previous
          stateChanged := moved.changed
          stateSinceNs := engine.state.enteredAtNs
          candidateState := engine.state.candidate
          policyName := Policy.policyName
          ruleVersion := Policy.ruleVersion
          inputFeatures := input
          evidence := moved.evidence
          rejectedCandidates := moved.rejected
          plannedActions := actions.planned
          rejectedActions := actions.rejected
          expectedGainBytes := none
          expectedCostScore := none
          dryRun := observe
          transitionReason := engine.state.transitionReason }, engine)

/-- Its successful runs are those of `evaluate`. -/
theorem PolicyEngine.evaluateInPlace_ok_iff {engine engine' : PolicyEngine} {input : PolicyInput}
    {observe : Bool} {decision : PolicyDecision} :
    engine.evaluateInPlace input observe = (.ok decision, engine') ↔
      engine.evaluate input observe = .ok (decision, engine') := by
  unfold evaluateInPlace evaluate
  cases hv : input.validate with
  | error e => simp [bind, Except.bind]
  | ok u =>
    by_cases hlt : input.timestampNs < engine.state.enteredAtNs
    · simp [hlt, bind, Except.bind]
    · simp [hlt, bind, Except.bind, pure, Except.pure]

/-- The engine refuses the input and is left as it was. -/
def PolicyEngine.Refuses (engine : PolicyEngine) (input : PolicyInput) (observe : Bool) : Prop :=
  ∃ e, engine.evaluateInPlace input observe = (.error e, engine)

/-- There is no third outcome: what is not accepted is refused and changes nothing. -/
theorem PolicyEngine.refuses_or_accepts (engine : PolicyEngine) (input : PolicyInput)
    (observe : Bool) :
    engine.Refuses input observe ∨ ∃ out, engine.evaluate input observe = .ok out := by
  unfold Refuses evaluateInPlace evaluate
  cases hv : input.validate with
  | error e => simp
  | ok u =>
    by_cases hlt : input.timestampNs < engine.state.enteredAtNs
    · simp [hlt]
    · simp [hlt, bind, Except.bind, pure, Except.pure]

theorem PolicyEngine.Refuses.not_accepts {engine : PolicyEngine} {input : PolicyInput}
    {observe : Bool} (h : engine.Refuses input observe) :
    ¬ ∃ out, engine.evaluate input observe = .ok out := by
  intro ⟨out, hout⟩
  obtain ⟨e, he⟩ := h
  rw [evaluateInPlace_ok_iff.2 hout] at he
  simp at he

/-! ## §2 Which inputs are refused -/

/-- Validity depends on the timestamp through its sign only. -/
theorem validate_retimed {input : PolicyInput} {t : Int64} (h : input.validate = .ok ())
    (ht : 0 ≤ t.toInt) : PolicyInput.validate { input with timestampNs := t } = .ok () := by
  have hold : ¬ input.timestampNs < 0 := by
    intro hneg
    have hnn := validate_timestamp h
    have hlt := Int64.lt_iff_toInt_lt.1 hneg
    simp at hlt
    omega
  have hnew : ¬ t < 0 := by
    intro hneg
    have hlt := Int64.lt_iff_toInt_lt.1 hneg
    simp at hlt
    omega
  unfold PolicyInput.validate at h ⊢
  simp only [hold, hnew, if_false] at h ⊢
  exact h

/-- A valid input that is not older than the state is accepted. -/
theorem evaluate_accepts {engine : PolicyEngine} {input : PolicyInput} {observe : Bool}
    (hv : input.validate = .ok ())
    (ht : engine.state.enteredAtNs.toInt ≤ input.timestampNs.toInt) :
    ∃ out, engine.evaluate input observe = .ok out := by
  have hlt : ¬ input.timestampNs < engine.state.enteredAtNs := by
    rw [Int64.lt_iff_toInt_lt]
    omega
  unfold PolicyEngine.evaluate
  simp [hv, hlt, bind, Except.bind, pure, Except.pure]

/-! ## §3 Regressions -/

/-- Every input older than an accepted one is refused, and the engine is left as it was. -/
def RefusesRegressions (engine : PolicyEngine) (log : List Evaluation) : Prop :=
  ∀ input observe, (∃ x ∈ log, input.timestampNs.toInt < x.time) → engine.Refuses input observe

/-- Nothing newer than the entry into the state has been accepted. -/
def EnteredLast (s : PersistentState) (log : List Evaluation) : Prop :=
  ∀ x ∈ log, x.time ≤ max s.enteredAtNs.toInt 0

/-- The latest time the entry check stands for, as a timestamp. -/
def entryTime (s : PersistentState) : Int64 := if 0 ≤ s.enteredAtNs.toInt then s.enteredAtNs else 0

theorem toInt_entryTime (s : PersistentState) :
    (entryTime s).toInt = max s.enteredAtNs.toInt 0 := by
  unfold entryTime
  split
  · next h => omega
  · next h =>
    have hzero : (0 : Int64).toInt = 0 := rfl
    omega

theorem refusesRegressions_of_enteredLast {engine : PolicyEngine} {log : List Evaluation}
    (h : EnteredLast engine.state log) : RefusesRegressions engine log := by
  intro input observe ⟨x, hx, hlt⟩
  rcases engine.refuses_or_accepts input observe with hrefuses | ⟨⟨decision, engine'⟩, hev⟩
  · exact hrefuses
  · -- an accepted input is not older than the entry
    obtain ⟨hnn, hentered, -, -⟩ := PolicyEngine.evaluate_ok hev
    have hlast := h x hx
    omega

/-- A newer evaluation leaves a gap: its own input, moved back to the entry, is accepted. -/
theorem enteredLast_of_refusesRegressions {config : PressureConfig} {engine : PolicyEngine}
    {log : List Evaluation} (hrun : Run config engine log) (h : RefusesRegressions engine log) :
    EnteredLast engine.state log := by
  intro x hx
  by_contra hlater
  obtain ⟨observe, hev⟩ := hrun.evaluated x hx
  have hentry := toInt_entryTime engine.state
  have hvalid : PolicyInput.validate { x.input with timestampNs := entryTime engine.state } =
      .ok () := by
    apply validate_retimed (PolicyEngine.evaluate_inv hev).1
    omega
  have haccepts : ∃ out, engine.evaluate { x.input with timestampNs := entryTime engine.state }
      observe = .ok out := by
    apply evaluate_accepts hvalid
    show engine.state.enteredAtNs.toInt ≤ (entryTime engine.state).toInt
    omega
  have hrefuses := h { x.input with timestampNs := entryTime engine.state } observe
    ⟨x, hx, by show (entryTime engine.state).toInt < x.time; omega⟩
  exact hrefuses.not_accepts haccepts

/-- **Regressions.** In every state a run reaches, all inputs older than an accepted one are
    refused without a trace exactly when nothing newer than the entry into that state has been
    accepted. In a run in which every evaluation was made in such a state, no accepted
    timestamp is smaller than one before it. -/
theorem regressions_refused_iff {config : PressureConfig} {engine : PolicyEngine}
    {log : List Evaluation} (h : Run config engine log) :
    (RefusesRegressions engine log ↔ EnteredLast engine.state log) ∧
      (AllPrefixed (fun pre x => EnteredLast x.before pre) log →
        AllPrefixed (fun pre x => ∀ y ∈ pre, y.time ≤ x.time) log) := by
  constructor
  · exact ⟨enteredLast_of_refusesRegressions h, refusesRegressions_of_enteredLast⟩
  · intro hlast pre x post hlog y hy
    obtain ⟨observe, hev⟩ := h.evaluated x (by simp [hlog])
    obtain ⟨hnn, hentered, -, -⟩ := PolicyEngine.evaluate_ok hev
    have hbound := hlast pre x post hlog y hy
    show y.time ≤ x.input.timestampNs.toInt
    dsimp only at hentered
    omega

/-- After the entry into `pressure` at ten seconds no older input is accepted. -/
theorem regressions_refused_after_entry :
    (freshLog 10 [inputAt 0 11 11 0, inputAt 10000000000 11 11 0]).1.state.enteredAtNs =
        10000000000 ∧
      RefusesRegressions (freshLog 10 [inputAt 0 11 11 0, inputAt 10000000000 11 11 0]).1
        (freshLog 10 [inputAt 0 11 11 0, inputAt 10000000000 11 11 0]).2 := by
  refine ⟨by decide, (regressions_refused_iff (run_freshLog _ _)).1.2 ?_⟩
  show ∀ x ∈ _, _
  decide

/-- After a reading at ten seconds one at five is accepted, since the state was entered at
    zero. -/
theorem older_input_accepted :
    ∃ engine log input, Run (shippedPressure 30) engine log ∧
      (∃ x ∈ log, input.timestampNs.toInt < x.time) ∧
      (∃ out, engine.evaluate input true = .ok out) ∧ ¬ RefusesRegressions engine log := by
  have hrun := run_freshLog 30 [inputAt 10000000000 11 11 0]
  have holder : ∃ x ∈ (freshLog 30 [inputAt 10000000000 11 11 0]).2,
      (inputAt 5000000000 11 11 0).timestampNs.toInt < x.time := by decide
  have haccepts : ∃ out, (freshLog 30 [inputAt 10000000000 11 11 0]).1.evaluate
      (inputAt 5000000000 11 11 0) true = .ok out := ⟨_, rfl⟩
  refine ⟨_, _, _, hrun, holder, haccepts, ?_⟩
  intro h
  exact (h _ true holder).not_accepts haccepts

end Nemor.Policy
