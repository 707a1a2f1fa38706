import Nemor.Lib.MachineNumbers

/-!
# KSM: the profit controller

`controllerTransition` judges a workload once, while it is evaluated. What it has judged
stays: `profitable`, `inefficient` and `cooldown` are left only for `cooldown`, whatever the
later observations say. The run theorem says which observation sequences this does no harm
to.
-/

namespace Nemor.Ksm

open MachineNumbers

/-! ## §1 The transition -/

/-- What is known of merging for one target. -/
inductive ControllerState where
  | unknown
  | evaluating
  | profitable
  | inefficient
  | cooldown
  deriving DecidableEq

/-- What merging costs and what it saves. -/
structure ProfitEvaluation where
  ksmdMeanCpuPercent : F64
  ksmdCpuSecondsPerGibSaved : Option F64
  pagesScannedPerSavedPage : Option F64
  netPositive : Bool

/-- What the controller looks at. -/
structure ControllerInput where
  elapsedSeconds : UInt64
  fullScans : UInt64
  evaluation : ProfitEvaluation
  cpuBudgetPercent : F64
  cowRate : UInt64
  maximumCowRate : UInt64
  cooldownActive : Bool

/-- There is not enough evidence yet. -/
def ControllerInput.early (input : ControllerInput) : Bool :=
  input.elapsedSeconds < 2 || input.fullScans == 0

/-- A measurement rules the workload out. -/
def ControllerInput.excessive (input : ControllerInput) : Bool :=
  input.cpuBudgetPercent.lt input.evaluation.ksmdMeanCpuPercent ||
    input.maximumCowRate < input.cowRate || !input.evaluation.netPositive

/-- `controller_transition`. -/
def controllerTransition (state : ControllerState) (input : ControllerInput) : ControllerState :=
  if input.cooldownActive then .cooldown
  else
    match state with
    | .unknown => .evaluating
    | .evaluating =>
      if input.early then .evaluating
      else if input.excessive then .inefficient
      else .profitable
    | other => other

/-! ## §2 Runs -/

/-- One observation with the states around it. -/
structure Step where
  before : ControllerState
  input : ControllerInput
  after : ControllerState

/-- The steps of the controller on a sequence of observations. -/
def steps : ControllerState → List ControllerInput → List Step
  | _, [] => []
  | state, input :: inputs =>
    ⟨state, input, controllerTransition state input⟩ ::
      steps (controllerTransition state input) inputs

/-- The steps of a run are transitions. -/
theorem after_eq_of_mem_steps {state : ControllerState} {inputs : List ControllerInput} {x : Step}
    (h : x ∈ steps state inputs) : x.after = controllerTransition x.before x.input := by
  induction inputs generalizing state with
  | nil => simp [steps] at h
  | cons input inputs ih =>
    rcases List.mem_cons.1 h with rfl | h
    · rfl
    · exact ih h

/-! ## §3 What a step promises -/

/-- Scanner CPU, COW rate and profit are within the configured bounds. -/
def ControllerInput.withinBounds (input : ControllerInput) : Bool :=
  input.evaluation.ksmdMeanCpuPercent.le input.cpuBudgetPercent &&
    decide (input.cowRate ≤ input.maximumCowRate) && input.evaluation.netPositive

/-- A step into `profitable` has measurements within bounds, and a step made in `cooldown`
    when the cooldown is over leaves it. -/
structure Step.Faithful (x : Step) : Prop where
  profitable : x.after = .profitable → x.input.withinBounds = true
  released : x.before = .cooldown → x.input.cooldownActive = false → x.after ≠ .cooldown

/-- The scanner CPU and its budget can be compared. -/
def ControllerInput.comparable (input : ControllerInput) : Bool :=
  input.evaluation.ksmdMeanCpuPercent != .nan && input.cpuBudgetPercent != .nan

/-- The observations that the controller handles as promised in a given state. A judged state
    is never judged again, so there the measurements have to be good by themselves. -/
def harmless (state : ControllerState) (input : ControllerInput) : Bool :=
  input.cooldownActive ||
    match state with
    | .unknown | .inefficient => true
    | .evaluating => input.early || input.excessive || input.comparable
    | .profitable => input.withinBounds
    | .cooldown => false

theorem le_eq_not_lt {a b : F64} (ha : a ≠ .nan) (hb : b ≠ .nan) : a.le b = !b.lt a := by
  cases a <;> cases b <;> simp_all [F64.le, F64.lt, ← not_le]

theorem le_ne_nan {a b : F64} (h : a.le b = true) : a ≠ .nan ∧ b ≠ .nan := by
  cases a <;> cases b <;> simp_all [F64.le]

/-- Measurements that rule nothing out are within bounds if they can be compared at all. -/
theorem withinBounds_iff {input : ControllerInput} (h : input.excessive = false) :
    input.withinBounds = true ↔ input.comparable = true := by
  simp only [ControllerInput.excessive, Bool.or_eq_false_iff, decide_eq_false_iff_not,
    Bool.not_eq_false'] at h
  obtain ⟨⟨hcpu, hcow⟩, hprofit⟩ := h
  simp only [ControllerInput.withinBounds, ControllerInput.comparable, Bool.and_eq_true,
    decide_eq_true_eq, bne_iff_ne, hprofit, and_true]
  constructor
  · intro hwithin
    exact le_ne_nan hwithin.1
  · intro hcomparable
    refine ⟨?_, UInt64.not_lt.1 hcow⟩
    rw [le_eq_not_lt hcomparable.1 hcomparable.2, hcpu]
    rfl

/-- One step keeps its promise exactly on harmless observations. -/
theorem faithful_iff_harmless (state : ControllerState) (input : ControllerInput) :
    (Step.mk state input (controllerTransition state input)).Faithful ↔
      harmless state input = true := by
  by_cases hcool : input.cooldownActive = true
  · simp only [controllerTransition, harmless, hcool, if_true, Bool.true_or, iff_true]
    exact ⟨by simp, by simp [hcool]⟩
  · have hcool' : input.cooldownActive = false := by simpa using hcool
    cases state with
    | unknown =>
      simp only [controllerTransition, harmless, hcool', Bool.false_or, iff_true]
      exact ⟨by simp, by simp⟩
    | inefficient =>
      simp only [controllerTransition, harmless, hcool', Bool.false_or, iff_true]
      exact ⟨by simp, by simp⟩
    | cooldown =>
      -- the absorbing state: there is no way out
      simp only [controllerTransition, harmless, hcool', Bool.false_or]
      refine iff_of_false ?_ (by simp)
      intro hfaithful
      exact hfaithful.released rfl hcool' (by simp)
    | profitable =>
      simp only [controllerTransition, harmless, hcool', Bool.false_or]
      constructor
      · intro hfaithful
        exact hfaithful.profitable (by simp)
      · intro hwithin
        exact ⟨fun _ => hwithin, by simp⟩
    | evaluating =>
      simp only [controllerTransition, harmless, hcool', Bool.false_or]
      by_cases hearly : input.early = true
      · simp only [hearly, if_true, Bool.true_or, iff_true]
        exact ⟨by simp, by simp⟩
      · by_cases hexcess : input.excessive = true
        · simp only [hearly, hexcess, if_true, Bool.or_true, Bool.true_or, iff_true]
          exact ⟨by simp, by simp⟩
        · have hexcess' : input.excessive = false := by simpa using hexcess
          simp only [hearly, hexcess', Bool.false_or, ← withinBounds_iff hexcess']
          constructor
          · intro hfaithful
            exact hfaithful.profitable (by simp)
          · intro hwithin
            exact ⟨fun _ => by simpa using hwithin, by simp⟩

/-- **Controller runs.** On every sequence of observations, from every state, all steps keep
    their promises exactly when every observation is harmless in the state it meets. -/
theorem controller_faithful_iff (state : ControllerState) (inputs : List ControllerInput) :
    (∀ x ∈ steps state inputs, x.Faithful) ↔
      ∀ x ∈ steps state inputs, harmless x.before x.input = true := by
  constructor
  · intro h x hx
    have hstep := after_eq_of_mem_steps hx
    obtain ⟨before, input, after⟩ := x
    dsimp only at hstep
    subst hstep
    exact (faithful_iff_harmless before input).1 (h _ hx)
  · intro h x hx
    have hstep := after_eq_of_mem_steps hx
    obtain ⟨before, input, after⟩ := x
    dsimp only at hstep
    subst hstep
    exact (faithful_iff_harmless before input).2 (h _ hx)

/-- Four seconds and two scans with the given CPU share, under a budget of one percent. -/
def observation (cpu : ℚ) (cooldownActive : Bool) : ControllerInput where
  elapsedSeconds := 4
  fullScans := 2
  evaluation := ⟨.finite cpu, none, none, true⟩
  cpuBudgetPercent := .finite 1
  cowRate := 0
  maximumCowRate := 64
  cooldownActive := cooldownActive

/-- A workload that was judged profitable keeps that verdict at twice its CPU budget, and a
    controller that was cooled down once is never released. -/
theorem judged_states_stay :
    ∃ inputs : List ControllerInput,
      (∃ x ∈ steps .unknown inputs, x.after = .profitable ∧ x.input.withinBounds = false) ∧
      (∃ x ∈ steps .unknown inputs, x.before = .cooldown ∧ x.input.cooldownActive = false ∧
        x.after = .cooldown) ∧
      ¬ ∀ x ∈ steps .unknown inputs, x.Faithful := by
  have hprofitable : ∃ x ∈ steps .unknown [observation 1 false, observation 1 false,
      observation 2 false, observation 1 true, observation 1 false],
        x.after = .profitable ∧ x.input.withinBounds = false := by decide
  refine ⟨_, hprofitable, by decide, ?_⟩
  intro h
  obtain ⟨x, hx, hafter, hbounds⟩ := hprofitable
  rw [(h x hx).profitable hafter] at hbounds
  cases hbounds

end Nemor.Ksm
