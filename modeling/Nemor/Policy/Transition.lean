import Nemor.Policy.Input

/-!
# Policy engine: the transition function

`targetState` reads one input against the thresholds. `transition` moves the persistent
state: a target that differs from the current state becomes a *candidate* and is committed
once it has been wanted for the applicable hold, or at once for a multi-signal emergency.
-/

namespace Nemor.Policy

open MachineNumbers

/-! ## §1 Observed target -/

/-- A signal with its value and its threshold. -/
structure PolicyEvidence where
  signal : String
  value : Option F64
  threshold : Option F64
  relation : String
  available : Bool

/-- A state that is not entered yet, and why. -/
structure CandidateRejection where
  candidate : PressureState
  reason : String
  deriving DecidableEq

/-- A piece of evidence. -/
def ev (signal : String) (value threshold : Option F64) : PolicyEvidence where
  signal := signal
  value := value
  threshold := threshold
  relation := "observed_against_configured_threshold"
  available := value.isSome

/-- A measured signal at or above its threshold; a missing one never is. -/
def atLeast (value : Option F64) (threshold : F64) : Bool :=
  value.any fun v => threshold.le v

/-- Number of signals at or above their thresholds. -/
def corroborating (input : PolicyInput) (config : PressureConfig) : ℕ :=
  ([atLeast input.psiMemorySomeAvg10 config.psiSomeAvg10Threshold,
    atLeast input.psiMemoryFullAvg10 config.psiFullAvg10Threshold,
    atLeast input.majorFaultsPerSecond config.majorFaultRateThreshold,
    atLeast input.swapInPerSecond config.swapInRateThreshold,
    atLeast input.swapOutPerSecond config.swapOutRateThreshold].filter fun value => value).length

/-- Some pressure signal was measured. -/
def sufficient (input : PolicyInput) : Bool :=
  input.psiMemorySomeAvg10.isSome || input.psiMemoryFullAvg10.isSome ||
    input.majorFaultsPerSecond.isSome || input.swapInPerSecond.isSome ||
    input.swapOutPerSecond.isSome

/-- The evidence of an input. -/
def targetEvidence (input : PolicyInput) (config : PressureConfig) : List PolicyEvidence :=
  [ev "mem_available_percent" (some input.availablePercent)
      (some (.ofU8 config.watchAvailablePercent)),
    ev "psi_memory_some_avg10" input.psiMemorySomeAvg10 (some config.psiSomeAvg10Threshold),
    ev "psi_memory_full_avg10" input.psiMemoryFullAvg10 (some config.psiFullAvg10Threshold),
    ev "major_faults_per_second" input.majorFaultsPerSecond
      (some config.majorFaultRateThreshold),
    ev "swap_in_per_second" input.swapInPerSecond (some config.swapInRateThreshold),
    ev "swap_out_per_second" input.swapOutPerSecond (some config.swapOutRateThreshold)]

/-- The state one input asks for, before the recovery path is imposed on it. -/
def observedTarget (input : PolicyInput) (config : PressureConfig) : PressureState :=
  let available := input.availablePercent
  let n := corroborating input config
  let fullEmergency := atLeast input.psiMemoryFullAvg10 config.emergencyPsiFullAvg10Threshold
  if available.le (.ofU8 config.emergencyAvailablePercent) && (fullEmergency || 2 ≤ n) then
    .emergency
  else if available.le (.ofU8 config.criticalAvailablePercent) && 2 ≤ n then .critical
  else if available.le (.ofU8 config.pressureAvailablePercent) && 1 ≤ n then .pressure
  else if available.le (.ofU8 config.watchAvailablePercent) || 1 ≤ n then .watch
  else .normal

/-- The state that an input speaks for, with the evidence and whether it is enough. -/
def targetState (input : PolicyInput) (config : PressureConfig) :
    PressureState × List PolicyEvidence × Bool :=
  (observedTarget input config, targetEvidence input config, sufficient input)

/-- No input asks for `stabilizing`: the state exists only on the recovery path. -/
theorem observedTarget_ne_stabilizing (input : PolicyInput) (config : PressureConfig) :
    observedTarget input config ≠ .stabilizing := by
  unfold observedTarget
  dsimp only
  split_ifs <;> simp

/-! ## §2 Recovery path and holds -/

/-- A pressure state is only left downwards through `stabilizing`. -/
def recoveryTarget (current observed : PressureState) : PressureState :=
  match current with
  | .pressure | .critical | .emergency => if observed < current then .stabilizing else observed
  | .stabilizing =>
    if observed = .normal then .normal
    else if .watch < observed then observed
    else .stabilizing
  | .normal | .watch => observed

/-- The change leads back. -/
def isRecovery (current desired : PressureState) : Bool :=
  desired == .stabilizing || (current == .stabilizing && desired == .normal)

/-- Whole seconds as nanoseconds; what does not fit becomes the largest `i64`. -/
def secondsNs (seconds : UInt64) : Int64 :=
  (tryFromNat (seconds.toNat * 1000000000)).getD Int64.maxValue

theorem toInt_secondsNs (seconds : UInt64) :
    (secondsNs seconds).toInt = min ((seconds.toNat * 1000000000 : ℕ) : ℤ) (2 ^ 63 - 1) :=
  toInt_tryFromNat_getD _

/-- How long a target has to last. Recovery takes longer. -/
def holdSeconds (config : PressureConfig) (current desired : PressureState) : UInt64 :=
  if isRecovery current desired then config.recoveryHoldSeconds else config.stateHoldSeconds

/-- The one move that needs no hold. -/
def immediate (input : PolicyInput) (config : PressureConfig) (desired : PressureState) : Bool :=
  desired == .emergency &&
    input.availablePercent.le (.ofU8 config.emergencyAvailablePercent) &&
    atLeast input.psiMemoryFullAvg10 config.emergencyPsiFullAvg10Threshold

/-- When the candidate that is wanted now was first wanted. -/
def candidateSince (previous : PersistentState) (input : PolicyInput) (desired : PressureState) :
    Int64 :=
  if previous.candidate = some desired then previous.candidateSinceNs.getD input.timestampNs
  else input.timestampNs

/-! ## §3 Transition -/

/-- What a transition returns. -/
structure TransitionResult where
  state : PersistentState
  changed : Bool
  evidence : List PolicyEvidence
  rejected : List CandidateRejection

/-- Keep the state, drop the candidate. -/
def PersistentState.settled (s : PersistentState) (reason : String) : PersistentState :=
  { s with candidate := none, candidateSinceNs := none, transitionReason := reason }

/-- Move to `desired` at time `now`. -/
def PersistentState.committed (s : PersistentState) (desired : PressureState) (now : Int64)
    (reason : String) : PersistentState where
  current := desired
  previous := some s.current
  enteredAtNs := now
  candidate := none
  candidateSinceNs := none
  lastTransitionNs := some now
  transitionReason := reason

/-- Keep the state, remember what is wanted and since when. -/
def PersistentState.holding (s : PersistentState) (desired : PressureState) (since : Int64) :
    PersistentState :=
  { s with
    candidate := some desired
    candidateSinceNs := some since
    transitionReason := "hysteresis_hold_in_progress" }

/-- `transition`. -/
def transition (previous : PersistentState) (input : PolicyInput) (config : PressureConfig) :
    TransitionResult :=
  let (target, evidence, sufficient) := targetState input config
  if !sufficient then
    -- the state stays, the candidate is dropped
    { state := previous.settled "insufficient_or_unavailable_telemetry"
      changed := false, evidence := evidence, rejected := [] }
  else
    let desired := recoveryTarget previous.current target
    if desired = previous.current then
      { state := previous.settled "state_evidence_stable"
        changed := false, evidence := evidence, rejected := [] }
    else
      let holdSeconds := holdSeconds config previous.current desired
      let since := candidateSince previous input desired
      -- a clock that went back gives a negative span, which is no hold
      let held : Bool := secondsNs holdSeconds ≤ saturatingSub input.timestampNs since
      if immediate input config desired || held then
        { state := previous.committed desired input.timestampNs
            (if immediate input config desired then "immediate_multi_signal_emergency"
              else "candidate_hold_completed")
          changed := true, evidence := evidence, rejected := [] }
      else
        { state := previous.holding desired since
          changed := false
          evidence := evidence
          rejected := [⟨desired, "hold requires " ++ toString holdSeconds ++ "s"⟩] }

/-- What the engine in `s` wants after `input`. -/
def desired (s : PersistentState) (input : PolicyInput) (config : PressureConfig) :
    PressureState :=
  recoveryTarget s.current (observedTarget input config)

/-- What a transition from `s` can lead to: settle where it is, commit what it wants, or
    hold it as the candidate. -/
inductive Moves (config : PressureConfig) (s : PersistentState) (input : PolicyInput) :
    PersistentState → Bool → Prop where
  | settle (reason : String)
      (hstay : sufficient input = false ∨ desired s input config = s.current) :
      Moves config s input (s.settled reason) false
  | commit (reason : String) (hsuff : sufficient input = true)
      (hne : desired s input config ≠ s.current)
      (hheld : immediate input config (desired s input config) = true ∨
        secondsNs (holdSeconds config s.current (desired s input config)) ≤
          saturatingSub input.timestampNs (candidateSince s input (desired s input config))) :
      Moves config s input (s.committed (desired s input config) input.timestampNs reason) true
  | hold (hsuff : sufficient input = true) (hne : desired s input config ≠ s.current) :
      Moves config s input (s.holding (desired s input config)
        (candidateSince s input (desired s input config))) false

/-- **Everything a transition can do.** -/
theorem transition_moves (s : PersistentState) (input : PolicyInput) (config : PressureConfig) :
    Moves config s input (transition s input config).state
      (transition s input config).changed := by
  -- the branches in the order of the source
  generalize hr : transition s input config = r
  unfold transition at hr
  split at hr
  next target evidence suff ht =>
  obtain ⟨rfl, rfl, rfl⟩ : observedTarget input config = target ∧
      targetEvidence input config = evidence ∧ sufficient input = suff := by
    simpa [targetState] using ht
  dsimp only at hr
  split at hr
  · next hsuff =>
    subst hr
    exact .settle _ (.inl (by simpa using hsuff))
  · next hsuff =>
    have hsuff' : sufficient input = true := by simpa using hsuff
    split at hr
    · next hsame =>
      subst hr
      exact .settle _ (.inr hsame)
    · next hne =>
      split at hr
      · next hheld =>
        subst hr
        exact .commit _ hsuff' hne (by simpa [desired] using hheld)
      · next =>
        subst hr
        exact .hold hsuff' hne

/-- A wanted move that is immediate or has been held is made. -/
theorem transition_commits {s : PersistentState} {input : PolicyInput} {config : PressureConfig}
    (hsuff : sufficient input = true) (hne : desired s input config ≠ s.current)
    (hheld : immediate input config (desired s input config) = true ∨
      secondsNs (holdSeconds config s.current (desired s input config)) ≤
        saturatingSub input.timestampNs (candidateSince s input (desired s input config))) :
    (transition s input config).state.current = desired s input config := by
  unfold desired at hne hheld
  simp only [transition, targetState, hsuff, hne, Bool.not_true, Bool.false_eq_true, if_false,
    Bool.or_eq_true, decide_eq_true_eq, hheld, if_true]
  rfl

end Nemor.Policy
