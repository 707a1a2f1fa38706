import Nemor.Policy.Transition

/-!
# Policy engine: planning and evaluation

`planActions` turns a state into intents and moves the mutating ones to the rejections
whenever a guard forbids them. `PolicyEngine.evaluate` is the public step: validate, refuse
time regressions, transition, plan.
-/

namespace Nemor.Policy

open MachineNumbers

/-! ## §1 Actions -/

/-- The profiles of zram that a plan may ask for. -/
inductive ZramProfileIntent where
  | safe
  | gaming
  | capacity
  deriving DecidableEq

/-- The backends of swap that a plan may ask for. -/
inductive MemoryBackendIntent where
  | zram
  | zswapNvme
  deriving DecidableEq

/-- What a plan may do. -/
inductive ActionKind where
  | noAction
  | prepareForegroundProtection
  | protectForeground
  | applyBackgroundSoftLimit
  | rollbackCgroupMeasures
  | selectZramProfile (profile : ZramProfileIntent)
  | selectMemoryBackend (backend : MemoryBackendIntent)
  deriving DecidableEq

/-- The debug rendering that becomes the `requested` text of a rejection. -/
def ActionKind.debug : ActionKind → String
  | .noAction => "NoAction"
  | .prepareForegroundProtection => "PrepareForegroundProtection"
  | .protectForeground => "ProtectForeground"
  | .applyBackgroundSoftLimit => "ApplyBackgroundSoftLimit"
  | .rollbackCgroupMeasures => "RollbackCgroupMeasures"
  | .selectZramProfile .safe => "SelectZramProfile \x7b profile: Safe \x7d"
  | .selectZramProfile .gaming => "SelectZramProfile \x7b profile: Gaming \x7d"
  | .selectZramProfile .capacity => "SelectZramProfile \x7b profile: Capacity \x7d"
  | .selectMemoryBackend .zram => "SelectMemoryBackend \x7b backend: Zram \x7d"
  | .selectMemoryBackend .zswapNvme => "SelectMemoryBackend \x7b backend: ZswapNvme \x7d"

/-- An action, and whether it changes the host. -/
structure PlannedAction where
  kind : ActionKind
  reason : String
  mutating : Bool
  actuatorPlan : Option Actuator.CgroupPlan
  deriving DecidableEq

/-- An action that was considered, and why it is not planned. -/
structure RejectedAction where
  requested : String
  reasonCode : String
  explanation : String
  deriving DecidableEq

/-- What an evaluation plans. -/
structure ActionPlan where
  planned : List PlannedAction
  rejected : List RejectedAction
  deriving DecidableEq

/-- An action without a profile. -/
def action (kind : ActionKind) (reason : String) (mutating : Bool) : PlannedAction :=
  ⟨kind, reason, mutating, none⟩

/-- Select a profile of zram, which changes nothing by itself. -/
def zramAction (profile : ZramProfileIntent) (reason : String) : PlannedAction :=
  action (.selectZramProfile profile) reason false

/-- Select a backend, which changes nothing by itself. -/
def tieringAction (backend : MemoryBackendIntent) (reason : String) : PlannedAction :=
  action (.selectMemoryBackend backend) reason false

/-! ## §2 Planning -/

/-- Keep the non-mutating actions; every mutating one becomes a rejection with `code`. -/
def rejectMutations (planned : List PlannedAction) (rejected : List RejectedAction)
    (code : String) : ActionPlan where
  planned := planned.filter fun item => !item.mutating
  rejected := rejected ++ (planned.filter fun item => item.mutating).map fun item =>
    ⟨item.kind.debug, code, "mutation stopped before the actuator apply boundary"⟩

/-- The host can protect a group. -/
def capabilitiesReady (input : PolicyInput) : Bool :=
  input.cgroupCapabilities.any fun capabilities => capabilities.mutationReady

/-- The plan for the three pressure states, before the guards. -/
def severeActions (state : PressureState) (input : PolicyInput) : List PlannedAction :=
  [action .protectForeground "preserve_confirmed_foreground_and_protected_workloads" true,
    zramAction
      (if input.gaming then .gaming else if state = .pressure then .capacity else .safe)
      (if state = .pressure then "evaluate_capacity_without_bypassing_zram_guards"
        else "critical_states_block_zram_reinitialization"),
    tieringAction (if input.gaming || state ≠ .pressure then .zram else .zswapNvme)
      "tiering_intent_requires_backend_safety_validation",
    action .applyBackgroundSoftLimit
      "limit_only_explicitly_allow_listed_background_workloads" true]

/-- The plan of a state. -/
def stateActions (state : PressureState) (input : PolicyInput) (observe : Bool) : ActionPlan :=
  match state with
  | .normal =>
    ⟨[action .noAction "system_stable" false,
      zramAction .safe "preserve_current_zram",
      tieringAction .zram "no_tiering_benchmark_evidence_preserves_zram"], []⟩
  | .watch =>
    ⟨[action .prepareForegroundProtection "early_pressure_signals" false,
      zramAction (if input.gaming then .gaming else .safe) "analyze_zram_without_risky_change",
      tieringAction .zram "watch_state_preserves_current_backend"], []⟩
  | .pressure | .critical | .emergency =>
    let planned := severeActions state input
    -- the first reason that applies is given for every mutating action
    if 0 < input.recentSafetyEvents then
      rejectMutations planned [] "recent_cgroup_safety_event"
    else if !capabilitiesReady input then
      rejectMutations planned [] "cgroup_capability_unavailable"
    else if observe then rejectMutations planned [] "observe_mode"
    else if !input.actuatorAvailable then rejectMutations planned [] "actuator_unavailable"
    else ⟨planned, []⟩
  | .stabilizing =>
    let planned :=
      [action .rollbackCgroupMeasures "conservative_recovery_after_pressure" true,
        zramAction .safe "hold_zram_configuration_during_stabilization",
        tieringAction .zram "stabilizing_preserves_low_write_backend"]
    -- a rollback asks neither for the capabilities nor for the actuator
    if 0 < input.recentSafetyEvents then
      rejectMutations planned [] "recent_cgroup_safety_event"
    else if observe then rejectMutations planned [] "observe_mode"
    else ⟨planned, []⟩

/-- The plan of a state, with what unknown processes exclude. -/
def planActions (state : PressureState) (input : PolicyInput) (observe : Bool) : ActionPlan :=
  let plan := stateActions state input observe
  if 0 < input.unknownProcesses then
    { plan with
      rejected := plan.rejected ++
        [⟨"target_unknown_processes", "unknown_do_not_touch",
          "unknown processes are never background targets"⟩] }
  else plan

/-! ## §3 Evaluation -/

/-- `POLICY_NAME`. -/
def policyName : String := "nemor-policy-v1"

/-- `RULE_VERSION`. -/
def ruleVersion : String := "pressure-rules-v1"

/-- What an evaluation returns. -/
structure PolicyDecision where
  timestampNs : Int64
  currentState : PressureState
  previousState : Option PressureState
  stateChanged : Bool
  stateSinceNs : Int64
  candidateState : Option PressureState
  policyName : String
  ruleVersion : String
  inputFeatures : PolicyInput
  evidence : List PolicyEvidence
  rejectedCandidates : List CandidateRejection
  plannedActions : List PlannedAction
  rejectedActions : List RejectedAction
  expectedGainBytes : Option UInt64
  expectedCostScore : Option F64
  dryRun : Bool
  transitionReason : String

/-- The engine between two evaluations. -/
structure PolicyEngine where
  config : PressureConfig
  state : PersistentState

namespace PolicyEngine

/-- An engine that has evaluated nothing. -/
def new (config : PressureConfig) (timestampNs : Int64) : PolicyEngine :=
  ⟨config, .conservative timestampNs⟩

/-- The public step. An error leaves the engine as it was, so only the successful case
    returns a new one. -/
def evaluate (engine : PolicyEngine) (input : PolicyInput) (observe : Bool) :
    Except PolicyError (PolicyDecision × PolicyEngine) := do
  input.validate
  if input.timestampNs < engine.state.enteredAtNs then .error .timeRegression
  let moved := transition engine.state input engine.config
  let state := moved.state
  let actions := planActions state.current input observe
  return (
    { timestampNs := input.timestampNs
      currentState := state.current
      previousState := state.previous
      stateChanged := moved.changed
      stateSinceNs := state.enteredAtNs
      candidateState := state.candidate
      policyName := Policy.policyName
      ruleVersion := Policy.ruleVersion
      inputFeatures := input
      evidence := moved.evidence
      rejectedCandidates := moved.rejected
      plannedActions := actions.planned
      rejectedActions := actions.rejected
      expectedGainBytes := none
      expectedCostScore := none
      dryRun := observe
      transitionReason := state.transitionReason },
    { engine with state := state })

/-- Everything an accepted evaluation says about its input, its decision and the engine it
    leaves. -/
theorem evaluate_inv {engine engine' : PolicyEngine} {input : PolicyInput} {observe : Bool}
    {decision : PolicyDecision} (h : engine.evaluate input observe = .ok (decision, engine')) :
    input.validate = .ok () ∧
      ¬ input.timestampNs < engine.state.enteredAtNs ∧
      engine' = { engine with state := (transition engine.state input engine.config).state } ∧
      decision.stateChanged = (transition engine.state input engine.config).changed ∧
      decision.plannedActions = (planActions engine'.state.current input observe).planned ∧
      decision.dryRun = observe := by
  unfold evaluate at h
  cases hv : input.validate with
  | error e => simp [hv, bind, Except.bind] at h
  | ok u =>
    by_cases hlt : input.timestampNs < engine.state.enteredAtNs
    · simp [hv, hlt, bind, Except.bind] at h
    · simp only [hv, hlt, bind, Except.bind, pure, Except.pure, if_false, Except.ok.injEq,
        Prod.mk.injEq] at h
      obtain ⟨rfl, rfl⟩ := h
      exact ⟨rfl, hlt, rfl, rfl, rfl, rfl⟩

/-- What an accepted evaluation does: the input was valid and not older than the state, and
    the engine moved by one transition. -/
theorem evaluate_ok {engine engine' : PolicyEngine} {input : PolicyInput} {observe : Bool}
    {decision : PolicyDecision} (h : engine.evaluate input observe = .ok (decision, engine')) :
    0 ≤ input.timestampNs.toInt ∧
      engine.state.enteredAtNs.toInt ≤ input.timestampNs.toInt ∧
      engine'.config = engine.config ∧
      Moves engine.config engine.state input engine'.state decision.stateChanged := by
  obtain ⟨hv, hlt, rfl, hchanged, -, -⟩ := evaluate_inv h
  have hle := Int64.lt_iff_toInt_lt.not.1 hlt
  refine ⟨validate_timestamp hv, by omega, rfl, ?_⟩
  rw [hchanged]
  exact transition_moves _ _ _

end PolicyEngine

end Nemor.Policy
