import Nemor.Lib.Effectful
import Nemor.Lib.Log
import Nemor.Performance.Evidence

/-!
# Executing a fixed-load experiment

The runs of a plan are executed in their order by a backend: a preflight, the run, a check that the
host is restored and a cooldown. A preflight that fails or does not match, a run that cannot be
executed and a run that is not safe end the experiment.

The backend is not modelled: an execution is a program over its four calls, and the backend may
answer them in any way. What is reported is compared with the log of the calls and their answers.

- §1: the backend
- §2: the executor
- §3: what the log of an execution says
- §4: the account that an outcome gives of its log
- §5: one order
- §6: whole executions
-/

namespace Nemor.Performance

open Capacity Effectful

/-! ## §1 The backend -/

/-- What is seen of the host before a run. -/
structure RunPreflightObservation where
  orderIndex : ℕ
  materialEnvironmentHash : String
  deriving DecidableEq

/-- The runs of an experiment, and where it has stopped. -/
structure ExperimentOutcome where
  plan : ExperimentPlan
  runs : List RunEvidence
  abortedAfterOrder : Option ℕ
  capacityGainPercent : EvaluationState
  executionError : Option String

/-- The methods of a backend. Each of them is also given the plan, which is a part of the outcome
    in hand. -/
inductive ExperimentCall where
  | preflightRun (planned : PlannedRun)
  | executeRun (planned : PlannedRun) (preflight : RunPreflightObservation)
  | verifyBetweenRunRestore (run : RunEvidence)
  | cooldown (milliseconds : UInt64)

/-- What a call is answered with. -/
abbrev ExperimentCall.Reply : ExperimentCall → Type
  | .preflightRun _ => Except String RunPreflightObservation
  | .executeRun _ _ => Except String RunEvidence
  | .verifyBetweenRunRestore _ | .cooldown _ => Except String Unit

/-- The calls with their replies. -/
abbrev experiment : Iface where
  Op := ExperimentCall
  Reply := ExperimentCall.Reply

/-! ## §2 The executor -/

/-- The same planned run in another state. -/
def PlannedRun.inState (state : PlannedRunState) (planned : PlannedRun) : PlannedRun :=
  { planned with state := state }

namespace ExperimentOutcome

variable (outcome : ExperimentOutcome)

/-- The outcome with another plan of runs. -/
def withOrder (order : List PlannedRun) : ExperimentOutcome :=
  { outcome with plan := { outcome.plan with randomizedOrder := order } }

/-- An experiment that ends before the run of an order was executed. -/
def aborted (order : ℕ) (error : String) : ExperimentOutcome :=
  { outcome.withOrder (outcome.plan.randomizedOrder.map fun pending =>
      -- by order index, and the run that could not be executed is given up with the later ones
      if order ≤ pending.orderIndex then pending.inState .notExecutedAfterAbort else pending) with
    executionError := some error
    abortedAfterOrder := some order }

/-- The state of an executed run is entered into the plan. -/
def storeState (run : RunEvidence) : ExperimentOutcome :=
  outcome.withOrder
    (outcome.plan.randomizedOrder.modify run.planned.orderIndex (.inState run.planned.state))

/-- Put a run into the outcome. A safety failure ends the experiment. -/
def recordRun (run : RunEvidence) : ExperimentOutcome :=
  if run.safetyFailure = true then
    { outcome.withOrder (outcome.plan.randomizedOrder.mapIdx fun i planned =>
        -- by position, from the next run on
        if run.planned.orderIndex + 1 ≤ i then planned.inState .notExecutedAfterAbort
        else planned) with
      abortedAfterOrder := some run.planned.orderIndex
      runs := outcome.runs ++ [run] }
  else { outcome with runs := outcome.runs ++ [run] }

end ExperimentOutcome

namespace RunEvidence

/-- The evidence with the result of the between-run restore check. -/
def withRestore (run : RunEvidence) : Except String Unit → RunEvidence
  | .ok _ => run
  | .error error =>
    { run with
      valid := false
      safetyFailure := true
      restorePassed := false
      invalidReason := some ("between_run_restore_failed: " ++ error) }

/-- The state that the run is recorded with. -/
def verdict (run : RunEvidence) : PlannedRunState :=
  if run.safetyFailure = true then .safetyAbort
  else if run.valid = true then .completed
  else .invalid

/-- The run as it ends. -/
def closed (run : RunEvidence) : RunEvidence :=
  { run with planned := run.planned.inState run.verdict }

end RunEvidence

section Executor

variable (digest : WorkloadKey → String)

/-- The evidence with the result of its own checks. -/
def RunEvidence.checked (run : RunEvidence) (plan : ExperimentPlan) : Except Fault RunEvidence :=
  match run.validate digest plan with
  | .ok _ => .ok run
  | .error (.error text) => .ok { run with valid := false, invalidReason := some text }
  -- a panic is not an error text: the `match` on the result is not reached
  | .error .divisionByZero => .error .divisionByZero

/-- The executor, which may also panic. -/
abbrev Execution := Act experiment ExperimentOutcome Fault

/-- The experiment ends here. -/
def abort (planned : PlannedRun) (error : String) : Execution Bool := do
  Act.assign fun outcome => outcome.aborted planned.orderIndex error
  pure false

/-- From the evidence of a run to its record. `true` means that the experiment goes on. -/
def settleRun (evidence : RunEvidence) : Execution Bool := do
  let outcome ← Act.current
  let run ← Act.ofExcept (evidence.checked digest outcome.plan)
  -- asked for after invalid evidence too
  let restored ← Act.request (I := experiment) (.verifyBetweenRunRestore run)
  let run := (run.withRestore restored).closed
  Act.assign fun outcome => (outcome.storeState run).recordRun run
  if run.safetyFailure = true then
    pure false
  else do
    -- an error of the cooldown is propagated, the only one after the eligibility check
    Act.perform (I := experiment) (.cooldown outcome.plan.profile.cooldownMs)
      (Except.mapError Fault.error)
    pure true

/-- One run. -/
def executeOrder (planned : PlannedRun) : Execution Bool := do
  let observed ← Act.request (I := experiment) (.preflightRun planned)
  let outcome ← Act.current
  match observed with
  | .error error => abort planned error
  | .ok observation =>
    if observation.orderIndex = planned.orderIndex ∧
        observation.materialEnvironmentHash = outcome.plan.materialEnvironmentHash then do
      let executed ← Act.request (I := experiment) (.executeRun planned observation)
      match executed with
      | .error error => abort planned error
      | .ok evidence => settleRun digest evidence
    else
      abort planned ("preflight observation does not match order " ++
        toString planned.orderIndex ++ " or material environment")

/-- The loop over the runs. -/
def executeOrders : List PlannedRun → Execution Unit
  | [] => pure ()
  | planned :: rest => do
    if ← executeOrder digest planned then
      executeOrders rest
    else
      pure ()

/-- Before the first run. -/
def ExperimentOutcome.start (plan : ExperimentPlan) : ExperimentOutcome where
  plan := plan
  runs := []
  abortedAfterOrder := none
  capacityGainPercent := .notEvaluated
  executionError := none

/-- The execution of a plan, which returns the outcome or the error. -/
def executePlannedExperiment (plan : ExperimentPlan) :
    Prog experiment ExperimentOutcome (Except Fault ExperimentOutcome) :=
  match requireLiveEligibility plan with
  | .error text => .pure (.error (.error text))
  | .ok _ =>
    (executeOrders digest plan.randomizedOrder (.start plan)).bind fun out =>
      .pure (out.1.map fun _ => out.2)

end Executor

/-! ## §3 What the log of an execution says -/

/-- The calls of an execution, with their answers. -/
abbrev CallLog := List (Event experiment)

/-- Evidence is about the run that was asked for, and a cooldown does not fail. -/
def Proper : Event experiment → Prop
  | ⟨.executeRun planned _, .ok evidence⟩ => evidence.planned = planned
  | ⟨.cooldown _, reply⟩ => reply = .ok ()
  | _ => True

/-- A backend that answers in any proper way. -/
def anyBackend : Env experiment ExperimentOutcome CallLog :=
  fun _ log op reply log' => Proper ⟨op, reply⟩ ∧ log' = log ++ [⟨op, reply⟩]

/-- The answer ends the experiment at the run of this order. -/
def FailsAt (plan : ExperimentPlan) (order : ℕ) : Event experiment → Prop
  | ⟨.preflightRun planned, .ok observation⟩ =>
    planned.orderIndex = order ∧
      ¬ (observation.orderIndex = planned.orderIndex ∧
        observation.materialEnvironmentHash = plan.materialEnvironmentHash)
  | ⟨.preflightRun planned, .error _⟩ => planned.orderIndex = order
  | ⟨.executeRun planned _, .ok evidence⟩ =>
    planned.orderIndex = order ∧ evidence.safetyFailure = true
  | ⟨.executeRun planned _, .error _⟩ => planned.orderIndex = order
  | ⟨.verifyBetweenRunRestore run, .error _⟩ => run.planned.orderIndex = order
  | ⟨.verifyBetweenRunRestore _, .ok _⟩ => False
  | ⟨.cooldown _, _⟩ => False

/-- The call belongs to the execution of a run. -/
def Starts : Event experiment → Prop
  | ⟨.preflightRun _, _⟩ | ⟨.executeRun _ _, _⟩ => True
  | _ => False

/-- The evidence that the executed runs handed back. -/
def executedRuns (log : CallLog) : List RunEvidence :=
  log.filterMap fun
    | ⟨.executeRun _ _, .ok evidence⟩ => some evidence
    | _ => none

/-- The answers of the between-run restore checks. -/
def restoreChecks (log : CallLog) : List (Except String Unit) :=
  log.filterMap fun
    | ⟨.verifyBetweenRunRestore _, reply⟩ => some reply
    | _ => none

/-- No evidence in the log makes its checks divide by zero. -/
def Divisible (digest : WorkloadKey → String) (plan : ExperimentPlan) (log : CallLog) : Prop :=
  ∀ evidence ∈ executedRuns log, ¬ evidence.DividesByZero digest plan

section Log

variable {log : CallLog} {planned : PlannedRun}

@[simp] theorem executedRuns_append {more : CallLog} :
    executedRuns (log ++ more) = executedRuns log ++ executedRuns more :=
  List.filterMap_append

@[simp] theorem restoreChecks_append {more : CallLog} :
    restoreChecks (log ++ more) = restoreChecks log ++ restoreChecks more :=
  List.filterMap_append

end Log

/-! ## §4 The account that an outcome gives of its log -/

/-- What the outcome of an experiment says about the log of its calls. -/
structure Accounts (digest : WorkloadKey → String) (plan : ExperimentPlan) (log : CallLog)
    (outcome : ExperimentOutcome) : Prop where
  /-- A run is recorded for each evidence that was handed back, -/
  recorded : outcome.runs.length = (executedRuns log).length ∧
    outcome.runs.length = (restoreChecks log).length
  /-- in the order of the plan, from the first one on; -/
  ordered : outcome.runs.map (fun run => run.planned.orderIndex) = List.range outcome.runs.length
  planned : ∀ (order : ℕ) (run : RunEvidence), outcome.runs[order]? = some run →
    plan.randomizedOrder[order]?.map (.inState run.planned.state) = some run.planned
  /-- it is completed if and only if nothing was wrong with it, -/
  completed : ∀ (order : ℕ) (run evidence : RunEvidence) (restored : Except String Unit),
    outcome.runs[order]? = some run → (executedRuns log)[order]? = some evidence →
    (restoreChecks log)[order]? = some restored →
    (run.planned.state = .completed ↔
      evidence.valid = true ∧ evidence.safetyFailure = false ∧
        evidence.validate digest plan = .ok () ∧ restored = .ok ())
  /-- and its state is entered into the plan. -/
  stored : ∀ (order : ℕ) (run : RunEvidence), outcome.runs[order]? = some run →
    outcome.plan.randomizedOrder[order]? = some run.planned
  /-- Nothing is executed after a failure: -/
  halted : log.Pairwise fun earlier later =>
    (∃ order, FailsAt plan order earlier) → ¬ Starts later
  /-- every later run is given up. -/
  givenUp : ∀ call ∈ log, ∀ order, FailsAt plan order call →
    ∀ (later : ℕ) (pending : PlannedRun), outcome.plan.randomizedOrder[later]? = some pending →
      order < later → pending.state = .notExecutedAfterAbort
  /-- No run is left as planned; -/
  settled : ∀ pending ∈ outcome.plan.randomizedOrder, pending.state ≠ .planned
  /-- without a failure all of them are executed. -/
  finished : outcome.abortedAfterOrder = none → outcome.runs.length = plan.randomizedOrder.length
  /-- The order of the failure is reported, if there is one. -/
  aborted : ∀ order, outcome.abortedAfterOrder = some order ↔ ∃ call ∈ log, FailsAt plan order call

/-- The runs that are recorded for the evidence and the restore checks of a log. -/
inductive Recorded (digest : WorkloadKey → String) (plan : ExperimentPlan) :
    List RunEvidence → List (Except String Unit) → List RunEvidence → Prop
  | nil : Recorded digest plan [] [] []
  | snoc {executed : List RunEvidence} {checks : List (Except String Unit)}
      {runs : List RunEvidence} {evidence run : RunEvidence} {restored : Except String Unit} :
      Recorded digest plan executed checks runs →
      plan.randomizedOrder[runs.length]? = some evidence.planned →
      evidence.checked digest plan = .ok run →
      Recorded digest plan (executed ++ [evidence]) (checks ++ [restored])
        (runs ++ [(run.withRestore restored).closed])

section Runs

variable {digest : WorkloadKey → String} {plan : ExperimentPlan} {evidence run : RunEvidence}
  {restored : Except String Unit}

/-- The checks change nothing but the verdict. -/
theorem RunEvidence.checked_fields (h : evidence.checked digest plan = .ok run) :
    run.planned = evidence.planned ∧ run.safetyFailure = evidence.safetyFailure ∧
      (run.valid = true ↔ evidence.valid = true ∧ evidence.validate digest plan = .ok ()) := by
  unfold checked at h
  split at h
  · rename_i hvalid
    cases h
    exact ⟨rfl, rfl, (and_iff_left hvalid).symm⟩
  · rename_i hvalid
    cases h
    refine ⟨rfl, rfl, iff_of_false (by simp) ?_⟩
    rw [hvalid]
    simp
  · cases h

theorem RunEvidence.checked_eq_error {e : Fault} (h : evidence.checked digest plan = .error e) :
    evidence.DividesByZero digest plan := by
  unfold checked at h
  split at h
  · cases h
  · cases h
  · rename_i hzero
    exact validate_eq_divisionByZero_iff.1 hzero

theorem RunEvidence.checked_eq_ok (h : evidence.checked digest plan = .ok run) :
    ¬ evidence.DividesByZero digest plan := by
  intro hzero
  unfold checked at h
  rw [validate_eq_divisionByZero_iff.2 hzero] at h
  cases h

theorem RunEvidence.planned_withRestore : (run.withRestore restored).planned = run.planned := by
  cases restored <;> rfl

theorem RunEvidence.safetyFailure_withRestore :
    (run.withRestore restored).safetyFailure = true ↔
      run.safetyFailure = true ∨ restored ≠ .ok () := by
  cases restored <;> simp [withRestore]

theorem RunEvidence.verdict_ne_planned : run.verdict ≠ .planned := by
  unfold verdict
  split
  · simp
  · split <;> simp

/-- When a recorded run is completed. -/
theorem RunEvidence.closed_completed_iff (h : evidence.checked digest plan = .ok run) :
    (run.withRestore restored).closed.planned.state = .completed ↔
      evidence.valid = true ∧ evidence.safetyFailure = false ∧
        evidence.validate digest plan = .ok () ∧ restored = .ok () := by
  obtain ⟨-, hsafety, hvalid⟩ := checked_fields h
  show (run.withRestore restored).verdict = .completed ↔ _
  unfold verdict
  cases restored with
  | error e => simp [withRestore]
  | ok u =>
    simp only [withRestore, hsafety]
    cases hrisky : evidence.safetyFailure with
    | true => simp
    | false =>
      simp only [Bool.false_eq_true, if_false, true_and, and_true, ← hvalid]
      by_cases hv : run.valid = true <;> simp [hv]

namespace Recorded

variable {executed runs : List RunEvidence} {checks : List (Except String Unit)}

theorem length (h : Recorded digest plan executed checks runs) :
    runs.length = executed.length ∧ runs.length = checks.length := by
  induction h with
  | nil => exact ⟨rfl, rfl⟩
  | snoc _ _ _ ih => simp [ih.1, ← ih.2]

/-- The record at a position. -/
theorem get {i : ℕ} (h : Recorded digest plan executed checks runs) (hrun : runs[i]? = some run)
    (hevidence : executed[i]? = some evidence) (hrestored : checks[i]? = some restored) :
    plan.randomizedOrder[i]? = some evidence.planned ∧
      ∃ checked, evidence.checked digest plan = .ok checked ∧
        run = (checked.withRestore restored).closed := by
  induction h with
  | nil => cases hrun
  | @snoc executed checks runs evidence' run' restored' hrest hplanned hchecked ih =>
    obtain ⟨hexecuted, hchecks⟩ := hrest.length
    by_cases hi : i < runs.length
    · -- an earlier record
      rw [List.getElem?_append_left hi] at hrun
      rw [List.getElem?_append_left (by omega)] at hevidence
      rw [List.getElem?_append_left (by omega)] at hrestored
      exact ih hrun hevidence hrestored
    · -- the new record: the three lists have the same length
      have hlast : i = runs.length := by
        have := (List.getElem?_eq_some_iff.1 hrun).1
        simp only [List.length_append, List.length_singleton] at this
        omega
      subst hlast
      rw [List.getElem?_concat_length] at hrun
      rw [hexecuted, List.getElem?_concat_length] at hevidence
      rw [hchecks, List.getElem?_concat_length] at hrestored
      cases hrun
      cases hevidence
      cases hrestored
      exact ⟨hplanned, _, hchecked, rfl⟩

/-- A record is about the planned run at its position. -/
theorem planned {i : ℕ} (h : Recorded digest plan executed checks runs)
    (hrun : runs[i]? = some run) :
    ∃ planned, plan.randomizedOrder[i]? = some planned ∧
      run.planned = planned.inState run.planned.state ∧ run.planned.state ≠ .planned := by
  have hi := (List.getElem?_eq_some_iff.1 hrun).1
  obtain ⟨hexecuted, hchecks⟩ := h.length
  have hevidence := List.getElem?_eq_getElem (hexecuted ▸ hi)
  have hrestored := List.getElem?_eq_getElem (hchecks ▸ hi)
  obtain ⟨hplanned, checked, hchecked, rfl⟩ := h.get hrun hevidence hrestored
  refine ⟨_, hplanned, ?_, RunEvidence.verdict_ne_planned⟩
  have hkept : (checked.withRestore checks[i]).planned = executed[i].planned :=
    RunEvidence.planned_withRestore.trans (RunEvidence.checked_fields hchecked).1
  rw [← hkept]
  rfl

theorem length_le (h : Recorded digest plan executed checks runs) :
    runs.length ≤ plan.randomizedOrder.length := by
  cases h with
  | nil => exact Nat.zero_le _
  | snoc _ hplanned _ =>
    have := (List.getElem?_eq_some_iff.1 hplanned).1
    simpa [Nat.succ_le_iff] using this

end Recorded

end Runs

/-- The states of the recorded runs, entered into an order whose other runs are left to `rest`. -/
def entered (rest : PlannedRun → PlannedRun) (order : List PlannedRun) (runs : List RunEvidence) :
    List PlannedRun :=
  order.mapIdx fun i planned =>
    match runs[i]? with
    | some run => planned.inState run.planned.state
    | none => rest planned

section Entered

variable {rest : PlannedRun → PlannedRun} {order : List PlannedRun} {runs : List RunEvidence}
  {run : RunEvidence} {planned : PlannedRun} {i : ℕ}

theorem getElem?_entered : (entered rest order runs)[i]? = order[i]?.map fun planned =>
    match runs[i]? with
    | some run => planned.inState run.planned.state
    | none => rest planned := by
  unfold entered
  rw [List.getElem?_mapIdx]

theorem entered_nil : entered id order [] = order := by
  apply List.ext_getElem?
  intro i
  rw [getElem?_entered]
  cases order[i]? <;> rfl

/-- The state of the next run is entered. -/
theorem entered_snoc (hindex : run.planned.orderIndex = runs.length) :
    (entered id order runs).modify run.planned.orderIndex (.inState run.planned.state) =
      entered id order (runs ++ [run]) := by
  apply List.ext_getElem?
  intro i
  rw [List.getElem?_modify, getElem?_entered, getElem?_entered, hindex]
  -- before the entry, the entry, and the runs that are still as planned
  rcases Nat.lt_trichotomy i runs.length with hlt | rfl | hgt
  · simp [List.getElem?_append_left hlt, Nat.ne_of_gt hlt]
  · cases order[runs.length]? <;> simp [PlannedRun.inState]
  · have hnone : (runs ++ [run])[i]? = none := List.getElem?_eq_none (by simp; omega)
    have hnone' : runs[i]? = none := List.getElem?_eq_none (by omega)
    simp [hnone, hnone', Nat.ne_of_lt hgt]

/-- The runs after the recorded ones are given up. -/
theorem entered_giveUp {last : ℕ} (hlast : last = runs.length) :
    ((entered id order runs).mapIdx fun i planned =>
        if last ≤ i then planned.inState .notExecutedAfterAbort else planned) =
      entered (.inState .notExecutedAfterAbort) order runs := by
  apply List.ext_getElem?
  intro i
  rw [List.getElem?_mapIdx, getElem?_entered, getElem?_entered]
  by_cases hi : last ≤ i
  · have hnone : runs[i]? = none := List.getElem?_eq_none (by omega)
    cases order[i]? <;> simp [hi, hnone]
  · have hsome := List.getElem?_eq_getElem (show i < runs.length by omega)
    cases order[i]? <;> simp [hi, hsome]

end Entered

section Progress

variable {digest : WorkloadKey → String} {plan : ExperimentPlan} {log : CallLog}
  {outcome : ExperimentOutcome} {planned : PlannedRun} {count : ℕ}

/-- Where the loop stands after `count` runs without a failure. -/
structure Progress (digest : WorkloadKey → String) (plan : ExperimentPlan) (count : ℕ)
    (log : CallLog) (outcome : ExperimentOutcome) : Prop where
  recorded : Recorded digest plan (executedRuns log) (restoreChecks log) outcome.runs
  executed : outcome.runs.length = count
  states : outcome.plan =
    { plan with randomizedOrder := entered id plan.randomizedOrder outcome.runs }
  running : outcome.abortedAfterOrder = none
  safe : ∀ call ∈ log, ∀ order, ¬ FailsAt plan order call
  divisible : Divisible digest plan log

theorem Progress.start : Progress digest plan 0 [] (.start plan) where
  recorded := .nil
  executed := rfl
  states := by
    show plan = { plan with randomizedOrder := entered id plan.randomizedOrder [] }
    rw [entered_nil]
  running := rfl
  safe := by simp
  divisible := by simp [Divisible, executedRuns]

/-- The recorded runs stand in the order of the plan. -/
theorem Recorded.orderIndices {executed runs : List RunEvidence}
    {checks : List (Except String Unit)} (hplan : plan.Ordered)
    (h : Recorded digest plan executed checks runs) :
    runs.map (fun run => run.planned.orderIndex) = List.range runs.length := by
  apply List.ext_getElem?
  intro i
  rw [List.getElem?_map]
  cases hrun : runs[i]? with
  | none =>
    have hi := List.getElem?_eq_none_iff.1 hrun
    simp [hi]
  | some run =>
    obtain ⟨planned, hplanned, hkept, -⟩ := h.planned hrun
    have hi := (List.getElem?_eq_some_iff.1 hrun).1
    have hindex : run.planned.orderIndex = planned.orderIndex := by rw [hkept]; rfl
    simp [hi, hindex, hplan i planned hplanned]

/-- What every outcome accounts for, aborted or not: `rest` is what becomes of the runs that are
    not recorded. -/
theorem accounts_of_recorded {rest : PlannedRun → PlannedRun} (hplan : plan.Ordered)
    (hrecorded : Recorded digest plan (executedRuns log) (restoreChecks log) outcome.runs)
    (hentered : outcome.plan.randomizedOrder = entered rest plan.randomizedOrder outcome.runs)
    (hhalted : log.Pairwise fun earlier later =>
      (∃ order, FailsAt plan order earlier) → ¬ Starts later)
    (hgivenUp : ∀ call ∈ log, ∀ order, FailsAt plan order call →
      outcome.runs.length ≤ order + 1 ∧ ∀ p, (rest p).state = .notExecutedAfterAbort)
    (hrest : outcome.runs.length = plan.randomizedOrder.length ∨
      ∀ p, (rest p).state = .notExecutedAfterAbort)
    (hfinished : outcome.abortedAfterOrder = none →
      outcome.runs.length = plan.randomizedOrder.length)
    (haborted : ∀ order, outcome.abortedAfterOrder = some order ↔
      ∃ call ∈ log, FailsAt plan order call) :
    Accounts digest plan log outcome where
  recorded := hrecorded.length
  ordered := hrecorded.orderIndices hplan
  planned := by
    intro order run hrun
    obtain ⟨planned, hplanned, hkept, -⟩ := hrecorded.planned hrun
    rw [hplanned, Option.map_some, ← hkept]
  completed := by
    intro order run evidence restored hrun hevidence hrestored
    obtain ⟨-, checked, hchecked, rfl⟩ := hrecorded.get hrun hevidence hrestored
    exact RunEvidence.closed_completed_iff hchecked
  stored := by
    intro order run hrun
    obtain ⟨planned, hplanned, hkept, -⟩ := hrecorded.planned hrun
    rw [hentered, getElem?_entered, hplanned, hrun, Option.map_some]
    exact congrArg some hkept.symm
  halted := hhalted
  givenUp := by
    intro call hcall order hfails later pending hpending hlater
    obtain ⟨hlength, hstate⟩ := hgivenUp call hcall order hfails
    -- the record ends at the failed run, if not before it
    have hnone : outcome.runs[later]? = none := List.getElem?_eq_none (by omega)
    rw [hentered, getElem?_entered, hnone] at hpending
    obtain ⟨planned, -, rfl⟩ := Option.map_eq_some_iff.1 hpending
    exact hstate planned
  settled := by
    intro pending hmem
    obtain ⟨i, hpending⟩ := List.getElem?_of_mem hmem
    rw [hentered, getElem?_entered] at hpending
    obtain ⟨planned, hplanned, rfl⟩ := Option.map_eq_some_iff.1 hpending
    cases hrun : outcome.runs[i]? with
    | some run =>
      obtain ⟨-, -, -, hstate⟩ := hrecorded.planned hrun
      exact hstate
    | none =>
      -- a run without a record: there is none, or it was given up
      rcases hrest with hall | hrest
      · have hi := (List.getElem?_eq_some_iff.1 hplanned).1
        have hnone := List.getElem?_eq_none_iff.1 hrun
        omega
      · simp [hrest planned]
  finished := hfinished
  aborted := haborted

/-- The end of the loop. -/
theorem Progress.accounts (hplan : plan.Ordered)
    (h : Progress digest plan plan.randomizedOrder.length log outcome) :
    Accounts digest plan log outcome := by
  -- no call has failed, so what is said about failures holds vacuously
  apply accounts_of_recorded hplan h.recorded (by rw [h.states])
  · rw [List.pairwise_iff_forall_sublist]
    intro earlier later hsub hfails
    obtain ⟨order, hfails⟩ := hfails
    exact absurd hfails (h.safe earlier (hsub.subset (by simp)) order)
  · intro call hcall order hfails
    exact absurd hfails (h.safe call hcall order)
  · exact .inl h.executed
  · exact fun _ => h.executed
  · intro order
    rw [h.running]
    refine iff_of_false (by simp) ?_
    rintro ⟨call, hcall, hfails⟩
    exact h.safe call hcall order hfails

/-- An experiment that ends with a few more calls, of which those before the failure belong to the
    run that fails. -/
theorem Progress.accounts_aborted {more : CallLog} {outcome' : ExperimentOutcome}
    (hplan : plan.Ordered) (h : Progress digest plan count log outcome)
    (hrecorded : Recorded digest plan (executedRuns (log ++ more)) (restoreChecks (log ++ more))
      outcome'.runs)
    (hentered : outcome'.plan.randomizedOrder =
      entered (.inState .notExecutedAfterAbort) plan.randomizedOrder outcome'.runs)
    (hlength : outcome'.runs.length ≤ count + 1)
    (haborted : outcome'.abortedAfterOrder = some count)
    (hhalted : more.Pairwise fun earlier later =>
      (∃ order, FailsAt plan order earlier) → ¬ Starts later)
    (hmore : ∀ order, (∃ call ∈ more, FailsAt plan order call) ↔ count = order) :
    Accounts digest plan (log ++ more) outcome' := by
  -- the calls before are without failures
  have hfails : ∀ order, (∃ call ∈ log ++ more, FailsAt plan order call) ↔ count = order := by
    intro order
    rw [← hmore order]
    constructor
    · rintro ⟨call, hcall, hfails⟩
      rcases List.mem_append.1 hcall with hcall | hcall
      · exact absurd hfails (h.safe call hcall order)
      · exact ⟨call, hcall, hfails⟩
    · rintro ⟨call, hcall, hfails⟩
      exact ⟨call, List.mem_append_right _ hcall, hfails⟩
  apply accounts_of_recorded hplan hrecorded hentered
  · rw [List.pairwise_append]
    refine ⟨?_, hhalted, ?_⟩
    · rw [List.pairwise_iff_forall_sublist]
      rintro earlier later hsub ⟨order, hfails⟩
      exact absurd hfails (h.safe earlier (hsub.subset (by simp)) order)
    · rintro earlier hearlier later - ⟨order, hfails⟩
      exact absurd hfails (h.safe earlier hearlier order)
  · intro call hcall order hcallFails
    have horder := (hfails order).1 ⟨call, hcall, hcallFails⟩
    exact ⟨by omega, fun _ => rfl⟩
  · exact .inr fun _ => rfl
  · intro hnone
    rw [haborted] at hnone
    cases hnone
  · intro order
    rw [haborted, hfails order, Option.some_inj]

theorem Progress.orderIndex {i : ℕ} (hplan : plan.Ordered)
    (h : Progress digest plan count log outcome)
    (hplanned : outcome.plan.randomizedOrder[i]? = some planned) : planned.orderIndex = i := by
  rw [h.states, getElem?_entered] at hplanned
  obtain ⟨original, horiginal, rfl⟩ := Option.map_eq_some_iff.1 hplanned
  rw [← hplan i original horiginal]
  split <;> rfl

/-- The runs that an abort gives up are those that are not recorded. -/
theorem Progress.order_aborted (hplan : plan.Ordered) (h : Progress digest plan count log outcome)
    (error : String) :
    (outcome.aborted count error).plan.randomizedOrder =
      Performance.entered (.inState .notExecutedAfterAbort) plan.randomizedOrder outcome.runs := by
  have hentered : outcome.plan.randomizedOrder =
      Performance.entered id plan.randomizedOrder outcome.runs := by rw [h.states]
  rw [← entered_giveUp h.executed.symm, ← hentered]
  show outcome.plan.randomizedOrder.map _ = _
  apply List.ext_getElem?
  intro i
  rw [List.getElem?_map, List.getElem?_mapIdx]
  cases hplanned : outcome.plan.randomizedOrder[i]? with
  | none => rfl
  | some planned => rw [Option.map_some, Option.map_some, h.orderIndex hplan hplanned]

end Progress

/-! ## §5 One order -/

section Order

variable {digest : WorkloadKey → String} {plan : ExperimentPlan} {log : CallLog}
  {outcome : ExperimentOutcome} {planned : PlannedRun} {count : ℕ}

/-- How the run of an order ends: the loop goes on, or the experiment is over, or its evidence has
    made a check divide by zero. -/
def OrderEnds (digest : WorkloadKey → String) (plan : ExperimentPlan) (count : ℕ) :
    Except Fault Bool → ExperimentOutcome → CallLog → Prop
  | .ok true, outcome, log => Progress digest plan (count + 1) log outcome
  | .ok false, outcome, log => Accounts digest plan log outcome ∧ Divisible digest plan log
  | .error _, _, log => ¬ Divisible digest plan log

/-- An abort before the run has handed back evidence. -/
theorem abort_ends {more : CallLog} (hplan : plan.Ordered)
    (h : Progress digest plan count log outcome) (hindex : planned.orderIndex = count)
    (hexecuted : executedRuns more = []) (hchecks : restoreChecks more = [])
    (hhalted : more.Pairwise fun earlier later =>
      (∃ order, FailsAt plan order earlier) → ¬ Starts later)
    (hmore : ∀ order, (∃ call ∈ more, FailsAt plan order call) ↔ count = order) (error : String) :
    Act.wp anyBackend (fun _ _ => True) (abort planned error) (OrderEnds digest plan count)
      outcome (log ++ more) := by
  show Accounts digest plan (log ++ more) (outcome.aborted planned.orderIndex error) ∧
    Divisible digest plan (log ++ more)
  rw [hindex]
  have hlog : executedRuns (log ++ more) = executedRuns log := by simp [hexecuted]
  have hlog' : restoreChecks (log ++ more) = restoreChecks log := by simp [hchecks]
  constructor
  · apply h.accounts_aborted hplan _ (h.order_aborted hplan error) _ rfl hhalted hmore
    · rw [hlog, hlog']
      exact h.recorded
    · exact (Nat.le_of_eq h.executed).trans (Nat.le_succ _)
  · unfold Divisible
    rw [hlog]
    exact h.divisible

/-- The record of a run with its state entered into the plan. -/
theorem Progress.storeState {run : RunEvidence} (h : Progress digest plan count log outcome)
    (hindex : run.planned.orderIndex = count) :
    (outcome.storeState run).plan =
      { plan with
        randomizedOrder := Performance.entered id plan.randomizedOrder (outcome.runs ++ [run]) } := by
  have hentered : outcome.plan.randomizedOrder =
      Performance.entered id plan.randomizedOrder outcome.runs := by rw [h.states]
  rw [← entered_snoc (hindex.trans h.executed.symm), ← hentered]
  unfold ExperimentOutcome.storeState ExperimentOutcome.withOrder
  rw [h.states]

/-- The checks do not look at the order. -/
theorem Progress.checked (h : Progress digest plan count log outcome) (evidence : RunEvidence) :
    evidence.checked digest outcome.plan = evidence.checked digest plan := by
  rw [h.states]
  rfl

/-- What is recorded for the run of an order. -/
structure Closes (digest : WorkloadKey → String) (plan : ExperimentPlan) (count : ℕ)
    (evidence : RunEvidence) (restored : Except String Unit) (run : RunEvidence) : Prop where
  closed : ∃ checked, evidence.checked digest plan = .ok checked ∧
    run = (checked.withRestore restored).closed
  orderIndex : run.planned.orderIndex = count
  planned : plan.randomizedOrder[count]? = some evidence.planned

theorem Closes.safetyFailure {evidence run : RunEvidence} {restored : Except String Unit}
    (h : Closes digest plan count evidence restored run) :
    run.safetyFailure = true ↔ evidence.safetyFailure = true ∨ restored ≠ .ok () := by
  obtain ⟨checked, hchecked, rfl⟩ := h.closed
  rw [← (RunEvidence.checked_fields hchecked).2.1]
  exact RunEvidence.safetyFailure_withRestore

theorem Progress.record {evidence run : RunEvidence} {restored : Except String Unit}
    {more : CallLog} (h : Progress digest plan count log outcome)
    (hcloses : Closes digest plan count evidence restored run)
    (hexecuted : executedRuns more = [evidence]) (hchecks : restoreChecks more = [restored]) :
    Recorded digest plan (executedRuns (log ++ more)) (restoreChecks (log ++ more))
      (outcome.runs ++ [run]) := by
  obtain ⟨checked, hchecked, rfl⟩ := hcloses.closed
  rw [executedRuns_append, restoreChecks_append, hexecuted, hchecks]
  exact h.recorded.snoc (h.executed.symm ▸ hcloses.planned) hchecked

theorem Progress.divisible_append {evidence run : RunEvidence} {restored : Except String Unit}
    {more : CallLog} (h : Progress digest plan count log outcome)
    (hcloses : Closes digest plan count evidence restored run)
    (hexecuted : executedRuns more = [evidence]) : Divisible digest plan (log ++ more) := by
  intro other hother
  rw [executedRuns_append, hexecuted] at hother
  rcases List.mem_append.1 hother with hother | hother
  · exact h.divisible other hother
  · obtain ⟨checked, hchecked, -⟩ := hcloses.closed
    rw [List.mem_singleton.1 hother]
    exact RunEvidence.checked_eq_ok hchecked

/-- A run that is safe: the loop goes on. -/
theorem Progress.next {evidence run : RunEvidence} {restored : Except String Unit}
    {more : CallLog} (h : Progress digest plan count log outcome)
    (hcloses : Closes digest plan count evidence restored run)
    (hexecuted : executedRuns more = [evidence]) (hchecks : restoreChecks more = [restored])
    (hsafe : run.safetyFailure = false) (hmore : ∀ call ∈ more, ∀ order, ¬ FailsAt plan order call) :
    Progress digest plan (count + 1) (log ++ more) ((outcome.storeState run).recordRun run) := by
  have hrecord : (outcome.storeState run).recordRun run =
      { outcome.storeState run with runs := outcome.runs ++ [run] } := by
    unfold ExperimentOutcome.recordRun
    rw [if_neg (by simp [hsafe])]
    rfl
  rw [hrecord]
  exact
    { recorded := h.record hcloses hexecuted hchecks
      executed := by simp [h.executed]
      states := h.storeState hcloses.orderIndex
      running := h.running
      safe := by
        intro call hcall
        rcases List.mem_append.1 hcall with hcall | hcall
        · exact h.safe call hcall
        · exact hmore call hcall
      divisible := h.divisible_append hcloses hexecuted }

/-- A run that is not safe: the experiment is over. -/
theorem Progress.stop {evidence run : RunEvidence} {restored : Except String Unit}
    {more : CallLog} (hplan : plan.Ordered) (h : Progress digest plan count log outcome)
    (hcloses : Closes digest plan count evidence restored run)
    (hexecuted : executedRuns more = [evidence]) (hchecks : restoreChecks more = [restored])
    (hrisky : run.safetyFailure = true)
    (hhalted : more.Pairwise fun earlier later =>
      (∃ order, FailsAt plan order earlier) → ¬ Starts later)
    (hmore : ∀ order, (∃ call ∈ more, FailsAt plan order call) ↔ count = order) :
    Accounts digest plan (log ++ more) ((outcome.storeState run).recordRun run) := by
  have hruns : ((outcome.storeState run).recordRun run).runs = outcome.runs ++ [run] := by
    unfold ExperimentOutcome.recordRun
    rw [if_pos hrisky]
    rfl
  apply h.accounts_aborted hplan _ _ _ _ hhalted hmore
  · rw [hruns]
    exact h.record hcloses hexecuted hchecks
  · have hlast : run.planned.orderIndex + 1 = (outcome.runs ++ [run]).length := by
      simp [hcloses.orderIndex, h.executed]
    rw [hruns, ← entered_giveUp hlast]
    unfold ExperimentOutcome.recordRun
    rw [if_pos hrisky]
    show (outcome.storeState run).plan.randomizedOrder.mapIdx _ = _
    rw [h.storeState hcloses.orderIndex]
  · simp [hruns, h.executed]
  · unfold ExperimentOutcome.recordRun
    rw [if_pos hrisky, hcloses.orderIndex]

/-- The calls of a run up to the check that the host is restored. -/
def callsOf (planned : PlannedRun) (observation : RunPreflightObservation)
    (evidence checked : RunEvidence) (restored : Except String Unit) : CallLog :=
  [⟨.preflightRun planned, .ok observation⟩, ⟨.executeRun planned observation, .ok evidence⟩,
    ⟨.verifyBetweenRunRestore checked, restored⟩]

theorem settleRun_ends {observation : RunPreflightObservation} {evidence : RunEvidence}
    (hplan : plan.Ordered) (h : Progress digest plan count log outcome)
    (hplanned : plan.randomizedOrder[count]? = some planned) (hevidence : evidence.planned = planned)
    (hmatch : observation.orderIndex = planned.orderIndex ∧
      observation.materialEnvironmentHash = plan.materialEnvironmentHash) :
    Act.wp anyBackend (fun _ _ => True) (settleRun digest evidence) (OrderEnds digest plan count)
      outcome (log ++ [⟨.preflightRun planned, .ok observation⟩,
        ⟨.executeRun planned observation, .ok evidence⟩]) := by
  unfold settleRun
  simp only [Act.wp_bind, Act.wp_current, Act.wp_ofExcept, h.checked]
  cases hchecked : evidence.checked digest plan with
  -- the checks divide by zero: the evidence is in the log, but no record is
  | error e =>
    intro hdivisible
    refine hdivisible evidence ?_ (RunEvidence.checked_eq_error hchecked)
    simp [executedRuns]
  | ok checked =>
    refine ⟨trivial, ?_⟩
    rintro restored log' ⟨-, rfl⟩
    have hindex : planned.orderIndex = count := hplan count planned hplanned
    have hkept : checked.planned = planned :=
      (RunEvidence.checked_fields hchecked).1.trans hevidence
    -- the record that follows, whatever the restore check says
    have hcloses : Closes digest plan count evidence restored
        (checked.withRestore restored).closed :=
      { closed := ⟨checked, hchecked, rfl⟩
        orderIndex := by
          show (checked.withRestore restored).planned.orderIndex = count
          rw [RunEvidence.planned_withRestore, hkept, hindex]
        planned := hevidence ▸ hplanned }
    have hlog : log ++ [⟨.preflightRun planned, .ok observation⟩,
          ⟨.executeRun planned observation, .ok evidence⟩] ++
          [⟨.verifyBetweenRunRestore checked, restored⟩] =
        log ++ callsOf planned observation evidence checked restored := by
      rw [List.append_assoc]
      rfl
    rw [hlog]
    have hsafety := hcloses.safetyFailure
    simp only [Act.wp_assign]
    apply Act.wp_ite.2
    constructor
    · -- a safety failure of the run itself or of the check of the host
      intro hrisky
      refine ⟨h.stop hplan hcloses rfl rfl hrisky ?_ ?_, h.divisible_append hcloses rfl⟩
      · simp [callsOf, Starts, FailsAt, hmatch.1, hmatch.2]
      · intro order
        rcases hsafety.1 hrisky with hfailure | hfailure <;> cases restored <;>
          simp_all [callsOf, FailsAt]
    · -- no failure: the cooldown is the last call of the run
      intro hsafe
      rw [hsafety, not_or, not_not] at hsafe
      obtain ⟨hsafe, rfl⟩ := hsafe
      simp only [Act.wp_bind, Act.wp_perform]
      refine ⟨trivial, ?_⟩
      rintro reply log' ⟨rfl, rfl⟩
      rw [List.append_assoc]
      apply h.next hcloses rfl rfl
      · simpa [hsafe] using hsafety
      · simp [callsOf, FailsAt, hmatch.1, hmatch.2, hsafe]

/-- The run of an order takes the loop one step further or ends it. -/
theorem executeOrder_ends (hplan : plan.Ordered) (h : Progress digest plan count log outcome)
    (hplanned : plan.randomizedOrder[count]? = some planned) :
    Act.wp anyBackend (fun _ _ => True) (executeOrder digest planned)
      (OrderEnds digest plan count) outcome log := by
  have hindex : planned.orderIndex = count := hplan count planned hplanned
  unfold executeOrder
  simp only [Act.wp_bind, Act.wp_current]
  refine ⟨trivial, ?_⟩
  rintro observed log' ⟨-, rfl⟩
  cases observed with
  | error error =>
    apply abort_ends hplan h hindex rfl rfl
    · exact List.pairwise_singleton _ _
    · simp [FailsAt, hindex]
  | ok observation =>
    have hhash : outcome.plan.materialEnvironmentHash = plan.materialEnvironmentHash := by
      rw [h.states]
    apply Act.wp_ite.2
    constructor
    · intro hmatch
      rw [hhash] at hmatch
      simp only [Act.wp_bind]
      refine ⟨trivial, ?_⟩
      rintro executed log' ⟨hproper, rfl⟩
      rw [List.append_assoc]
      cases executed with
      -- the preflight has passed, so the execution is the only failure
      | error error =>
        apply abort_ends hplan h hindex rfl rfl
        · simp [FailsAt, hmatch.1, hmatch.2]
        · simp [FailsAt, hmatch.1, hmatch.2, hindex]
      | ok evidence => exact settleRun_ends hplan h hplanned hproper hmatch
    · -- an observation of another order or another host
      intro hmismatch
      rw [hhash] at hmismatch
      apply abort_ends hplan h hindex rfl rfl
      · exact List.pairwise_singleton _ _
      · rw [hindex] at hmismatch
        simpa [FailsAt, hindex] using hmismatch

end Order

/-! ## §6 Whole executions -/

section Executions

variable {digest : WorkloadKey → String} {plan : ExperimentPlan} {log : CallLog}
  {outcome : ExperimentOutcome} {count : ℕ}

/-- How an execution ends. -/
def ExecutionEnds (digest : WorkloadKey → String) (plan : ExperimentPlan) :
    Except Fault Unit → ExperimentOutcome → CallLog → Prop
  | .ok _, outcome, log => Accounts digest plan log outcome ∧ Divisible digest plan log
  | .error _, _, log => ¬ Divisible digest plan log

/-- The loop, by induction on the runs that are left. -/
theorem executeOrders_ends (hplan : plan.Ordered) {orders : List PlannedRun}
    (h : Progress digest plan count log outcome)
    (horders : plan.randomizedOrder.drop count = orders) :
    Act.wp anyBackend (fun _ _ => True) (executeOrders digest orders)
      (ExecutionEnds digest plan) outcome log := by
  induction orders generalizing count log outcome with
  | nil =>
    -- every run has a record
    have hcount : count = plan.randomizedOrder.length := by
      have hle := h.recorded.length_le
      have hge := List.drop_eq_nil_iff.1 horders
      have := h.executed
      omega
    subst hcount
    exact ⟨h.accounts hplan, h.divisible⟩
  | cons planned rest ih =>
    have hplanned : plan.randomizedOrder[count]? = some planned := Log.getElem?_of_drop horders
    have hrest : plan.randomizedOrder.drop (count + 1) = rest := Log.drop_succ_of_drop horders
    unfold executeOrders
    rw [Act.wp_bind]
    apply Act.wp_mono (executeOrder_ends hplan h hplanned)
    -- an error, the end of the experiment, or the next run
    rintro (e | (_ | _)) outcome' log' hends
    · exact hends
    · exact hends
    · exact ih hends hrest

/-- **The fixed-load experiment.** Whatever the backend answers, the execution of an eligible plan
    returns an outcome that accounts for its log, unless evidence that passes the first checks
    comes with a sample interval of zero. -/
theorem executePlannedExperiment_accounts_iff (heligible : requireLiveEligibility plan = .ok ())
    (hplan : plan.Ordered) {result : Except Fault ExperimentOutcome}
    (hrun : Reaches anyBackend (executePlannedExperiment digest plan) [] (.pure result) log) :
    (∃ outcome, result = .ok outcome ∧ Accounts digest plan log outcome) ↔
      Divisible digest plan log := by
  have hwp : (executePlannedExperiment digest plan).wp anyBackend (fun _ _ => True)
      (fun result log => (∃ outcome, result = .ok outcome ∧ Accounts digest plan log outcome) ↔
        Divisible digest plan log) [] := by
    unfold executePlannedExperiment
    rw [heligible]
    apply Prog.wp_bind.2
    apply Prog.wp_mono (executeOrders_ends hplan .start rfl)
    rintro ⟨e | u, outcome⟩ log hends
    · exact iff_of_false (by rintro ⟨_, h, _⟩; cases h) hends
    · exact iff_of_true ⟨outcome, rfl, hends.1⟩ hends.2
  exact Prog.wp_reaches hwp hrun

end Executions

/-! ### Two backends -/

/-- The run of an execution in which each call is answered by a function. -/
theorem reaches_answered {digest : WorkloadKey → String} {plan : ExperimentPlan}
    (answer : (op : ExperimentCall) → op.Reply) (hproper : ∀ op, Proper ⟨op, answer op⟩) :
    let run := (executePlannedExperiment digest plan).exec
      (fun op (log : CallLog) => (answer op, log ++ [⟨op, answer op⟩])) []
    Reaches anyBackend (executePlannedExperiment digest plan) [] (.pure run.1) run.2 := by
  apply Reaches.mono _ (Prog.exec_reaches _ _ _)
  intro outcome log op reply log' hreply
  cases hreply
  exact ⟨hproper op, rfl⟩

/-- An executable of the source that was prepared. -/
def releaseBinary : BinaryIdentity where
  sha256 := "b1"
  buildProfile := "release"
  sourceStateId := "s1"
  embeddedGitHead := "h1"

/-- The only run of the plan below. -/
def baselineRun : PlannedRun where
  orderIndex := 0
  variant := .cachyosBaseline
  repetitionIndex := 0
  runSeed := 7
  state := .planned

/-- A plan with one baseline run. -/
def baselinePlan : ExperimentPlan where
  scenario := checkpoint3aScenario
  generatorId := compressibleGeneratorId
  generatorVersion := syntheticGeneratorVersion
  randomizedOrder := [baselineRun]
  profile := { logicalPayloadBytes := 4096, workerMemoryMaxBytes := 8192, cooldownMs := 5000 }
  provenance :=
    { gitHead := "h1", gitDirty := false, sourceStateId := "s1", buildProfile := "release" }
  benchmarkBinary := releaseBinary
  observerBinary := releaseBinary
  materialEnvironmentHash := "e1"
  performanceClaimEligible := true

/-- A host with nothing configured. -/
def bareStructure : StructuralSnapshot where
  swapTopology := []
  zramConfiguration := []
  zswapEnabled := some "N"
  ksmConfiguration := [("run", "0")]
  damonTreeShape := []

/-- Evidence of the baseline run, sampled at the given interval. -/
def baselineEvidence (planned : PlannedRun) (sampleIntervalMs : UInt64) : RunEvidence where
  runEvidenceSchemaVersion := runEvidenceSchemaVersion
  planned := planned
  valid := true
  invalidReason := none
  safetyFailure := false
  materialEnvironmentHash := "e1"
  benchmarkBinarySha256 := "b1"
  observerBinarySha256 := none
  generatorId := compressibleGeneratorId
  generatorVersion := syntheticGeneratorVersion
  workloadIdentity := "w1"
  payloadFingerprintSha256 := "f1"
  workerCgroupMemoryMax := 8192
  logicalPayloadBytes := 4096
  measurementMs := 20000
  sampleIntervalMs := sampleIntervalMs
  sampleCount := 20
  observer := none
  watchdogTriggered := false
  oom := 0
  oomKill := 0
  workerIntegrityValid := true
  restorePassed := true
  structuralBefore := bareStructure
  structuralAfter := bareStructure

/-- A backend that succeeds, with evidence sampled at the given interval. -/
def baselineAnswer (sampleIntervalMs : UInt64) : (op : ExperimentCall) → op.Reply
  | .preflightRun planned =>
    .ok { orderIndex := planned.orderIndex, materialEnvironmentHash := "e1" }
  | .executeRun planned _ => .ok (baselineEvidence planned sampleIntervalMs)
  | .verifyBetweenRunRestore _ => .ok ()
  | .cooldown _ => .ok ()

theorem baselineAnswer_proper (sampleIntervalMs : UInt64) (op : ExperimentCall) :
    Proper ⟨op, baselineAnswer sampleIntervalMs op⟩ := by
  cases op with
  | preflightRun | verifyBetweenRunRestore => trivial
  | executeRun | cooldown => rfl

theorem baselinePlan_ordered : baselinePlan.Ordered := by
  intro i planned hplanned
  cases i with
  | zero => cases hplanned; rfl
  | succ i => cases hplanned

/-- The execution of that plan with such evidence. -/
def baselineExperiment (sampleIntervalMs : UInt64) : Except Fault ExperimentOutcome × CallLog :=
  (executePlannedExperiment (fun _ => "w1") baselinePlan).exec
    (fun op (log : CallLog) =>
      (baselineAnswer sampleIntervalMs op, log ++ [⟨op, baselineAnswer sampleIntervalMs op⟩])) []

/-- With samples every second the run is recorded. -/
theorem sampled_run_accounted : ∃ outcome, (baselineExperiment 1000).1 = .ok outcome ∧
    Accounts (fun _ => "w1") baselinePlan (baselineExperiment 1000).2 outcome := by
  refine (executePlannedExperiment_accounts_iff (by decide) baselinePlan_ordered
    (reaches_answered _ (baselineAnswer_proper 1000))).2 ?_
  intro evidence hevidence hzero
  have hlog : executedRuns (baselineExperiment 1000).2 = [baselineEvidence baselineRun 1000] := rfl
  change evidence ∈ executedRuns (baselineExperiment 1000).2 at hevidence
  rw [hlog, List.mem_singleton] at hevidence
  have hinterval := hevidence ▸ hzero.1
  exact absurd hinterval (by decide)

/-- With a sample interval of zero the execution of an eligible plan does not return. -/
theorem zero_interval_unwinds :
    requireLiveEligibility baselinePlan = .ok () ∧ baselinePlan.Ordered ∧
      ∃ log, Reaches anyBackend (executePlannedExperiment (fun _ => "w1") baselinePlan) []
          (.pure (.error .divisionByZero)) log ∧
        executedRuns log = [baselineEvidence baselineRun 0] := by
  refine ⟨by decide, baselinePlan_ordered, (baselineExperiment 0).2, ?_, rfl⟩
  have hresult : (baselineExperiment 0).1 = .error .divisionByZero := rfl
  rw [← hresult]
  exact reaches_answered _ (baselineAnswer_proper 0)

end Nemor.Performance
