import Nemor.Capacity.Host
import Nemor.Pressure.Evidence

/-!
# Executing a pressure experiment

The runs of an experiment are executed in their order by a backend, and everything that is known
is stored before and after each of them and at every event in between. The first run that is not
clean ends the experiment; the runs after it are not executed.

- §1: records
- §2: backends and stores
- §3: the executor
- §4: executions with a store that does not fail
- §5: what is reported in the end
-/

namespace Nemor.Pressure

open Capacity Effectful

/-! ## §1 Records -/

/-- How a run has ended, or why it never began. -/
inductive PressureRunState where
  | planned
  | completed
  | invalid
  | unsustainableBoundary
  | safetyAbort
  | notExecutedAfterStop
  deriving DecidableEq

/-- A run as it was planned. -/
structure PlannedPressureRun where
  orderIndex : ℕ
  variant : BenchmarkVariant
  repetitionIndex : ℕ
  runSeed : UInt64
  state : PressureRunState

/-- How far an experiment is, or how it has ended. -/
inductive PressureExperimentState where
  | running
  | completedFrameworkValidation
  | rejectedBeforeRun0
  | invalidRun
  | unsustainableHealth
  | safetyAbort
  | executionError
  deriving DecidableEq

/-- The name of the state. -/
def PressureExperimentState.debug : PressureExperimentState → String
  | .running => "Running"
  | .completedFrameworkValidation => "CompletedFrameworkValidation"
  | .rejectedBeforeRun0 => "RejectedBeforeRun0"
  | .invalidRun => "InvalidRun"
  | .unsustainableHealth => "UnsustainableHealth"
  | .safetyAbort => "SafetyAbort"
  | .executionError => "ExecutionError"

/-- What a progress record is about. -/
inductive PressureLevelProgressStage where
  | transitionStarting
  | transitionTimeout
  | transitionIpcFailure
  | levelAcknowledged
  | stabilizationStarting
  | holdStarting
  | sampling
  | completed
  deriving DecidableEq

/-- One step of a level, as it is recorded while the run goes on. -/
structure PressureLevelProgress where
  levelIndex : UInt64
  stage : PressureLevelProgressStage
  monotonicNs : UInt64
  targetTouchedBytes : UInt64
  requestedDeltaBytes : UInt64
  expectedWorkloadIdentity : String
  acknowledgement : Option WorkerLevelAcknowledgement
  transitionDurationMs : Option UInt64
  configuredTransitionDeadlineMs : Option UInt64
  sample : Option PressureLevelSample

/-- What a backend reports while it runs. -/
inductive PressurePersistenceEvent where
  | progress (progress : PressureLevelProgress)
  | completed (level : LevelEvidence)

/-- What is recorded of a run. -/
structure PressureRunRecord where
  planned : PlannedPressureRun
  state : PressureRunState
  levels : List LevelEvidence
  levelProgress : List PressureLevelProgress
  structuralBefore : Option StructuralSnapshot
  structuralAfter : Option StructuralSnapshot
  stopReason : Option String
  restorePassed : Option Bool

/-- What is recorded of an experiment, and persisted after every step. -/
structure PressureExecutionEvidence where
  schemaVersion : UInt32
  experimentId : String
  state : PressureExperimentState
  runs : List PressureRunRecord
  executionError : Option String
  searchComplete : Bool
  capacityGainPercent : EvaluationState

/-- `PRESSURE_EXECUTION_SCHEMA_VERSION`. -/
def pressureExecutionSchemaVersion : UInt32 := 4

/-- The evidence before the first run. -/
def PressureExecutionEvidence.planned (experimentId : String) (runPlan : List PlannedPressureRun) :
    PressureExecutionEvidence where
  schemaVersion := pressureExecutionSchemaVersion
  experimentId := experimentId
  state := .running
  runs := runPlan.map fun planned =>
    { planned := planned
      state := planned.state
      levels := []
      levelProgress := []
      structuralBefore := none
      structuralAfter := none
      stopReason := none
      restorePassed := none }
  executionError := none
  searchComplete := false
  capacityGainPercent := .notEvaluated

/-! ## §2 Backends and stores -/

/-- How the scope of the worker was brought to an end. -/
inductive PressureScopeStopAction where
  | alreadyAbsent
  | stopUnitRequested
  | stopUnitNoSuchUnitReconciled
  | stopFailed
  deriving DecidableEq

/-- What is left of the scope. -/
inductive PressureScopeCleanupClassification where
  | clean
  | activeOrMembered
  | transientScopeRemovalTimeout
  | stopFailed
  deriving DecidableEq

/-- What the clean-up has found. -/
structure PressureCleanupEvidence where
  workerAbsent : Bool
  preStopUnitPresent : Bool
  stopAction : PressureScopeStopAction
  workerScopeStopped : Bool
  workerScopeZeroMembers : Bool
  workerScopeAbsent : Bool
  observerAbsent : Bool
  observerRuntimeDirectoryAbsent : Bool
  stopJobResult : Option String
  finalActiveState : Option String
  finalSubState : Option String
  cgroupMemberCount : Option ℕ
  unitRemoved : Bool
  removalWaitMs : UInt64
  classification : PressureScopeCleanupClassification
  failureReason : Option String

/-- Nothing is left of the worker, of its scope and of the observer. -/
def PressureCleanupEvidence.passed (c : PressureCleanupEvidence) : Bool :=
  c.workerAbsent && c.workerScopeStopped && c.workerScopeZeroMembers && c.workerScopeAbsent &&
    c.observerAbsent && c.observerRuntimeDirectoryAbsent && c.unitRemoved &&
    decide (c.classification = .clean)

/-- A backend reports one of these four. -/
def PressureRunState.IsVerdict (s : PressureRunState) : Prop :=
  s = .completed ∨ s = .invalid ∨ s = .unsustainableBoundary ∨ s = .safetyAbort

/-- What the backend returns of a run. -/
structure PressureBackendRunResult where
  state : PressureRunState
  reason : String
  executionError : Option String
  cleanup : PressureCleanupEvidence
  verdict : state.IsVerdict

/-- Why a workload did not return: an exchange with the worker, a watchdog, or anything else. -/
inductive WorkloadError where
  | ipc (deadlineExceeded : Bool) (text : String)
  | watchdogTimeout (text : String)
  | other (text : String)

/-- The error is about a deadline. -/
def WorkloadError.timedOut : WorkloadError → Bool
  | .ipc deadlineExceeded _ => deadlineExceeded
  | .watchdogTimeout _ => true
  | .other _ => false

/-- The text of an error. -/
def WorkloadError.text : WorkloadError → String
  | .ipc _ text | .watchdogTimeout text | .other text => text

/-- What the live backend reports after the workload has returned or failed. -/
def finalizePressureWorkloadResult (runResult : Except WorkloadError Unit)
    (finalState : PressureRunState) (verdict : finalState.IsVerdict) (reason : String)
    (cleanup : PressureCleanupEvidence) : PressureBackendRunResult :=
  match runResult with
  | .ok _ =>
    { state := finalState, reason := reason, executionError := none, cleanup := cleanup
      verdict := verdict }
  | .error e =>
    -- a watchdog ends the run as a safety abort without an execution error
    if e.timedOut then
      { state := .safetyAbort
        reason := "WATCHDOG_TIMEOUT during bounded worker IPC"
        executionError := none
        cleanup := cleanup
        verdict := .inr (.inr (.inr rfl)) }
    else
      { state := .invalid
        reason := "pressure workload/executor error: " ++ e.text
        executionError := some e.text
        cleanup := cleanup
        verdict := .inr (.inl rfl) }

/-- The callback that stores an event of a run. -/
abbrev persistence : Iface where
  Op := PressurePersistenceEvent
  Reply _ := Except String Unit

/-- What a backend does in the run of each order: a snapshot, a run that emits events and sees
    whether they were stored, and another snapshot. -/
structure PressureExecutionBackend where
  before : ℕ → StructuralSnapshot
  executeRun : ℕ → Prog persistence Unit (Except String PressureBackendRunResult)
  after : ℕ → StructuralSnapshot

/-- A store with states of type `σ`. -/
structure PressureStore (σ : Type) where
  persist : σ → PressureExecutionEvidence → Except String Unit × σ

/-! ## §3 The executor -/

section Executor

variable {σ : Type} (debug : PressureCleanupEvidence → String)
  (backend : PressureExecutionBackend) (store : PressureStore σ)

/-- The evidence in hand and the state of the store. -/
structure ExecutionProgress (σ : Type) where
  evidence : PressureExecutionEvidence
  stored : σ

/-- The executor: it carries the evidence and the store, also past an error. -/
abbrev Execution (σ : Type) := StateT (ExecutionProgress σ) (Except String)

/-- Store the evidence as it is now. -/
def persist : Execution σ Unit := fun p =>
  match store.persist p.stored p.evidence with
  | (.ok _, stored) => .ok ((), { p with stored := stored })
  | (.error e, _) => .error e

/-- Change the evidence. -/
def updateEvidence (f : PressureExecutionEvidence → PressureExecutionEvidence) : Execution σ Unit :=
  fun p => .ok ((), { p with evidence := f p.evidence })

/-- Change the record of one run. -/
def PressureExecutionEvidence.modifyRun (e : PressureExecutionEvidence) (order : ℕ)
    (f : PressureRunRecord → PressureRunRecord) : PressureExecutionEvidence :=
  { e with runs := e.runs.modify order f }

/-- Change the record of one run. -/
def updateRun (order : ℕ) (f : PressureRunRecord → PressureRunRecord) : Execution σ Unit :=
  updateEvidence fun e => e.modifyRun order f

/-- The last stage of a level. -/
def completedProgress (level : LevelEvidence) : PressureLevelProgress where
  levelIndex := level.levelIndex
  stage := .completed
  monotonicNs := level.endedMonotonicNs
  targetTouchedBytes := level.actualTouchedBytes
  requestedDeltaBytes := level.workerAcknowledgement.requestedDeltaBytes
  expectedWorkloadIdentity := level.workloadIdentity
  acknowledgement := some level.workerAcknowledgement
  transitionDurationMs := none
  configuredTransitionDeadlineMs := none
  sample := none

/-- Append what a backend reports. A completed level is progress too. -/
def PressureRunRecord.note (r : PressureRunRecord) : PressurePersistenceEvent → PressureRunRecord
  | .progress progress => { r with levelProgress := r.levelProgress ++ [progress] }
  | .completed level =>
    { r with
      levelProgress := r.levelProgress ++ [completedProgress level]
      levels := r.levels ++ [level] }

/-- Note an event and store it. -/
def onEvent (order : ℕ) (event : PressurePersistenceEvent) (p : ExecutionProgress σ) :
    Except String Unit × ExecutionProgress σ :=
  let evidence := p.evidence.modifyRun order fun r => r.note event
  -- the event is noted also if it cannot be stored; the backend sees the reply
  let (reply, stored) := store.persist p.stored evidence
  (reply, { evidence := evidence, stored := stored })

/-- The run, with its events noted and stored. -/
def runBackend (order : ℕ) : Execution σ (Except String PressureBackendRunResult) := fun p =>
  .ok ((backend.executeRun order).exec (onEvent store order) p)

/-- The snapshots before and after are there and agree. -/
def PressureRunRecord.structuralRestore (r : PressureRunRecord) : Bool :=
  match r.structuralBefore, r.structuralAfter with
  | some before, some after => before.agrees after
  | _, _ => false

/-- The reason of a run whose host is not restored. What it came to before stays in the text. -/
def restoreFailureReason (result : PressureBackendRunResult) (structuralRestore : Bool) : String :=
  let original := match result.executionError with
    | some error => result.reason ++ "; execution_error=" ++ error
    | none => result.reason
  "RESTORE_FAILURE cleanup=" ++ debug result.cleanup ++
    " structural_match=" ++ toString structuralRestore ++ "; original=" ++ original

/-- What a run that has returned amounts to. `true` means that the experiment goes on. -/
def judge (order : ℕ) (result : PressureBackendRunResult) (structuralRestore : Bool) :
    Execution σ Bool :=
  -- the order of the checks: a host that is not restored outweighs everything else
  if (result.cleanup.passed && structuralRestore) = false then do
    updateRun order fun r =>
      { r with
        state := .safetyAbort
        stopReason := some (restoreFailureReason debug result structuralRestore) }
    updateEvidence fun e =>
      { e with
        state := .safetyAbort
        -- an earlier error stays if the run has none of its own
        executionError := result.executionError <|> e.executionError }
    persist store
    pure false
  else
    match result.executionError with
    | some error => do
      updateRun order fun r =>
        { r with
          state := .invalid
          stopReason := some ("execution_error_cleanup_passed: " ++ error) }
      updateEvidence fun e => { e with state := .executionError, executionError := some error }
      persist store
      pure false
    | none =>
      -- the record of the run has this state already, and is stored with the next write
      if result.state = .safetyAbort then do
        updateEvidence fun e => { e with state := .safetyAbort }
        pure false
      else if result.state = .invalid then do
        updateEvidence fun e => { e with state := .invalidRun }
        pure false
      else if result.state = .unsustainableBoundary then do
        updateEvidence fun e => { e with state := .unsustainableHealth }
        pure false
      else
        pure true

/-- The record of a run as it is returned, before it is judged. -/
def PressureRunRecord.returned (after : StructuralSnapshot) (result : PressureBackendRunResult)
    (r : PressureRunRecord) : PressureRunRecord :=
  { r with
    state := result.state
    stopReason := some result.reason
    structuralAfter := some after }

/-- Record the result of a run, and say whether to go on. -/
def settleResult (order : ℕ) (result : PressureBackendRunResult) : Execution σ Bool := do
  updateRun order (.returned (backend.after order) result)
  let p ← get
  -- compared in the record, where the snapshot before the run was put
  let structuralRestore := (p.evidence.runs[order]?).any PressureRunRecord.structuralRestore
  updateRun order fun r =>
    { r with restorePassed := some (result.cleanup.passed && structuralRestore) }
  persist store
  judge debug store order result structuralRestore

/-- One run. -/
def executeOrder (order : ℕ) : Execution σ Bool := do
  updateRun order fun r => { r with structuralBefore := some (backend.before order) }
  persist store
  match ← runBackend backend store order with
  | .ok result => settleResult debug backend store order result
  | .error error =>
    updateRun order fun r => { r with state := .invalid, stopReason := some error }
    updateEvidence fun e => { e with state := .executionError, executionError := some error }
    persist store
    pure false

/-- The loop over the runs. -/
def executeOrders : List ℕ → Execution σ Unit
  | [] => pure ()
  | order :: orders => do
    if ← executeOrder debug backend store order then
      executeOrders orders
    else
      pure ()

/-- The end of an experiment: completed, or with the remaining runs given up. -/
def PressureExecutionEvidence.concluded (e : PressureExecutionEvidence) :
    PressureExecutionEvidence :=
  if e.state = .running then { e with state := .completedFrameworkValidation }
  else
    { e with
      runs := e.runs.map fun r =>
        if r.state = .planned then
          { r with
            state := .notExecutedAfterStop
            stopReason := some ("not executed after experiment state " ++ e.state.debug) }
        else r }

/-- The experiment on the evidence in hand. -/
def executeExperiment : Execution σ PressureExecutionEvidence := do
  persist store
  let p ← get
  executeOrders debug backend store (List.range p.evidence.runs.length)
  updateEvidence PressureExecutionEvidence.concluded
  persist store
  let p ← get
  pure p.evidence

/-- The experiment of a manifest, given by its name and its runs. -/
def executePressureWithBackend (experimentId : String) (runPlan : List PlannedPressureRun)
    (stored : σ) : Except String PressureExecutionEvidence := do
  let (evidence, _) ← executeExperiment debug backend store
    { evidence := .planned experimentId runPlan, stored := stored }
  pure evidence

end Executor

/-! ## §4 Executions with a store that does not fail -/

/-- Every write succeeds. -/
def PressureStore.Reliable {σ : Type} (store : PressureStore σ) : Prop :=
  ∀ stored evidence, (store.persist stored evidence).1 = .ok ()

/-- The callback of such a store. -/
def acceptEvent (_ : PressurePersistenceEvent) (u : Unit) : Except String Unit × Unit := (.ok (), u)

/-- The state that a run is reported with, given whether the host is as it was. -/
def judgedState (result : PressureBackendRunResult) (structuralRestore : Bool) : PressureRunState :=
  if (result.cleanup.passed && structuralRestore) = false then .safetyAbort
  else if result.executionError ≠ none then .invalid
  else result.state

namespace PressureExecutionBackend

variable (backend : PressureExecutionBackend) (order : ℕ)

/-- What the run returns when all its events are stored. -/
def outcome : Except String PressureBackendRunResult :=
  ((backend.executeRun order).exec acceptEvent ()).1

/-- The run completed, without an execution error, and was restored. -/
def Clean : Prop :=
  ∃ result, backend.outcome order = .ok result ∧ result.state = .completed ∧
    result.executionError = none ∧ result.cleanup.passed = true ∧
    (backend.before order).agrees (backend.after order) = true

/-- The state that the run is reported with. -/
def reportedState : PressureRunState :=
  match backend.outcome order with
  | .error _ => .invalid
  | .ok result => judgedState result ((backend.before order).agrees (backend.after order))

end PressureExecutionBackend

/-- What a record says about the execution of its run. -/
abbrev RunView := PlannedPressureRun × PressureRunState × Option StructuralSnapshot

/-- The part of a record that decides what becomes of the experiment. -/
def PressureRunRecord.view (r : PressureRunRecord) : RunView :=
  (r.planned, r.state, r.structuralBefore)

/-- These parts of all the records. -/
def PressureExecutionEvidence.views (e : PressureExecutionEvidence) : List RunView :=
  e.runs.map PressureRunRecord.view

section Yields

variable {σ α β : Type}

/-- The execution succeeds, with a value and evidence in `Q`. -/
def Yields (m : Execution σ α) (p : ExecutionProgress σ)
    (Q : α → PressureExecutionEvidence → Prop) : Prop :=
  ∃ a p', m p = .ok (a, p') ∧ Q a p'.evidence

variable {m : Execution σ α} {f : α → Execution σ β} {p : ExecutionProgress σ}
  {Q : β → PressureExecutionEvidence → Prop}

theorem yields_pure {b : β} (h : Q b p.evidence) : Yields (pure b) p Q := ⟨b, p, rfl, h⟩

/-- What comes later does not depend on the state of the store. -/
theorem yields_bind
    (h : Yields m p fun a e => ∀ stored, Yields (f a) { evidence := e, stored := stored } Q) :
    Yields (m >>= f) p Q := by
  obtain ⟨a, p', hm, hf⟩ := h
  obtain ⟨b, p'', hb, hQ⟩ := hf p'.stored
  refine ⟨b, p'', ?_, hQ⟩
  show (m p >>= fun out => f out.1 out.2) = _
  rw [hm]
  exact hb

theorem yields_mono {Q' : β → PressureExecutionEvidence → Prop} {n : Execution σ β}
    (h : Yields n p Q) (hQ : ∀ b e, Q b e → Q' b e) : Yields n p Q' := by
  obtain ⟨b, p', hn, hb⟩ := h
  exact ⟨b, p', hn, hQ b _ hb⟩

theorem yields_get {f : ExecutionProgress σ → Execution σ β} (h : Yields (f p) p Q) :
    Yields (get >>= f) p Q := h

variable {Q : Unit → PressureExecutionEvidence → Prop}

theorem yields_update {g : PressureExecutionEvidence → PressureExecutionEvidence}
    (h : Q () (g p.evidence)) : Yields (updateEvidence g) p Q :=
  ⟨(), _, rfl, h⟩

theorem yields_persist {store : PressureStore σ} (hstore : store.Reliable) (h : Q () p.evidence) :
    Yields (persist store) p Q := by
  have hok := hstore p.stored p.evidence
  refine ⟨(), { p with stored := (store.persist p.stored p.evidence).2 }, ?_, h⟩
  unfold persist
  rw [← Prod.eta (store.persist p.stored p.evidence), hok]

end Yields

section Runs

variable {σ : Type} {debug : PressureCleanupEvidence → String} {backend : PressureExecutionBackend}
  {store : PressureStore σ} {p : ExecutionProgress σ} {order : ℕ} {e : PressureExecutionEvidence}

theorem views_modifyRun {f : PressureRunRecord → PressureRunRecord}
    {g : RunView → RunView} (h : ∀ r, (f r).view = g r.view) :
    (e.modifyRun order f).views = e.views.modify order g := by
  apply List.ext_getElem?
  intro i
  simp only [PressureExecutionEvidence.views, PressureExecutionEvidence.modifyRun,
    List.getElem?_map, List.getElem?_modify]
  cases e.runs[i]? with
  | none => rfl
  | some r => by_cases hi : order = i <;> simp [hi, h]

theorem views_unchanged {f : PressureRunRecord → PressureRunRecord}
    (h : ∀ r, (f r).view = r.view) : (e.modifyRun order f).views = e.views := by
  rw [views_modifyRun (g := id) h, List.modify_id]

/-- Noting events changes no view and is answered as if nothing had to be stored. -/
theorem exec_onEvent (hstore : store.Reliable) {α : Type} (run : Prog persistence Unit α)
    (p : ExecutionProgress σ) :
    (run.exec (onEvent store order) p).1 = (run.exec acceptEvent ()).1 ∧
      (run.exec (onEvent store order) p).2.evidence.views = p.evidence.views ∧
      (run.exec (onEvent store order) p).2.evidence.state = p.evidence.state := by
  induction run generalizing p with
  | pure a => exact ⟨rfl, rfl, rfl⟩
  | call m event k ih =>
    have hreply : (onEvent store order event p).1 = .ok () := hstore _ _
    have hviews : (onEvent store order event p).2.evidence.views = p.evidence.views := by
      apply views_unchanged
      intro r
      cases event <;> rfl
    -- the callback answers what the backend expects of a store that does not fail
    obtain ⟨hvalue, hlater, hstate⟩ := ih (.ok ()) (onEvent store order event p).2
    simp only [Prog.exec]
    rw [hreply]
    exact ⟨hvalue, hlater.trans hviews, hstate⟩

theorem yields_runBackend (hstore : store.Reliable) :
    Yields (runBackend backend store order) p fun r e =>
      r = backend.outcome order ∧ e.views = p.evidence.views ∧ e.state = p.evidence.state :=
  ⟨_, _, rfl, exec_onEvent hstore (backend.executeRun order) p⟩

/-- The view of a run once it is judged. -/
def judgedView (state : PressureRunState) (v : RunView) : RunView := (v.1, state, v.2.2)

/-- The views are as given; the experiment goes on in the same state if and only if the run is
    reported as completed, and else is stopped in a state of its own. -/
structure Judged (state : PressureRunState) (views : List RunView)
    (experiment : PressureExperimentState) (goes : Bool) (e : PressureExecutionEvidence) : Prop where
  views : e.views = views
  onward : goes = true ↔ state = .completed
  running : goes = true → e.state = experiment
  stopped : goes = false → e.state ≠ .running ∧ e.state ≠ .completedFrameworkValidation

/-- Later changes to the state of a run replace earlier ones. -/
theorem views_rejudged {s₁ s₂ : PressureRunState}
    {views : List RunView} :
    (views.modify order (judgedView s₁)).modify order (judgedView s₂) =
      views.modify order (judgedView s₂) := by
  rw [List.modify_modify_eq]
  rfl

theorem structuralRestore_returned {after before : StructuralSnapshot}
    {result : PressureBackendRunResult} {planned : PlannedPressureRun} {state : PressureRunState}
    (hrun : e.views[order]? = some (planned, state, some before)) :
    ((e.modifyRun order (.returned after result)).runs[order]?).any
      PressureRunRecord.structuralRestore = before.agrees after := by
  simp only [PressureExecutionEvidence.views, List.getElem?_map] at hrun
  obtain ⟨r, hr, hview⟩ := Option.map_eq_some_iff.1 hrun
  have hbefore : r.structuralBefore = some before := congrArg (fun v => v.2.2) hview
  simp [PressureExecutionEvidence.modifyRun, hr, PressureRunRecord.returned,
    PressureRunRecord.structuralRestore, hbefore]

/-- A run that is stopped in some state other than `completed`. -/
theorem Judged.stop {state : PressureRunState} {views : List RunView}
    {experiment : PressureExperimentState} (hviews : e.views = views)
    (hstate : state ≠ .completed) (hrunning : e.state ≠ .running)
    (hcompleted : e.state ≠ .completedFrameworkValidation) :
    Judged state views experiment false e where
  views := hviews
  onward := ⟨fun h => (by cases h), fun h => absurd h hstate⟩
  running := fun h => (by cases h)
  stopped := fun _ => ⟨hrunning, hcompleted⟩

theorem judge_judged (hstore : store.Reliable) {result : PressureBackendRunResult}
    {structuralRestore : Bool} {views : List RunView}
    (hviews : p.evidence.views = views.modify order (judgedView result.state)) :
    Yields (judge debug store order result structuralRestore) p
      (Judged (judgedState result structuralRestore)
        (views.modify order (judgedView (judgedState result structuralRestore)))
        p.evidence.state) := by
  -- changing the state of the run once more
  have hchanged (state : PressureRunState) (f : PressureRunRecord → PressureRunRecord)
      (hf : ∀ r, (f r).view = judgedView state r.view) :
      (p.evidence.modifyRun order f).views = views.modify order (judgedView state) := by
    rw [views_modifyRun hf, hviews, views_rejudged]
  unfold judge judgedState
  by_cases hrestored : (result.cleanup.passed && structuralRestore) = false
  · rw [if_pos hrestored, if_pos hrestored]
    refine yields_bind (yields_update fun _ => yields_bind (yields_update fun _ =>
      yields_bind (yields_persist hstore fun _ => yields_pure ?_)))
    refine Judged.stop (hchanged _ _ fun _ => rfl) ?_ ?_ ?_ <;> exact fun h => (by cases h)
  · rw [if_neg hrestored, if_neg hrestored]
    cases hfailed : result.executionError with
    | some error =>
      refine yields_bind (yields_update fun _ => yields_bind (yields_update fun _ =>
        yields_bind (yields_persist hstore fun _ => yields_pure ?_)))
      refine Judged.stop (hchanged _ _ fun _ => rfl) ?_ ?_ ?_ <;> exact fun h => (by cases h)
    | none =>
      simp only [ne_eq, not_true_eq_false, if_false]
      -- the verdict of the backend decides
      rcases result.verdict with h | h | h | h <;>
        simp only [h, reduceCtorEq, if_true, if_false] at hviews ⊢
      · exact yields_pure
          { views := hviews
            onward := ⟨fun _ => rfl, fun _ => rfl⟩
            running := fun _ => rfl
            stopped := fun h => (by cases h) }
      all_goals
        refine yields_bind (yields_update fun _ => yields_pure (Judged.stop hviews ?_ ?_ ?_)) <;>
          exact fun h => (by cases h)

theorem settleResult_judged (hstore : store.Reliable) {result : PressureBackendRunResult}
    {planned : PlannedPressureRun} {state : PressureRunState}
    (hrun : p.evidence.views[order]? = some (planned, state, some (backend.before order))) :
    Yields (settleResult debug backend store order result) p
      (Judged (judgedState result ((backend.before order).agrees (backend.after order)))
        (p.evidence.views.modify order (judgedView
          (judgedState result ((backend.before order).agrees (backend.after order)))))
        p.evidence.state) := by
  have hreturned : (p.evidence.modifyRun order (.returned (backend.after order) result)).views =
      p.evidence.views.modify order (judgedView result.state) :=
    views_modifyRun fun _ => rfl
  refine yields_bind (yields_update fun _ => ?_)
  apply yields_get
  refine yields_bind (yields_update fun _ => ?_)
  refine yields_bind (yields_persist hstore fun _ => ?_)
  rw [structuralRestore_returned hrun]
  refine judge_judged hstore ?_
  -- the outcome of the restore is no part of the view
  rw [← hreturned]
  apply views_unchanged
  intro r
  rfl

/-- The view of a run that has been executed. -/
def executedView (backend : PressureExecutionBackend) (order : ℕ) (v : RunView) : RunView :=
  (v.1, backend.reportedState order, some (backend.before order))

/-- **One run.** Whatever the backend does, the run is reported with its state, and the experiment
    goes on only after a completed run. -/
theorem executeOrder_judged (hstore : store.Reliable) {run : RunView}
    (hrun : p.evidence.views[order]? = some run) :
    Yields (executeOrder debug backend store order) p
      (Judged (backend.reportedState order)
        (p.evidence.views.modify order (executedView backend order)) p.evidence.state) := by
  have hstarted : (p.evidence.modifyRun order fun r =>
        { r with structuralBefore := some (backend.before order) }).views =
      p.evidence.views.modify order fun v => (v.1, v.2.1, some (backend.before order)) :=
    views_modifyRun fun _ => rfl
  refine yields_bind (yields_update fun _ => ?_)
  refine yields_bind (yields_persist hstore fun _ => ?_)
  refine yields_bind (yields_mono (yields_runBackend hstore) ?_)
  rintro r e ⟨rfl, hviews, hstate⟩ stored
  -- the events of the run left the views as they were
  replace hviews := hviews.trans hstarted
  replace hstate : e.state = p.evidence.state := hstate
  have hexecuted (state : PressureRunState) :
      e.views.modify order (judgedView state) =
        p.evidence.views.modify order fun v => (v.1, state, some (backend.before order)) := by
    rw [hviews, List.modify_modify_eq]
    rfl
  unfold executedView PressureExecutionBackend.reportedState
  cases backend.outcome order with
  | error error =>
    refine yields_bind (yields_update fun _ => yields_bind (yields_update fun _ =>
      yields_bind (yields_persist hstore fun _ => yields_pure (Judged.stop ?_ ?_ ?_ ?_))))
    · rw [← hexecuted]
      exact views_modifyRun fun _ => rfl
    all_goals exact fun h => (by cases h)
  | ok result =>
    have hat : e.views[order]? = some (run.1, run.2.1, some (backend.before order)) := by
      rw [hviews, List.getElem?_modify_eq, hrun]
      rfl
    refine yields_mono (settleResult_judged hstore hat) ?_
    intro goes e' h
    rw [hexecuted] at h
    rw [← hstate]
    exact h

end Runs

/-! ## §5 What is reported in the end -/

theorem judgedState_eq_completed_iff {result : PressureBackendRunResult} {structuralRestore : Bool} :
    judgedState result structuralRestore = .completed ↔
      result.state = .completed ∧ result.executionError = none ∧ result.cleanup.passed = true ∧
        structuralRestore = true := by
  unfold judgedState
  by_cases hrestored : (result.cleanup.passed && structuralRestore) = true
  · obtain ⟨hpassed, hsame⟩ := Bool.and_eq_true_iff.1 hrestored
    rw [if_neg (by rw [hrestored]; exact Bool.noConfusion)]
    by_cases hfailed : result.executionError = none
    · simp [hfailed, hpassed, hsame]
    · simp [hfailed]
  · have hnot : ¬ (result.cleanup.passed = true ∧ structuralRestore = true) := by
      rwa [← Bool.and_eq_true_iff]
    rw [if_pos (Bool.not_eq_true _ ▸ hrestored)]
    refine iff_of_false (fun h => (by cases h)) ?_
    rintro ⟨-, -, hpassed, hsame⟩
    exact hnot ⟨hpassed, hsame⟩

/-- What the live backend makes of its workload is reported as completed only if the workload has
    returned. -/
theorem judgedState_finalize_iff {runResult : Except WorkloadError Unit}
    {finalState : PressureRunState} {verdict : finalState.IsVerdict} {reason : String}
    {cleanup : PressureCleanupEvidence} {structuralRestore : Bool} :
    judgedState (finalizePressureWorkloadResult runResult finalState verdict reason cleanup)
        structuralRestore = .completed ↔
      runResult = .ok () ∧ finalState = .completed ∧ cleanup.passed = true ∧
        structuralRestore = true := by
  rw [judgedState_eq_completed_iff]
  cases runResult with
  | ok _ => simp [finalizePressureWorkloadResult]
  | error e =>
    unfold finalizePressureWorkloadResult
    by_cases htimeout : e.timedOut = true <;> simp [htimeout]

/-- A run is clean if and only if it is reported as completed. -/
theorem clean_iff_reportedState {backend : PressureExecutionBackend} {order : ℕ} :
    backend.Clean order ↔ backend.reportedState order = .completed := by
  unfold PressureExecutionBackend.Clean PressureExecutionBackend.reportedState
  cases backend.outcome order with
  | error error =>
    refine iff_of_false ?_ (fun h => (by cases h))
    rintro ⟨result, h, -⟩
    cases h
  | ok result =>
    rw [judgedState_eq_completed_iff]
    constructor
    · rintro ⟨r, hr, h⟩
      cases hr
      exact h
    · exact fun h => ⟨result, rfl, h⟩

theorem judgedState_ne_planned {result : PressureBackendRunResult} {structuralRestore : Bool} :
    judgedState result structuralRestore ≠ .planned := by
  have hverdict : result.state ≠ .planned := by
    rcases result.verdict with h | h | h | h <;> rw [h] <;> exact fun h => (by cases h)
  unfold judgedState
  split
  · exact fun h => (by cases h)
  · split
    · exact fun h => (by cases h)
    · exact hverdict

/-- Every executed run has a verdict. -/
theorem reportedState_ne_planned {backend : PressureExecutionBackend} {order : ℕ} :
    backend.reportedState order ≠ .planned := by
  unfold PressureExecutionBackend.reportedState
  cases backend.outcome order with
  | error error => exact fun h => (by cases h)
  | ok result => exact judgedState_ne_planned

/-- The first `count` runs are executed, the others are still planned. -/
def Progressed (backend : PressureExecutionBackend) (plan : List PlannedPressureRun) (count : ℕ)
    (e : PressureExecutionEvidence) : Prop :=
  ∀ i, e.views[i]? = plan[i]?.map fun run =>
    if i < count then (run, backend.reportedState i, some (backend.before i))
    else (run, .planned, none)

/-- How the loop over the runs ends: with all runs completed, or stopped at the first other one. -/
inductive LoopEnd (backend : PressureExecutionBackend) (plan : List PlannedPressureRun)
    (start : ℕ) (e : PressureExecutionEvidence) : Prop
  | finished (clean : ∀ order, start ≤ order → order < plan.length → backend.Clean order)
      (progressed : Progressed backend plan plan.length e) (state : e.state = .running)
  | stopped (last : ℕ) (planned : last < plan.length)
      (clean : ∀ order, start ≤ order → order < last → backend.Clean order)
      (failing : ¬ backend.Clean last) (progressed : Progressed backend plan (last + 1) e)
      (state : e.state ≠ .running ∧ e.state ≠ .completedFrameworkValidation)

section Report

variable {σ : Type} {debug : PressureCleanupEvidence → String} {backend : PressureExecutionBackend}
  {store : PressureStore σ} {p : ExecutionProgress σ} {plan : List PlannedPressureRun}
  {e : PressureExecutionEvidence}

/-- Executing the next run. -/
theorem Progressed.next {count : ℕ} (h : Progressed backend plan count p.evidence)
    (hviews : e.views = p.evidence.views.modify count (executedView backend count)) :
    Progressed backend plan (count + 1) e := by
  intro i
  rw [hviews, List.getElem?_modify, h i]
  cases plan[i]? with
  | none => rfl
  | some run =>
    -- only the view of the run that was executed changes
    by_cases hi : count = i
    · subst hi
      simp [executedView]
    · have hlt : i < count + 1 ↔ i < count := by omega
      simp [hi, hlt]

theorem executeOrders_end (hstore : store.Reliable) {start remaining : ℕ}
    (hall : start + remaining = plan.length)
    (h : Progressed backend plan start p.evidence) (hstate : p.evidence.state = .running) :
    Yields (executeOrders debug backend store (List.range' start remaining)) p
      fun _ e => LoopEnd backend plan start e := by
  induction remaining generalizing start p with
  | zero =>
    refine yields_pure (.finished (fun order hle hlt => ?_) ?_ hstate)
    · omega
    · rw [← hall]
      exact h
  | succ remaining ih =>
    have hlt : start < plan.length := by omega
    -- the next run is still planned, and has no snapshot
    have hrun : p.evidence.views[start]? = some (plan[start], .planned, none) := by
      rw [h start, List.getElem?_eq_getElem hlt]
      simp
    refine yields_bind (yields_mono (executeOrder_judged hstore hrun) ?_)
    intro goes e hjudged stored
    cases goes with
    | true =>
      have hclean : backend.Clean start := clean_iff_reportedState.2 (hjudged.onward.1 rfl)
      refine yields_mono (ih (by omega) (h.next hjudged.views)
        ((hjudged.running rfl).trans hstate)) ?_
      intro _ e' hend
      -- the clean run is put before what the rest of the loop has found
      have hbefore (bound : ℕ) (hlater : ∀ order, start + 1 ≤ order → order < bound →
          backend.Clean order) (order : ℕ) (hle : start ≤ order) (hbound : order < bound) :
          backend.Clean order := by
        rcases Nat.eq_or_lt_of_le hle with rfl | hlt
        · exact hclean
        · exact hlater order hlt hbound
      cases hend with
      | finished clean progressed state => exact .finished (hbefore _ clean) progressed state
      | stopped last planned clean failing progressed state =>
        exact .stopped last planned (hbefore _ clean) failing progressed state
    | false =>
      refine yields_pure (.stopped start hlt (fun order hle hlt => ?_) ?_ (h.next hjudged.views)
        (hjudged.stopped rfl))
      · omega
      · intro hclean
        have hgoes := hjudged.onward.2 (clean_iff_reportedState.1 hclean)
        cases hgoes

/-- What becomes of the view of a run at the end of a stopped experiment. -/
def concludedView (v : RunView) : RunView :=
  if v.2.1 = .planned then (v.1, .notExecutedAfterStop, v.2.2) else v

theorem views_concluded (h : e.state ≠ .running) :
    e.concluded.views = e.views.map concludedView := by
  unfold PressureExecutionEvidence.concluded
  rw [if_neg h]
  simp only [PressureExecutionEvidence.views, List.map_map]
  congr 1
  funext r
  by_cases hplanned : r.state = .planned <;>
    simp [PressureRunRecord.view, concludedView, hplanned]

/-- What the evidence of an experiment says about the runs of its plan. -/
structure Reported (backend : PressureExecutionBackend) (plan : List PlannedPressureRun)
    (e : PressureExecutionEvidence) : Prop where
  /-- There is a record for each planned run. -/
  recorded : e.runs.map PressureRunRecord.planned = plan
  /-- The experiment is completed if and only if all runs are clean; -/
  completed : e.state = .completedFrameworkValidation ↔
    ∀ order < plan.length, backend.Clean order
  /-- then all of them are executed and completed. -/
  finished : e.state = .completedFrameworkValidation → ∀ run ∈ e.runs,
    run.structuralBefore.isSome = true ∧ run.state = .completed
  /-- Otherwise the executed runs are those up to the first one that is not clean. -/
  stopped : e.state ≠ .completedFrameworkValidation → ∃ last < plan.length,
    (∀ order < last, backend.Clean order) ∧ ¬ backend.Clean last ∧
    ∀ order run, e.runs[order]? = some run →
      (run.structuralBefore.isSome = true ↔ order ≤ last) ∧
      (order ≤ last → run.state = backend.reportedState order) ∧
      (last < order → run.state = .notExecutedAfterStop)
  /-- A run that did not clean up or did not restore the host is a safety abort. -/
  aborted : ∀ order run result, e.runs[order]? = some run → run.structuralBefore.isSome = true →
    backend.outcome order = .ok result →
    (result.cleanup.passed = false ∨
      (backend.before order).agrees (backend.after order) = false) → run.state = .safetyAbort
  /-- No run is left as planned. -/
  settled : ∀ run ∈ e.runs, run.state ≠ .planned

/-- The first `count` runs are executed, the others are given up. -/
def Concluded (backend : PressureExecutionBackend) (plan : List PlannedPressureRun) (count : ℕ)
    (e : PressureExecutionEvidence) : Prop :=
  ∀ i, e.views[i]? = plan[i]?.map fun run =>
    if i < count then (run, backend.reportedState i, some (backend.before i))
    else (run, .notExecutedAfterStop, none)

theorem Progressed.finished (h : Progressed backend plan plan.length e)
    (hstate : e.state = .running) : Concluded backend plan plan.length e.concluded := by
  intro i
  have hviews : e.concluded.views = e.views := by
    unfold PressureExecutionEvidence.concluded
    rw [if_pos hstate]
    rfl
  rw [hviews, h i]
  cases hi : plan[i]? with
  | none => rfl
  | some run =>
    have hlt := (List.getElem?_eq_some_iff.1 hi).1
    simp [hlt]

theorem Progressed.stopped {count : ℕ} (h : Progressed backend plan count e)
    (hstate : e.state ≠ .running) : Concluded backend plan count e.concluded := by
  intro i
  rw [views_concluded hstate, List.getElem?_map, h i]
  cases plan[i]? with
  | none => rfl
  | some run =>
    by_cases hlt : i < count
    · simp [hlt, concludedView, reportedState_ne_planned]
    · simp [hlt, concludedView]

section Concluded

variable {count order : ℕ} {run : PressureRunRecord}

theorem Concluded.recorded (h : Concluded backend plan count e) :
    e.runs.map PressureRunRecord.planned = plan := by
  apply List.ext_getElem?
  intro i
  have hview := congrArg (Option.map Prod.fst) (h i)
  simp only [PressureExecutionEvidence.views, List.getElem?_map, Option.map_map] at hview ⊢
  refine Eq.trans hview ?_
  cases plan[i]? with
  | none => rfl
  | some run => by_cases hlt : i < count <;> simp [hlt]

/-- The record of a run, depending on whether it was executed. -/
theorem Concluded.record (h : Concluded backend plan count e) (hrun : e.runs[order]? = some run) :
    (order < count ∧ run.structuralBefore.isSome = true ∧
        run.state = backend.reportedState order) ∨
      (count ≤ order ∧ run.structuralBefore.isSome = false ∧
        run.state = .notExecutedAfterStop) := by
  have hview := h order
  simp only [PressureExecutionEvidence.views, List.getElem?_map, hrun, Option.map_some] at hview
  -- a record has a planned run, and its view is that of the run
  obtain ⟨planned, -, hview⟩ := Option.map_eq_some_iff.1 hview.symm
  have hstate := congrArg (fun v => v.2.1) hview
  have hbefore := congrArg (fun v => v.2.2) hview
  dsimp only [PressureRunRecord.view] at hstate hbefore
  by_cases hlt : order < count
  · rw [if_pos hlt] at hstate hbefore
    exact .inl ⟨hlt, by rw [← hbefore]; rfl, hstate.symm⟩
  · rw [if_neg hlt] at hstate hbefore
    exact .inr ⟨not_lt.1 hlt, by rw [← hbefore]; rfl, hstate.symm⟩

theorem Concluded.settled (h : Concluded backend plan count e) : ∀ run ∈ e.runs,
    run.state ≠ .planned := by
  intro run hmem
  obtain ⟨order, hrun⟩ := List.getElem?_of_mem hmem
  rcases h.record hrun with ⟨-, -, hstate⟩ | ⟨-, -, hstate⟩
  · rw [hstate]
    exact reportedState_ne_planned
  · rw [hstate]
    exact fun h => (by cases h)

theorem Concluded.aborted (h : Concluded backend plan count e) {result : PressureBackendRunResult}
    (hrun : e.runs[order]? = some run) (hexecuted : run.structuralBefore.isSome = true)
    (hresult : backend.outcome order = .ok result)
    (hfailed : result.cleanup.passed = false ∨
      (backend.before order).agrees (backend.after order) = false) : run.state = .safetyAbort := by
  rcases h.record hrun with ⟨-, -, hstate⟩ | ⟨-, hnot, -⟩
  · rw [hstate, PressureExecutionBackend.reportedState, hresult]
    apply if_pos
    rcases hfailed with h | h <;> simp [h]
  · rw [hexecuted] at hnot
    cases hnot

end Concluded

/-- The report follows from how the loop ended. -/
theorem LoopEnd.reported (h : LoopEnd backend plan 0 e) : Reported backend plan e.concluded := by
  cases h with
  | finished clean progressed state =>
    -- all runs were clean, so the loop ended at the end of the plan
    have hconcluded := progressed.finished state
    have hstate : e.concluded.state = .completedFrameworkValidation := by
      unfold PressureExecutionEvidence.concluded
      rw [if_pos state]
    exact
      { recorded := hconcluded.recorded
        completed := iff_of_true hstate fun order hlt => clean order (Nat.zero_le _) hlt
        finished := fun _ run hmem => by
          obtain ⟨order, hrun⟩ := List.getElem?_of_mem hmem
          rcases hconcluded.record hrun with ⟨hlt, hexecuted, hreported⟩ | ⟨hle, -, -⟩
          · rw [hreported]
            exact ⟨hexecuted, clean_iff_reportedState.1 (clean order (Nat.zero_le _) hlt)⟩
          · -- there is no record beyond the plan
            have hlength := congrArg List.length hconcluded.recorded
            have hlt := (List.getElem?_eq_some_iff.1 hrun).1
            rw [List.length_map] at hlength
            omega
        stopped := fun hnot => absurd hstate hnot
        aborted := fun order run result hrun hexecuted hresult hfailed =>
          hconcluded.aborted hrun hexecuted hresult hfailed
        settled := hconcluded.settled }
  | stopped last planned clean failing progressed state =>
    -- the run that was not clean is the last one executed
    have hconcluded := progressed.stopped state.1
    have hstate : e.concluded.state = e.state := by
      unfold PressureExecutionEvidence.concluded
      rw [if_neg state.1]
    have hnot : e.concluded.state ≠ .completedFrameworkValidation := hstate ▸ state.2
    exact
      { recorded := hconcluded.recorded
        completed := iff_of_false hnot fun hall => failing (hall last planned)
        finished := fun hcompleted => absurd hcompleted hnot
        stopped := fun _ => by
          refine ⟨last, planned, fun order hlt => clean order (Nat.zero_le _) hlt, failing, ?_⟩
          intro order run hrun
          rcases hconcluded.record hrun with ⟨hlt, hexecuted, hreported⟩ | ⟨hle, hexecuted, hreported⟩
          · exact ⟨iff_of_true hexecuted (by omega), fun _ => hreported, fun h => (by omega)⟩
          · exact ⟨iff_of_false (by simp [hexecuted]) (by omega), fun h => (by omega),
              fun _ => hreported⟩
        aborted := fun order run result hrun hexecuted hresult hfailed =>
          hconcluded.aborted hrun hexecuted hresult hfailed
        settled := hconcluded.settled }

/-- **The pressure experiment.** Whatever the backend does, an experiment whose runs are all
    planned and whose store does not fail is executed to its end, and its evidence says truthfully
    what became of each run. -/
theorem executePressureWithBackend_reported (hstore : store.Reliable)
    (hplanned : ∀ run ∈ plan, run.state = .planned) (experimentId : String) (stored : σ) :
    ∃ e, executePressureWithBackend debug backend store experimentId plan stored = .ok e ∧
      Reported backend plan e := by
  -- before the first order every run is planned
  have hprogressed : Progressed backend plan 0 (.planned experimentId plan) := by
    intro i
    simp only [PressureExecutionEvidence.views, PressureExecutionEvidence.planned,
      List.getElem?_map, Option.map_map, Nat.not_lt_zero, if_false]
    cases hi : plan[i]? with
    | none => rfl
    | some run => simp [PressureRunRecord.view, hplanned run (List.mem_of_getElem? hi)]
  have hlength : (PressureExecutionEvidence.planned experimentId plan).runs.length =
      plan.length := List.length_map _
  have hyields : Yields (executeExperiment debug backend store)
      { evidence := .planned experimentId plan, stored := stored }
      fun evidence _ => Reported backend plan evidence := by
    refine yields_bind (yields_persist hstore fun _ => ?_)
    apply yields_get
    rw [hlength, List.range_eq_range']
    refine yields_bind (yields_mono (executeOrders_end hstore (Nat.zero_add _) hprogressed rfl) ?_)
    intro _ e hend _
    refine yields_bind (yields_update fun _ => yields_bind (yields_persist hstore fun _ => ?_))
    exact yields_get (yields_pure hend.reported)
  obtain ⟨e, p', hrun, hreported⟩ := hyields
  refine ⟨e, ?_, hreported⟩
  unfold executePressureWithBackend
  rw [hrun]
  rfl

end Report

/-- A cleanup that has passed. -/
def cleanCleanup : PressureCleanupEvidence where
  workerAbsent := true
  preStopUnitPresent := true
  stopAction := .stopUnitRequested
  workerScopeStopped := true
  workerScopeZeroMembers := true
  workerScopeAbsent := true
  observerAbsent := true
  observerRuntimeDirectoryAbsent := true
  stopJobResult := some "done"
  finalActiveState := none
  finalSubState := none
  cgroupMemberCount := some 0
  unitRemoved := true
  removalWaitMs := 25
  classification := .clean
  failureReason := none

/-- A host with nothing configured. -/
def bareHost : StructuralSnapshot where
  swapTopology := []
  zramConfiguration := []
  zswapEnabled := some "N"
  ksmConfiguration := [("run", "0")]
  damonTreeShape := []

/-- A backend whose first run is clean and whose later runs fail. -/
def onceCleanBackend : PressureExecutionBackend where
  before _ := bareHost
  executeRun
    | 0 => .pure (.ok
        { state := .completed
          reason := "all planned levels completed"
          executionError := none
          cleanup := cleanCleanup
          verdict := .inl rfl })
    | _ => .pure (.error "worker did not start")
  after _ := bareHost

/-- The first repetition of a variant. -/
def plannedRun (orderIndex : ℕ) (variant : BenchmarkVariant) : PlannedPressureRun where
  orderIndex := orderIndex
  variant := variant
  repetitionIndex := 0
  runSeed := 7
  state := .planned

/-- Three runs of that backend: the second one fails, the third one is not executed. -/
theorem once_clean_experiment :
    ∃ e, executePressureWithBackend (fun _ => "") onceCleanBackend ⟨fun stored _ => (.ok (), stored)⟩
        "experiment" [plannedRun 0 .cachyosBaseline, plannedRun 1 .nemorObserve,
          plannedRun 2 .nemorObserve] () = .ok e ∧
      Reported onceCleanBackend [plannedRun 0 .cachyosBaseline, plannedRun 1 .nemorObserve,
        plannedRun 2 .nemorObserve] e :=
  executePressureWithBackend_reported (fun _ _ => rfl) (by decide) "experiment" ()

end Nemor.Pressure
