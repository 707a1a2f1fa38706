import Nemor.Observer.AllOrNothing

/-!
# Whether the absence of a unit was reported

The clean-up of an observer asks the service manager for the unit, and the validation of an
observer passes only when the unit is gone. The manager can answer with the unit, with the error
that there is no such unit, or not at all: the call may fail on its way or time out. The query
tells only the first answer from the rest.

- §1: the query
- §2: stop and wait
- §3: the report of a validation
- §4: when a query is answered
- §5: when absence is reported
- §6: a host that answers
-/

namespace Nemor.Observer.Absence

open UnixPath Fallible

/-! ## §1 The query -/

/-- Why a call of the manager fails. -/
inductive CallError where
  | noSuchUnit
  -- the transport, a timeout, or any other error
  | other (message : String)
  deriving DecidableEq

/-- One call of `GetUnit`: the proxy for the manager, and the reply with the path of the unit. -/
structure UnitCall where
  proxy : Except String Unit
  reply : Except CallError String

/-- `unit_exists`: the unit is there when the call returns one. -/
def unitExists (unitName : String) (call : UnitCall) : Except String Bool := do
  validateObserverUnitName unitName
  call.proxy
  -- `is_ok`: whatever the error is
  return call.reply.isOk

/-! ## §2 Stop and wait -/

/-- The calls of a stop. -/
structure StopCalls where
  existing : UnitCall
  job : Except String Unit

/-- What a stop has done: whether it has asked for the job, and its result. -/
structure StopRun where
  issued : Bool
  result : Except String Unit

/-- Ask for a stop of a unit that is there. -/
def stop (plan : ObserverServicePlan) (calls : StopCalls) : StopRun :=
  match unitExists plan.unitName calls.existing with
  | .error e => { issued := false, result := .error e }
  | .ok true => { issued := true, result := calls.job }
  | .ok false => { issued := false, result := .ok () }

/-- One round of the wait. -/
structure Round where
  existing : UnitCall
  runtimeDirectory : Bool

/-- The wait, over the rounds that there is time for. -/
def waitAbsent (plan : ObserverServicePlan) : List Round → Except String Unit
  | [] => .error "observer unit or RuntimeDirectory remained after cleanup"
  | round :: rounds => do
    let existing ← unitExists plan.unitName round.existing
    if !existing && !round.runtimeDirectory then return () else waitAbsent plan rounds

/-! ## §3 The report of a validation -/

/-- The report of a validation. -/
structure ObserverValidationReport where
  state : Option ObserverServiceState
  readiness : String
  structuralRestorePassed : Bool
  processAbsent : Bool
  unitAbsent : Bool
  cgroupAbsent : Bool
  runtimeStateCleaned : Bool
  sourceObserverArtifactVerified : Bool
  sourceObserverHashVerified : Bool
  stagedObserverBinaryCreated : Bool
  stagedObserverBinaryHashVerified : Bool
  stagedObserverBinarySingleLink : Bool
  stagedObserverBinaryCleanup : Bool
  stagedConfigCleanup : Bool
  errors : List String

/-- The answers of the host to one validation, in the order in which they are asked for. -/
structure ValidationAnswers where
  preflight : Except String Unit
  foreignNemord : Except String Unit
  propertyAudit : Except String Unit
  start : Except String ObserverServiceState
  lastStartState : Option ObserverServiceState
  identity : Except String Unit
  ready : Except String Unit
  alive : Except String Unit
  stop : StopCalls
  rounds : List Round
  startTicks : UInt32 → Option UInt64
  existing : UnitCall
  pathExists : PathBuf → Bool
  restored : Bool
  configCleanup : Except String Unit
  binaryCleanup : Except String Unit

namespace ObserverValidationReport

/-- Nothing has failed, and nothing is left. -/
def passed (r : ObserverValidationReport) : Bool :=
  r.errors.isEmpty && r.readiness == "telemetry_sample_persisted" && r.processAbsent &&
    r.unitAbsent && r.cgroupAbsent && r.runtimeStateCleaned && r.sourceObserverArtifactVerified &&
    r.sourceObserverHashVerified && r.stagedObserverBinaryCreated &&
    r.stagedObserverBinaryHashVerified && r.stagedObserverBinarySingleLink &&
    r.stagedObserverBinaryCleanup && r.stagedConfigCleanup && r.structuralRestorePassed

/-- The report before the start. -/
def initial : ObserverValidationReport where
  state := none
  readiness := "not_started"
  structuralRestorePassed := false
  processAbsent := false
  unitAbsent := false
  cgroupAbsent := false
  runtimeStateCleaned := false
  sourceObserverArtifactVerified := true
  sourceObserverHashVerified := true
  stagedObserverBinaryCreated := true
  stagedObserverBinaryHashVerified := true
  stagedObserverBinarySingleLink := true
  stagedObserverBinaryCleanup := false
  stagedConfigCleanup := false
  errors := []

/-- `errors.push`, if there is an error. -/
def note (r : ObserverValidationReport) : Except String Unit → ObserverValidationReport
  | .ok () => r
  | .error e => { r with errors := r.errors ++ [e] }

end ObserverValidationReport

open ObserverValidationReport

/-- The start and the time that the service is up. -/
def startPhase (answers : ValidationAnswers) : ObserverValidationReport :=
  match answers.start with
  | .error e => { initial with state := answers.lastStartState, errors := [e] }
  | .ok state =>
    match answers.identity, answers.ready with
    | .error e, _ | .ok (), .error e => { initial with state := some state, errors := [e] }
    | .ok (), .ok () =>
      { initial with state := some state, readiness := "telemetry_sample_persisted" }.note
        answers.alive

/-- `/sys/fs/cgroup` joined with a control group. -/
def cgroupPath (controlGroup : String) : PathBuf :=
  PathBuf.join ⟨"/sys/fs/cgroup"⟩ (String.ofList (controlGroup.toList.dropWhile (· == '/')))

/-- The validation: a start, a clean-up whatever has happened, and what is seen after it. -/
def validateObserverServiceWithBackend (plan : ObserverServicePlan) (answers : ValidationAnswers) :
    Except String ObserverValidationReport := do
  answers.preflight
  answers.foreignNemord
  answers.propertyAudit
  let report := ((startPhase answers).note (stop plan answers.stop).result).note
    (waitAbsent plan answers.rounds)
  return { report with
    processAbsent := report.state.all fun s => answers.startTicks s.mainPid != some s.startTicks
    -- `unwrap_or(true)`: an error of the query counts as a unit that is there
    unitAbsent := !(unitExists plan.unitName answers.existing).toOption.getD true
    cgroupAbsent := report.state.all fun s => !answers.pathExists (cgroupPath s.controlGroup)
    runtimeStateCleaned := !answers.pathExists (runtimeBase.join plan.runtimeDirectory)
    structuralRestorePassed := answers.restored }

/-- What `execute_observer_validation` adds to the report once the staged files are removed. -/
def recordCleanup (answers : ValidationAnswers) (report : ObserverValidationReport) :
    ObserverValidationReport :=
  let report := match answers.configCleanup with
    | .ok () => { report with stagedConfigCleanup := true }
    | .error e => report.note (.error ("staged config cleanup failed: " ++ e))
  match answers.binaryCleanup with
  | .ok () => { report with stagedObserverBinaryCleanup := true }
  | .error e => report.note (.error ("staged observer cleanup failed: " ++ e))

/-! ## §4 When a query is answered -/

/-- The name is accepted and the manager is reached. -/
def UnitCall.Placed (unitName : String) (call : UnitCall) : Prop :=
  validateObserverUnitName unitName = .ok () ∧ call.proxy = .ok ()

/-- The manager says that there is no such unit. -/
def UnitCall.Denies (call : UnitCall) : Prop := call.reply = .error .noSuchUnit

/-- The call fails for another reason. -/
def UnitCall.Fails (call : UnitCall) : Prop := ∃ message, call.reply = .error (.other message)

section Queries

variable {plan : ObserverServicePlan} {unitName : String} {call : UnitCall} {round : Round}
  {before after rounds : List Round}

theorem unitExists_eq_ok {existing : Bool} :
    unitExists unitName call = .ok existing ↔
      call.Placed unitName ∧ call.reply.isOk = existing := by
  unfold unitExists UnitCall.Placed
  cases validateObserverUnitName unitName <;> cases call.proxy <;>
    simp [bind, Except.bind, pure, Except.pure]

/-- A call that does not return the unit is denied or fails. -/
theorem denies_or_fails (h : call.reply.isOk = false) : call.Denies ∨ call.Fails := by
  unfold UnitCall.Denies UnitCall.Fails
  cases hreply : call.reply with
  | ok path => rw [hreply] at h; cases h
  | error e =>
    cases e with
    | noSuchUnit => exact .inl rfl
    | other message => exact .inr ⟨message, rfl⟩

theorem UnitCall.Fails.isOk (h : call.Fails) : call.reply.isOk = false := by
  obtain ⟨message, hreply⟩ := h
  rw [hreply]
  rfl

theorem UnitCall.Fails.not_denies (h : call.Fails) : ¬ call.Denies := by
  obtain ⟨message, hreply⟩ := h
  intro hdenies
  rw [UnitCall.Denies, hreply] at hdenies
  cases hdenies

/-- A round after which the wait goes on. -/
def Round.GoesOn (unitName : String) (round : Round) : Prop :=
  round.existing.Placed unitName ∧
    (round.existing.reply.isOk = true ∨ round.runtimeDirectory = true)

/-- A round that ends the wait well. -/
def Round.Ends (unitName : String) (round : Round) : Prop :=
  round.existing.Placed unitName ∧ round.existing.reply.isOk = false ∧
    round.runtimeDirectory = false

theorem waitAbsent_of_goesOn (h : round.GoesOn plan.unitName) :
    waitAbsent plan (round :: rounds) = waitAbsent plan rounds := by
  obtain ⟨hplaced, hsomething⟩ := h
  rw [waitAbsent, unitExists_eq_ok.2 ⟨hplaced, rfl⟩, ok_bind]
  rcases hsomething with hexists | hdirectory
  · simp [hexists]
  · simp [hdirectory]

theorem waitAbsent_of_ends (h : round.Ends plan.unitName) :
    waitAbsent plan (round :: rounds) = .ok () := by
  obtain ⟨hplaced, hexists, hdirectory⟩ := h
  rw [waitAbsent, unitExists_eq_ok.2 ⟨hplaced, rfl⟩, ok_bind]
  simp [hexists, hdirectory, pure, Except.pure]

/-- Every other round ends the wait with its error. -/
theorem goesOn_or_ends (h : waitAbsent plan (round :: rounds) = .ok ()) :
    round.GoesOn plan.unitName ∨ round.Ends plan.unitName := by
  rw [waitAbsent, bind_eq_ok] at h
  obtain ⟨existing, hexisting, _⟩ := h
  obtain ⟨hplaced, hreply⟩ := unitExists_eq_ok.1 hexisting
  cases hexists : round.existing.reply.isOk with
  | true => exact .inl ⟨hplaced, .inl hexists⟩
  | false =>
    cases hdirectory : round.runtimeDirectory with
    | true => exact .inl ⟨hplaced, .inr hdirectory⟩
    | false => exact .inr ⟨hplaced, hexists, hdirectory⟩

/-- The rounds up to the first one that ends the wait. -/
def UpTo (unitName : String) (rounds before : List Round) (round : Round) : Prop :=
  ∃ after, rounds = before ++ round :: after ∧ (∀ r ∈ before, r.GoesOn unitName) ∧
    round.Ends unitName

/-- **The wait.** It returns exactly with a first round that ends it. -/
theorem waitAbsent_eq_ok :
    waitAbsent plan rounds = .ok () ↔ ∃ before round, UpTo plan.unitName rounds before round := by
  constructor
  · intro h
    induction rounds with
    | nil => cases h
    | cons round rounds ih =>
      rcases goesOn_or_ends h with hgoes | hends
      · rw [waitAbsent_of_goesOn hgoes] at h
        obtain ⟨before, last, after, rfl, hbefore, hends⟩ := ih h
        exact ⟨round :: before, last, after, rfl, List.forall_mem_cons.2 ⟨hgoes, hbefore⟩, hends⟩
      · exact ⟨[], round, rounds, rfl, by simp, hends⟩
  · rintro ⟨before, round, after, rfl, hbefore, hends⟩
    induction before with
    | nil => exact waitAbsent_of_ends hends
    | cons first before ih =>
      obtain ⟨hgoes, hbefore⟩ := List.forall_mem_cons.1 hbefore
      rw [List.cons_append, waitAbsent_of_goesOn hgoes]
      exact ih hbefore

end Queries

/-! ## §5 When absence is reported -/

/-- The rounds that a wait makes. -/
def roundsMade (plan : ObserverServicePlan) : List Round → List Round
  | [] => []
  | round :: rounds =>
    round :: match unitExists plan.unitName round.existing with
      | .error _ => []
      | .ok existing => if !existing && !round.runtimeDirectory then [] else roundsMade plan rounds

/-- What a clean-up and a validation promise: where they go on as if the unit were gone, the
    manager has said so. -/
structure AbsenceProved (plan : ObserverServicePlan) (answers : ValidationAnswers) : Prop where
  stop : (stop plan answers.stop).result = .ok () → (stop plan answers.stop).issued = false →
    answers.stop.existing.Denies
  wait : waitAbsent plan answers.rounds = .ok () →
    ∃ r ∈ roundsMade plan answers.rounds, r.existing.Denies
  -- after the stop, which may be in the wait or at the end
  report : ∀ report, validateObserverServiceWithBackend plan answers = .ok report →
    (recordCleanup answers report).passed = true →
    answers.existing.Denies ∨ ∃ r ∈ roundsMade plan answers.rounds, r.existing.Denies

/-- The condition for it: no call for the unit fails where its reply decides. -/
structure Answered (plan : ObserverServicePlan) (answers : ValidationAnswers) : Prop where
  stop : answers.stop.existing.Placed plan.unitName → ¬ answers.stop.existing.Fails
  -- unless the manager has already denied the unit in an earlier round
  wait : ∀ before round, UpTo plan.unitName answers.rounds before round → round.existing.Fails →
    ∃ r ∈ before, r.existing.Denies

section Proved

variable {plan : ObserverServicePlan} {answers : ValidationAnswers} {calls : StopCalls}
  {rounds before : List Round} {round : Round} {report : ObserverValidationReport}

theorem stop_unissued_iff :
    (stop plan calls).result = .ok () ∧ (stop plan calls).issued = false ↔
      calls.existing.Placed plan.unitName ∧ calls.existing.reply.isOk = false := by
  rw [← unitExists_eq_ok]
  unfold stop
  cases unitExists plan.unitName calls.existing with
  | error e => simp
  | ok existing => cases existing <;> simp

theorem roundsMade_of_upTo (h : UpTo plan.unitName rounds before round) :
    roundsMade plan rounds = before ++ [round] := by
  obtain ⟨after, rfl, hbefore, hplaced, hexists, hdirectory⟩ := h
  induction before with
  | nil =>
    rw [List.nil_append, roundsMade, unitExists_eq_ok.2 ⟨hplaced, rfl⟩]
    simp [hexists, hdirectory]
  | cons first before ih =>
    obtain ⟨⟨hfirst, hsomething⟩, hbefore⟩ := List.forall_mem_cons.1 hbefore
    rw [List.cons_append, roundsMade, unitExists_eq_ok.2 ⟨hfirst, rfl⟩, ih hbefore]
    rcases hsomething with hexists | hdirectory
    · simp [hexists]
    · simp [hdirectory]

/-- A note is an error of the report, and no error is ever taken back. -/
theorem errors_note_eq_nil {result : Except String Unit} :
    (report.note result).errors = [] ↔ report.errors = [] ∧ result = .ok () := by
  cases result with
  | ok u => simp [note]
  | error e => simp [note]

theorem errors_recordCleanup (h : (recordCleanup answers report).errors = []) :
    report.errors = [] := by
  unfold recordCleanup at h
  cases hconfig : answers.configCleanup <;> cases hbinary : answers.binaryCleanup <;>
    simp [hconfig, hbinary, note] at h
  exact h

/-- A validation that passes has waited for the absence of the unit. -/
theorem waitAbsent_of_passed
    (hreport : validateObserverServiceWithBackend plan answers = .ok report)
    (hpassed : (recordCleanup answers report).passed = true) :
    waitAbsent plan answers.rounds = .ok () := by
  unfold validateObserverServiceWithBackend at hreport
  simp only [bind_eq_ok] at hreport
  obtain ⟨_, _, _, _, _, _, hrest⟩ := hreport
  have herrors : (recordCleanup answers report).errors = [] := by
    simp only [passed, Bool.and_eq_true, List.isEmpty_iff] at hpassed
    simp [hpassed]
  have hnone := errors_recordCleanup herrors
  obtain rfl := Except.ok.inj hrest
  exact (errors_note_eq_nil.1 hnone).2

/-- When no failing call decides, what is taken for absence was said by the manager. -/
theorem absenceProved_of_answered (h : Answered plan answers) : AbsenceProved plan answers := by
  have hwait : waitAbsent plan answers.rounds = .ok () →
      ∃ r ∈ roundsMade plan answers.rounds, r.existing.Denies := by
    intro hok
    obtain ⟨before, round, hupTo⟩ := waitAbsent_eq_ok.1 hok
    rw [roundsMade_of_upTo hupTo]
    -- the last round denies by itself, or one before it does
    obtain ⟨_, _, _, _, hexists, _⟩ := id hupTo
    rcases denies_or_fails hexists with hdenies | hfails
    · exact ⟨round, by simp, hdenies⟩
    · obtain ⟨r, hr, hdenies⟩ := h.wait before round hupTo hfails
      exact ⟨r, by simp [hr], hdenies⟩
  constructor
  · intro hok hissued
    obtain ⟨hplaced, hexists⟩ := stop_unissued_iff.1 ⟨hok, hissued⟩
    rcases denies_or_fails hexists with hdenies | hfails
    · exact hdenies
    · exact absurd hfails (h.stop hplaced)
  · exact hwait
  · intro report hreport hpassed
    exact .inr (hwait (waitAbsent_of_passed hreport hpassed))

/-- **Absence.** It is proved exactly when no failing call decides. -/
theorem absenceProved_iff : AbsenceProved plan answers ↔ Answered plan answers := by
  constructor
  · -- a failing call denies nothing, so the proof must come from another call
    intro h
    constructor
    · intro hplaced hfails
      obtain ⟨hok, hissued⟩ := stop_unissued_iff.2 ⟨hplaced, hfails.isOk⟩
      exact hfails.not_denies (h.stop hok hissued)
    · intro before round hupTo hfails
      have hmade := h.wait (waitAbsent_eq_ok.2 ⟨before, round, hupTo⟩)
      rw [roundsMade_of_upTo hupTo] at hmade
      obtain ⟨r, hr, hdenies⟩ := hmade
      rcases List.mem_append.1 hr with hr | hr
      · exact ⟨r, hr, hdenies⟩
      · obtain rfl := List.mem_singleton.1 hr
        exact absurd hdenies hfails.not_denies
  · exact absenceProved_of_answered

end Proved

/-- The unit may be anything: its lookup times out. -/
def timedOut : UnitCall where
  proxy := .ok ()
  reply := .error (.other "Connection timed out")

/-- The unit is found and its job done. After that no call for it is answered. -/
def unansweredValidation : ValidationAnswers where
  preflight := .ok ()
  foreignNemord := .ok ()
  propertyAudit := .ok ()
  start := .ok { mainPid := 4242, startTicks := 99, controlGroup := "/system.slice/o.service" }
  lastStartState := none
  identity := .ok ()
  ready := .ok ()
  alive := .ok ()
  stop := {
    existing := { proxy := .ok (), reply := .ok "/org/freedesktop/systemd1/unit/o" }
    job := .ok () }
  rounds := [{ existing := timedOut, runtimeDirectory := false }]
  startTicks := fun _ => none
  existing := timedOut
  pathExists := fun _ => false
  restored := true
  configCleanup := .ok ()
  binaryCleanup := .ok ()

theorem placed_sample {call : UnitCall} (h : call.proxy = .ok ()) :
    call.Placed sampleLaunch.servicePlan.unitName := ⟨by decide +kernel, h⟩

/-- A validation passes although the manager has never denied the unit, and a stop does nothing
    about a unit that it could not look up. -/
theorem absence_from_failed_lookup :
    (∃ report, validateObserverServiceWithBackend sampleLaunch.servicePlan unansweredValidation =
        .ok report ∧ (recordCleanup unansweredValidation report).passed = true) ∧
      (stop sampleLaunch.servicePlan { existing := timedOut, job := .ok () }).result = .ok () ∧
      (stop sampleLaunch.servicePlan { existing := timedOut, job := .ok () }).issued = false ∧
      ¬ timedOut.Denies ∧ ¬ AbsenceProved sampleLaunch.servicePlan unansweredValidation := by
  have hfails : timedOut.Fails := ⟨_, rfl⟩
  have hexists : unitExists sampleLaunch.servicePlan.unitName timedOut = .ok false :=
    unitExists_eq_ok.2 ⟨placed_sample rfl, rfl⟩
  have hends : waitAbsent sampleLaunch.servicePlan unansweredValidation.rounds = .ok () :=
    waitAbsent_of_ends ⟨placed_sample rfl, rfl, rfl⟩
  have hstopped : (stop sampleLaunch.servicePlan unansweredValidation.stop).result = .ok () := by
    unfold stop
    rw [unitExists_eq_ok.2 ⟨placed_sample rfl, rfl⟩]
    rfl
  obtain ⟨hunissued, hjob⟩ := (@stop_unissued_iff sampleLaunch.servicePlan
    { existing := timedOut, job := .ok () }).2 ⟨placed_sample rfl, rfl⟩
  refine ⟨⟨_, rfl, ?_⟩, hunissued, hjob, hfails.not_denies, ?_⟩
  · rw [hstopped, hends, show unansweredValidation.existing = timedOut from rfl, hexists]
    decide
  · intro h
    obtain ⟨r, hr, hdenies⟩ := h.wait hends
    have hmade : roundsMade sampleLaunch.servicePlan unansweredValidation.rounds =
        unansweredValidation.rounds := by
      unfold roundsMade unansweredValidation
      simp [hexists]
    rw [hmade] at hr
    obtain rfl := List.mem_singleton.1 hr
    exact hfails.not_denies hdenies

/-! ## §6 A host that answers -/

/-- The call of a query, when the unit is in a state. -/
def callOf (u : ServiceUnit) : UnitQuery → UnitCall
  -- without a manager there is no reply either
  | .noManager e => { proxy := .error e, reply := .error (.other e) }
  | .failed => timedOut
  | .answered =>
    { proxy := .ok ()
      reply := if u = .absent then .error .noSuchUnit else .ok "/org/freedesktop/systemd1/unit/o" }

/-- The unit in a round of the wait: the manager may unload it before the round. -/
def unitIn (u : ServiceUnit) (poll : AbsencePoll) : ServiceUnit :=
  if poll.unloaded then .absent else u

/-- The rounds of a wait on the unit of a host. -/
def roundsOf : ServiceUnit → List AbsencePoll → List Round
  | _, [] => []
  | u, poll :: polls =>
    { existing := callOf (unitIn u poll) poll.existing
      runtimeDirectory := poll.runtimeDirectory } :: roundsOf (unitIn u poll) polls

section Host

variable {plan : ObserverServicePlan} {u : ServiceUnit}

theorem unitExists_callOf (hname : validateObserverUnitName plan.unitName = .ok ())
    (query : UnitQuery) :
    (Nemor.Observer.unitExists query).run u =
      match unitExists plan.unitName (callOf u query) with
      | .ok existing => .ok existing u
      | .error e => .error e u := by
  unfold unitExists
  rw [hname, ok_bind]
  cases query with
  | noManager e => rfl
  | failed => rfl
  | answered =>
    cases u <;> rfl

/-- The procedure on the unit of a host stops it just as the calls say. -/
theorem stop_callOf (hname : validateObserverUnitName plan.unitName = .ok ())
    (answers : StopAnswers) :
    Procedure.result ((Nemor.Observer.stop answers).run u) =
      (stop plan { existing := callOf u answers.existing
                   job := Procedure.result ((stopJob answers.job).run u) }).result := by
  have hquery := @unitExists_callOf plan u hname answers.existing
  unfold Nemor.Observer.stop stop
  cases hexists : unitExists plan.unitName (callOf u answers.existing) with
  | error e =>
    rw [hexists] at hquery
    rw [Procedure.bind_error hquery]
    rfl
  | ok existing =>
    rw [hexists] at hquery
    rw [Procedure.bind_ok hquery]
    cases existing <;> rfl

/-- One round of the wait on the unit of a host. -/
theorem run_waitAbsent_cons (hname : validateObserverUnitName plan.unitName = .ok ())
    (poll : AbsencePoll) (polls : List AbsencePoll) :
    (Nemor.Observer.waitAbsent (poll :: polls)).run u =
      match unitExists plan.unitName (callOf (unitIn u poll) poll.existing) with
      | .error e => .error e (unitIn u poll)
      | .ok existing =>
        if !existing && !poll.runtimeDirectory then .ok () (unitIn u poll)
        else (Nemor.Observer.waitAbsent polls).run (unitIn u poll) := by
  have hcollect : (collect poll.unloaded).run u = .ok () (unitIn u poll) := rfl
  have hquery := @unitExists_callOf plan (unitIn u poll) hname poll.existing
  rw [Nemor.Observer.waitAbsent, Procedure.bind_ok hcollect]
  cases hexists : unitExists plan.unitName (callOf (unitIn u poll) poll.existing) with
  | error e =>
    rw [hexists] at hquery
    rw [Procedure.bind_error hquery]
  | ok existing =>
    rw [hexists] at hquery
    rw [Procedure.bind_ok hquery]
    by_cases hgone : (!existing && !poll.runtimeDirectory) = true
    · simp only [if_pos hgone]
      rfl
    · simp only [if_neg hgone]

/-- And it waits for its absence in the same way. -/
theorem waitAbsent_roundsOf (hname : validateObserverUnitName plan.unitName = .ok ())
    (polls : List AbsencePoll) :
    Procedure.result ((Nemor.Observer.waitAbsent polls).run u) =
      waitAbsent plan (roundsOf u polls) := by
  induction polls generalizing u with
  | nil => rfl
  | cons poll polls ih =>
    rw [run_waitAbsent_cons hname, roundsOf, waitAbsent]
    cases hexists : unitExists plan.unitName (callOf (unitIn u poll) poll.existing) with
    | error e => rfl
    | ok existing =>
      rw [ok_bind]
      by_cases hgone : (!existing && !poll.runtimeDirectory) = true
      · simp only [if_pos hgone]
        rfl
      · simp only [if_neg hgone]
        exact ih

theorem denies_callOf {query : UnitQuery} (h : (callOf u query).Denies) : u = .absent := by
  unfold UnitCall.Denies at h
  cases query with
  | noManager e => cases h
  | failed => cases h
  | answered =>
    by_contra hu
    simp [callOf, hu] at h

/-- Only a call that the host leaves unanswered fails once the manager is reached. -/
theorem failed_of_fails {query : UnitQuery} {unitName : String}
    (hplaced : (callOf u query).Placed unitName) (h : (callOf u query).Fails) :
    query = .failed := by
  obtain ⟨message, hreply⟩ := h
  cases query with
  | noManager e => cases hplaced.2
  | failed => rfl
  | answered => cases u <;> cases hreply

theorem mem_roundsOf {polls : List AbsencePoll} {r : Round} (h : r ∈ roundsOf u polls) :
    ∃ poll ∈ polls, ∃ now, r.existing = callOf now poll.existing := by
  induction polls generalizing u with
  | nil => cases h
  | cons poll polls ih =>
    rw [roundsOf] at h
    rcases List.mem_cons.1 h with rfl | h
    · exact ⟨poll, by simp, _, rfl⟩
    · obtain ⟨later, hlater, now, hnow⟩ := ih h
      exact ⟨later, by simp [hlater], now, hnow⟩

/-- A wait does not bring a unit back. -/
theorem waitAbsent_absent (hname : validateObserverUnitName plan.unitName = .ok ())
    (polls : List AbsencePoll) :
    Procedure.final ((Nemor.Observer.waitAbsent polls).run .absent) = .absent := by
  induction polls with
  | nil => rfl
  | cons poll polls ih =>
    have hin : unitIn .absent poll = .absent := ite_self _
    rw [run_waitAbsent_cons hname, hin]
    cases unitExists plan.unitName (callOf .absent poll.existing) with
    | error e => rfl
    | ok existing =>
      by_cases hgone : (!existing && !poll.runtimeDirectory) = true
      · simp only [if_pos hgone]
        rfl
      · simp only [if_neg hgone]
        exact ih

/-- A unit that the manager has denied in a round of the wait is gone after it. -/
theorem final_of_denied (hname : validateObserverUnitName plan.unitName = .ok ())
    {polls : List AbsencePoll}
    (h : ∃ r ∈ roundsMade plan (roundsOf u polls), r.existing.Denies) :
    Procedure.final ((Nemor.Observer.waitAbsent polls).run u) = .absent := by
  obtain ⟨r, hr, hdenies⟩ := h
  induction polls generalizing u with
  | nil => cases hr
  | cons poll polls ih =>
    rw [roundsOf, roundsMade] at hr
    rw [run_waitAbsent_cons hname]
    rcases List.mem_cons.1 hr with rfl | hr
    · -- denied in this round, so the unit is not there from here on
      rw [denies_callOf hdenies]
      cases unitExists plan.unitName (callOf .absent poll.existing) with
      | error e => rfl
      | ok existing =>
        by_cases hgone : (!existing && !poll.runtimeDirectory) = true
        · simp only [if_pos hgone]
          rfl
        · simp only [if_neg hgone]
          exact waitAbsent_absent hname polls
    · cases hexists : unitExists plan.unitName (callOf (unitIn u poll) poll.existing) with
      | error e => simp [hexists] at hr
      | ok existing =>
        by_cases hgone : (!existing && !poll.runtimeDirectory) = true
        · simp [hexists, hgone] at hr
        · simp only [if_neg hgone]
          simp only [hexists, if_neg hgone] at hr
          exact ih hr

end Host

/-- What a validation is told about the unit of a host: the calls of its stop and the rounds of
    its wait are those of the clean-up. -/
def ValidationAnswers.onHost (answers : ValidationAnswers) (o : ObserverAnswers)
    (u : ServiceUnit) : ValidationAnswers :=
  { answers with
    stop := {
      existing := callOf u o.stop.existing
      job := Procedure.result ((stopJob o.stop.job).run u) }
    rounds := roundsOf (Procedure.final ((Nemor.Observer.stop o.stop).run u)) o.polls }

/-- The manager answers every query of a clean-up for which it is reached. -/
structure Responds (o : ObserverAnswers) : Prop where
  stop : o.stop.existing ≠ .failed
  polls : ∀ poll ∈ o.polls, poll.existing ≠ .failed

section Hosts

variable {plan : ObserverServicePlan} {answers : ValidationAnswers} {o : ObserverAnswers}
  {u : ServiceUnit}

/-- A clean-up of a host succeeds when the stop and the wait of the validation do. -/
theorem succeeds_tearDown_iff (hname : validateObserverUnitName plan.unitName = .ok ()) :
    (tearDown o u).Succeeds ↔
      (stop plan (answers.onHost o u).stop).result = .ok () ∧
        waitAbsent plan (answers.onHost o u).rounds = .ok () := by
  unfold TearDown.Succeeds tearDown ValidationAnswers.onHost
  rw [← waitAbsent_roundsOf hname, ← stop_callOf hname]

theorem Responds.answered (h : Responds o) : Answered plan (answers.onHost o u) := by
  constructor
  · intro hplaced hfails
    exact h.stop (failed_of_fails hplaced hfails)
  · intro before round hupTo hfails
    -- there is no such round, since no poll is left unanswered
    obtain ⟨after, hrounds, _, hplaced, _⟩ := hupTo
    have hround : round ∈ (answers.onHost o u).rounds := by
      rw [hrounds]
      simp
    obtain ⟨poll, hpoll, now, hcall⟩ := mem_roundsOf hround
    rw [hcall] at hplaced hfails
    exact absurd (failed_of_fails hplaced hfails) (h.polls poll hpoll)

/-- **Clean-up of a host.** If no failing call decides, a clean-up that succeeds leaves no
    unit. -/
theorem absent_of_succeeds (hname : validateObserverUnitName plan.unitName = .ok ())
    (hanswered : Answered plan (answers.onHost o u)) (h : (tearDown o u).Succeeds) :
    (tearDown o u).unit = .absent := by
  obtain ⟨_, hwait⟩ := (@succeeds_tearDown_iff plan answers o u hname).1 h
  exact final_of_denied hname ((absenceProved_of_answered hanswered).wait hwait)

/-- On a host that answers, it is gone exactly when the clean-up says so. -/
theorem gone_iff_of_responds (hname : validateObserverUnitName plan.unitName = .ok ())
    (h : Responds o) : Gone o u ↔ (tearDown o u).Succeeds := by
  constructor
  · exact fun hgone => hgone.1
  · intro hdown
    -- the rest of the validation plays no part
    have hanswered : Answered plan (unansweredValidation.onHost o u) := h.answered
    refine ⟨hdown, ?_⟩
    rw [absent_of_succeeds hname hanswered hdown]
    decide

end Hosts

end Nemor.Observer.Absence
