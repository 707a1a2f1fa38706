import Nemor.Lib.Machine
import Nemor.Policy.Clock

/-!
# The sampling loop of the daemon

The daemon collects system samples and process samples on two intervals of their own. A system
sample that was collected is kept until the next one; a collection that fails leaves the last one
in place. The policy is evaluated on process ticks, on the last system sample and with the time of
the tick. The age of the sample is not looked at.

- §1: samples and rates
- §2: ticks
- §3: the loop
- §4: what a sample that is not renewed can still do
-/

namespace Nemor.Daemon

open Machine MachineNumbers Policy

/-! ## §1 Samples and rates -/

/-- A swap area, as far as the loop adds it up. -/
structure SwapEntry where
  sizeBytes : UInt64
  usedBytes : UInt64

/-- Averages over ten seconds. -/
structure PsiSample where
  someAvg10 : Option F64
  fullAvg10 : Option F64

/-- The fields of a system sample that the policy reads. -/
structure SystemSample where
  timestampNs : Int64
  memTotalBytes : UInt64
  memAvailableBytes : UInt64
  swapInPages : Option UInt64
  swapOutPages : Option UInt64
  majorFaults : Option UInt64
  pgscan : Option UInt64
  pgsteal : Option UInt64
  psiMemory : Option PsiSample
  swapEntries : List SwapEntry

/-- The two floating-point computations of the loop. -/
structure FloatOps where
  /-- `available as f64 * 100.0 / total as f64` -/
  percent : UInt64 → UInt64 → F64
  /-- `delta as f64 / (elapsed as f64 / 1_000_000_000.0)` -/
  perSecond : UInt64 → Int64 → F64

/-- The counters of a sample that rates are taken of, and its time. -/
structure CounterSample where
  timestampNs : Int64
  swapIn : Option UInt64
  swapOut : Option UInt64
  majorFaults : Option UInt64
  pgscan : Option UInt64
  pgsteal : Option UInt64

/-- Rates between two samples. One that cannot be taken is missing. -/
structure RateFeatures where
  swapInPerSecond : Option F64
  swapOutPerSecond : Option F64
  majorFaultsPerSecond : Option F64
  pgscanPerSecond : Option F64
  pgstealPerSecond : Option F64

/-- No rate is known. -/
def RateFeatures.default : RateFeatures := ⟨none, none, none, none, none⟩

/-- The counters of a sample. -/
def SystemSample.counters (sample : SystemSample) : CounterSample where
  timestampNs := sample.timestampNs
  swapIn := sample.swapInPages
  swapOut := sample.swapOutPages
  majorFaults := sample.majorFaults
  pgscan := sample.pgscan
  pgsteal := sample.pgsteal

/-- A positive span between two timestamps that fits the register. -/
def elapsedNs (previous current : Int64) : Option Int64 :=
  if 0 < current.toInt - previous.toInt ∧
      current.toInt - previous.toInt ≤ Int64.maxValue.toInt then
    some (current - previous)
  else none

section Rates

variable (floats : FloatOps)

/-- A counter that went back has no rate. -/
def rate (previous current : Option UInt64) (elapsed : Option Int64) : Option F64 := do
  let previous ← previous
  let current ← current
  let elapsed ← elapsed
  if previous ≤ current then some (floats.perSecond (current - previous) elapsed) else none

/-- `RateTracker::update`: the rates since the previous counters, if there are any. -/
def updateRates (tracker : Option CounterSample) (current : CounterSample) : RateFeatures :=
  match tracker with
  | none => .default
  | some previous =>
    let elapsed := elapsedNs previous.timestampNs current.timestampNs
    { swapInPerSecond := rate floats previous.swapIn current.swapIn elapsed
      swapOutPerSecond := rate floats previous.swapOut current.swapOut elapsed
      majorFaultsPerSecond := rate floats previous.majorFaults current.majorFaults elapsed
      pgscanPerSecond := rate floats previous.pgscan current.pgscan elapsed
      pgstealPerSecond := rate floats previous.pgsteal current.pgsteal elapsed }

end Rates

/-- A sum that does not fit is no sum. -/
def checkedSum (values : List UInt64) : Option UInt64 :=
  values.foldlM (fun total value =>
    if total.toNat + value.toNat < UInt64.size then some (total + value) else none) 0

/-! ## §2 Ticks -/

/-- What the loop counts of a classified process. -/
structure ClassifiedProcess where
  unknown : Bool
  isGame : Bool
  isCritical : Bool
  isProtected : Bool
  foreground : ForegroundState

/-- What the workload classifier comes to. -/
inductive ClassificationOutcome where
  | classified (workload : WorkloadClass) (confidence : F64)
  | unknown

namespace ClassificationOutcome

/-- The class, if there is one. -/
def workload : ClassificationOutcome → Option WorkloadClass
  | .classified workload _ => some workload
  | .unknown => none

/-- The confidence in it. -/
def confidence : ClassificationOutcome → Option F64
  | .classified _ confidence => some confidence
  | .unknown => none

end ClassificationOutcome

/-- What a system tick meets: the clock, the collector and the storage. -/
structure SystemTick where
  timestamp : Except String Int64
  sample : Except String SystemSample
  stored : Except String Unit

/-- What a process tick meets: two clocks, the collector with the classifier, and the storage. -/
structure ProcessTick where
  timestamp : Except String Int64
  now : ℕ
  processes : Except String (List ClassifiedProcess)
  outcome : ClassificationOutcome
  history : Except String (UInt64 × UInt64)
  storePolicy : Except String Bool
  storeAudits : Except String Unit
  storeClassified : Except String Unit

/-- What wakes the loop. -/
inductive Tick where
  | shutdown
  | system (tick : SystemTick)
  | process (tick : ProcessTick)
  | retention (done : Except String Unit)

/-- The tick brings a new system sample. -/
def Tick.Collects : Tick → Prop
  | .system tick => ∃ sample, tick.sample = .ok sample
  | _ => False

/-! ## §3 The loop -/

/-- What the loop is configured with. -/
structure LoopConfig where
  floats : FloatOps
  pressure : PressureConfig
  policyEnabled : Bool
  evaluationIntervalMs : ℕ
  classificationIntervalMs : ℕ
  cgroupCapabilities : Option Actuator.CgroupCapabilities

/-- What the loop keeps between two ticks. -/
structure LoopState where
  latestSystem : Option SystemSample
  latestRates : RateFeatures
  tracker : Option CounterSample
  engine : PolicyEngine
  nextClassification : ℕ
  nextPolicy : ℕ
  /-- Why the loop has ended. -/
  stopped : Option String

/-- One evaluation of the policy. -/
structure PolicyEvaluation where
  input : PolicyInput
  result : Except PolicyError PolicyDecision

/-- The evaluation commits a change of the pressure state. -/
def PolicyEvaluation.changes (e : PolicyEvaluation) : Bool :=
  match e.result with
  | .ok decision => decision.stateChanged
  | .error _ => false

/-- Milliseconds in nanoseconds. -/
def millis (ms : ℕ) : ℕ := ms * 1000000

/-- Whether something is in the foreground, as far as it is known. -/
def foregroundOf (classified : List ClassifiedProcess) : ForegroundState :=
  if classified.any fun process => decide (process.foreground = .foreground) then .foreground
  else if !classified.isEmpty &&
      classified.all fun process => decide (process.foreground = .background) then .background
  else .unknown

/-- How many processes have a property. -/
def count (p : ClassifiedProcess → Bool) (classified : List ClassifiedProcess) : UInt64 :=
  UInt64.ofNat (classified.countP p)

section Loop

variable (config : LoopConfig)

/-- The input of an evaluation, from the last system sample and the tick. -/
def policyInput (system : SystemSample) (rates : RateFeatures) (timestampNs : Int64)
    (classified : List ClassifiedProcess) (outcome : ClassificationOutcome)
    (history : UInt64 × UInt64) : PolicyInput where
  timestampNs := timestampNs
  ramTotalBytes := system.memTotalBytes
  memAvailableBytes := system.memAvailableBytes
  availablePercent := config.floats.percent system.memAvailableBytes system.memTotalBytes
  swapTotalBytes := checkedSum (system.swapEntries.map SwapEntry.sizeBytes)
  swapUsedBytes := checkedSum (system.swapEntries.map SwapEntry.usedBytes)
  swapInPerSecond := rates.swapInPerSecond
  swapOutPerSecond := rates.swapOutPerSecond
  majorFaultsPerSecond := rates.majorFaultsPerSecond
  pgscanPerSecond := rates.pgscanPerSecond
  pgstealPerSecond := rates.pgstealPerSecond
  psiMemorySomeAvg10 := system.psiMemory.bind PsiSample.someAvg10
  psiMemoryFullAvg10 := system.psiMemory.bind PsiSample.fullAvg10
  workloadClass := outcome.workload
  workloadConfidence := outcome.confidence
  gaming := classified.any ClassifiedProcess.isGame
  criticalProcesses := count ClassifiedProcess.isCritical classified
  protectedProcesses := count ClassifiedProcess.isProtected classified
  unknownProcesses := count ClassifiedProcess.unknown classified
  foreground := foregroundOf classified
  cgroupCapabilities := config.cgroupCapabilities
  actuatorAvailable := config.cgroupCapabilities.any Actuator.CgroupCapabilities.mutationReady
  recentSafetyEvents := history.2
  recentDecisions := history.1

/-- A tick of the sampler. A sample that fails is left out. -/
def onSystemTick (tick : SystemTick) (s : LoopState) : LoopState :=
  match tick.timestamp with
  | .error e => { s with stopped := some e }
  | .ok _ =>
    match tick.sample with
    -- the last sample and its rates stay
    | .error _ => s
    | .ok sample =>
      -- stored before it is used: a sample that cannot be stored ends the loop
      match tick.stored with
      | .error e => { s with stopped := some e }
      | .ok _ =>
        { s with
          latestRates := updateRates config.floats s.tracker sample.counters
          tracker := some sample.counters
          latestSystem := some sample }

/-- What is stored after an evaluation. -/
def storeDecision (tick : ProcessTick) : PolicyEvaluation → Except String Unit
  | ⟨_, .error _⟩ => .ok ()
  | ⟨_, .ok _⟩ => do
    let inserted ← tick.storePolicy
    if inserted then tick.storeAudits else pure ()

/-- The evaluation of the policy on a process tick, when it is due. -/
def evaluatePolicy (tick : ProcessTick) (timestampNs : Int64) (classified : List ClassifiedProcess)
    (outcome : ClassificationOutcome) (s : LoopState) : LoopState × Option PolicyEvaluation :=
  if config.policyEnabled = true ∧ s.nextPolicy ≤ tick.now then
    -- the next evaluation is due an interval from now, also if there is no sample yet
    let s := { s with nextPolicy := tick.now + millis config.evaluationIntervalMs }
    match s.latestSystem with
    | none => (s, none)
    | some system =>
      match tick.history with
      | .error e => ({ s with stopped := some e }, none)
      | .ok history =>
        let input := policyInput config system s.latestRates timestampNs classified outcome history
        -- the clock of the input is that of the process tick, the sample may be of any age
        let (result, engine) := s.engine.evaluateInPlace input true
        let evaluation := { input := input, result := result }
        let s := { s with engine := engine }
        match storeDecision tick evaluation with
        | .error e => ({ s with stopped := some e }, some evaluation)
        | .ok _ => (s, some evaluation)
  else (s, none)

/-- The classification of a process tick, when it is due, with the evaluation that goes with it. -/
def classify (tick : ProcessTick) (timestampNs : Int64) (classified : List ClassifiedProcess)
    (s : LoopState) : LoopState × Option PolicyEvaluation :=
  if s.nextClassification ≤ tick.now then
    let s := { s with nextClassification := tick.now + millis config.classificationIntervalMs }
    -- a timestamp before the epoch cannot be classified
    let outcome := if timestampNs < 0 then .unknown else tick.outcome
    evaluatePolicy config tick timestampNs classified outcome s
  else (s, none)

/-- A tick of the processes, with the evaluation of the policy that follows it. -/
def onProcessTick (tick : ProcessTick) (s : LoopState) : LoopState × Option PolicyEvaluation :=
  match tick.timestamp with
  | .error e => ({ s with stopped := some e }, none)
  | .ok timestampNs =>
    match tick.processes with
    | .error _ => (s, none)
    | .ok classified =>
      let (s, evaluation) := classify config tick timestampNs classified s
      match s.stopped, tick.storeClassified with
      -- not reached after an evaluation that has ended the loop
      | none, .error e => ({ s with stopped := some e }, evaluation)
      | _, _ => (s, evaluation)

/-- One turn of the loop. A loop that has ended does nothing more. -/
def turn (s : LoopState) (tick : Tick) : LoopState × Option PolicyEvaluation :=
  match s.stopped with
  | some _ => (s, none)
  | none =>
    match tick with
    | .shutdown => ({ s with stopped := some "shutdown" }, none)
    | .system tick => (onSystemTick config tick s, none)
    | .process tick => onProcessTick config tick s
    | .retention done =>
      match done with
      | .error e => ({ s with stopped := some e }, none)
      | .ok _ => (s, none)

/-- Before the first tick. -/
def LoopState.start : LoopState where
  latestSystem := none
  latestRates := .default
  tracker := none
  engine := .new config.pressure 0
  nextClassification := 0
  nextPolicy := 0
  stopped := none

end Loop

/-! ## §4 What a sample that is not renewed can still do -/

section Stale

variable (config : LoopConfig)

/-- The state that a sample and its rates ask for, whenever it is looked at. -/
def sampleTarget (system : SystemSample) (rates : RateFeatures) : PressureState :=
  observedTarget (policyInput config system rates 0 [] .unknown (0, 0)) config.pressure

/-- A sample and its rates carry some pressure signal. -/
def sampleSufficient (system : SystemSample) (rates : RateFeatures) : Bool :=
  sufficient (policyInput config system rates 0 [] .unknown (0, 0))

/-- The entry of a transcript commits a change of the pressure state. -/
def commits (entry : Tick × Option PolicyEvaluation) : Bool :=
  entry.2.any PolicyEvaluation.changes

/-- What becomes of the policy in turns without a new sample, from the state `s` on. -/
structure StaleCommits (s : LoopState) (log : List (Tick × Option PolicyEvaluation)) : Prop where
  /-- Every evaluation reads the last sample, whatever the time. -/
  reads : ∀ entry ∈ log, ∀ e, entry.2 = some e →
    ∃ system timestampNs classified outcome history, s.latestSystem = some system ∧
      e.input = policyInput config system s.latestRates timestampNs classified outcome history
  /-- Without a sample, or with one that carries no signal, nothing is committed. -/
  idle : (∀ system, s.latestSystem = some system →
      sampleSufficient config system s.latestRates = false) →
    ∀ entry ∈ log, commits entry = false
  /-- Otherwise what is committed is on the recovery path to what the sample asks for, -/
  path : ∀ entry ∈ log, ∀ e decision, entry.2 = some e → e.result = .ok decision →
    decision.stateChanged = true → ∃ system previous, s.latestSystem = some system ∧
      decision.previousState = some previous ∧
      decision.currentState = recoveryTarget previous (sampleTarget config system s.latestRates)
  /-- and this happens at most twice. -/
  bounded : (log.filter commits).length ≤ 2

variable {config}

/-- How many changes lead from a state to one that the target no longer moves. -/
def stepsLeft (target current : PressureState) : ℕ :=
  if recoveryTarget current target = current then 0
  else if recoveryTarget (recoveryTarget current target) target =
      recoveryTarget current target then 1
  else 2

theorem stepsLeft_le (target current : PressureState) : stepsLeft target current ≤ 2 := by
  unfold stepsLeft
  split_ifs <;> omega

/-- Each change brings the state closer. -/
theorem stepsLeft_recoveryTarget {target current : PressureState} (htarget : target ≠ .stabilizing)
    (hne : recoveryTarget current target ≠ current) :
    1 + stepsLeft target (recoveryTarget current target) = stepsLeft target current := by
  -- all pairs of states
  revert htarget hne
  cases target <;> cases current <;> decide

/-- What one evaluation does to the engine. -/
inductive Evaluated (engine : PolicyEngine) (e : PolicyEvaluation) (engine' : PolicyEngine) : Prop
  | kept (changes : e.changes = false) (current : engine'.state.current = engine.state.current)
  | committed (decision : PolicyDecision) (result : e.result = .ok decision)
      (changed : decision.stateChanged = true)
      (previous : decision.previousState = some engine.state.current)
      (sufficient : Policy.sufficient e.input = true)
      (moved : desired engine.state e.input engine.config ≠ engine.state.current)
      (current : engine'.state.current = desired engine.state e.input engine.config)
      (reported : decision.currentState = engine'.state.current)

theorem evaluateInPlace_evaluated {engine engine' : PolicyEngine} {e : PolicyEvaluation}
    (h : engine.evaluateInPlace e.input true = (e.result, engine')) :
    engine'.config = engine.config ∧ Evaluated engine e engine' := by
  obtain ⟨input, result⟩ := e
  dsimp only at h
  unfold PolicyEngine.evaluateInPlace at h
  cases hv : input.validate with
  | error error =>
    rw [hv] at h
    cases h
    exact ⟨rfl, .kept rfl rfl⟩
  | ok _ =>
    rw [hv] at h
    by_cases hlt : input.timestampNs < engine.state.enteredAtNs
    · simp only [hlt, if_true] at h
      cases h
      exact ⟨rfl, .kept rfl rfl⟩
    · simp only [hlt, if_false] at h
      cases h
      refine ⟨rfl, ?_⟩
      -- the engine takes over the state of the transition, and only a commit changes it
      have hmoves := transition_moves engine.state input engine.config
      generalize hr : transition engine.state input engine.config = r at hmoves ⊢
      obtain ⟨state, changed, evidence, rejected⟩ := r
      dsimp only at hmoves ⊢
      cases hmoves with
      | settle reason hstay => exact .kept rfl rfl
      | hold hsuff hne => exact .kept rfl rfl
      | commit reason hsuff hne hheld => exact .committed _ rfl rfl rfl hsuff hne rfl rfl

/-- What a turn without a new sample does. -/
structure Turned (config : LoopConfig) (s s' : LoopState) (evaluation : Option PolicyEvaluation) :
    Prop where
  sample : s'.latestSystem = s.latestSystem
  rates : s'.latestRates = s.latestRates
  quiet : evaluation = none → s'.engine = s.engine
  evaluated : ∀ e, evaluation = some e →
    ∃ system timestampNs classified outcome history, s.latestSystem = some system ∧
      e.input = policyInput config system s.latestRates timestampNs classified outcome history ∧
      s.engine.evaluateInPlace e.input true = (e.result, s'.engine)

theorem Turned.refl {s : LoopState} : Turned config s s none where
  sample := rfl
  rates := rfl
  quiet _ := rfl
  evaluated _ h := by cases h

/-- Ending the loop or setting a timer changes nothing else. -/
theorem Turned.of_eq {s s' t t' : LoopState} {evaluation : Option PolicyEvaluation}
    (h : Turned config s s' evaluation)
    (hs : t.latestSystem = s.latestSystem ∧ t.latestRates = s.latestRates ∧ t.engine = s.engine)
    (hs' : t'.latestSystem = s'.latestSystem ∧ t'.latestRates = s'.latestRates ∧
      t'.engine = s'.engine) : Turned config t t' evaluation where
  sample := by rw [hs'.1, h.sample, hs.1]
  rates := by rw [hs'.2.1, h.rates, hs.2.1]
  quiet hnone := by rw [hs'.2.2, h.quiet hnone, hs.2.2]
  evaluated e he := by
    rw [hs.1, hs.2.1, hs.2.2, hs'.2.2]
    exact h.evaluated e he

theorem evaluatePolicy_turned {tick : ProcessTick} {timestampNs : Int64}
    {classified : List ClassifiedProcess} {outcome : ClassificationOutcome} {s : LoopState} :
    Turned config s (evaluatePolicy config tick timestampNs classified outcome s).1
      (evaluatePolicy config tick timestampNs classified outcome s).2 := by
  unfold evaluatePolicy
  split
  · dsimp only
    cases hsystem : s.latestSystem with
    | none => exact Turned.refl.of_eq ⟨rfl, rfl, rfl⟩ ⟨hsystem.symm, rfl, rfl⟩
    | some system =>
      dsimp only
      cases tick.history with
      | error e => exact Turned.refl.of_eq ⟨rfl, rfl, rfl⟩ ⟨hsystem.symm, rfl, rfl⟩
      | ok history =>
        -- the evaluation itself; what is stored afterwards does not matter here
        have hturned : Turned config s
            { s with
              engine := (s.engine.evaluateInPlace (policyInput config system s.latestRates
                timestampNs classified outcome history) true).2 }
            (some
              { input := policyInput config system s.latestRates timestampNs classified outcome
                  history
                result := (s.engine.evaluateInPlace (policyInput config system s.latestRates
                  timestampNs classified outcome history) true).1 }) :=
          { sample := rfl
            rates := rfl
            quiet := fun h => (by cases h)
            evaluated := fun e he => by
              cases he
              exact ⟨system, timestampNs, classified, outcome, history, hsystem, rfl, rfl⟩ }
        dsimp only
        split <;> exact hturned.of_eq ⟨rfl, rfl, rfl⟩ ⟨hsystem.symm, rfl, rfl⟩
  · exact .refl

theorem classify_turned {tick : ProcessTick} {timestampNs : Int64}
    {classified : List ClassifiedProcess} {s : LoopState} :
    Turned config s (classify config tick timestampNs classified s).1
      (classify config tick timestampNs classified s).2 := by
  unfold classify
  split
  · exact evaluatePolicy_turned.of_eq ⟨rfl, rfl, rfl⟩ ⟨rfl, rfl, rfl⟩
  · exact .refl

theorem onProcessTick_turned {tick : ProcessTick} {s : LoopState} :
    Turned config s (onProcessTick config tick s).1 (onProcessTick config tick s).2 := by
  unfold onProcessTick
  cases tick.timestamp with
  | error e => exact Turned.refl.of_eq ⟨rfl, rfl, rfl⟩ ⟨rfl, rfl, rfl⟩
  | ok timestampNs =>
    cases tick.processes with
    | error e => exact .refl
    | ok classified =>
      have hturned : Turned config s (classify config tick timestampNs classified s).1
          (classify config tick timestampNs classified s).2 := classify_turned
      dsimp only
      split
      · exact hturned.of_eq ⟨rfl, rfl, rfl⟩ ⟨rfl, rfl, rfl⟩
      · exact hturned

/-- **One turn without a new sample.** -/
theorem turn_turned {tick : Tick} {s : LoopState} (hstale : ¬ tick.Collects) :
    Turned config s (turn config s tick).1 (turn config s tick).2 := by
  unfold turn
  cases s.stopped with
  | some reason => exact .refl
  | none =>
    cases tick with
    | shutdown => exact Turned.refl.of_eq ⟨rfl, rfl, rfl⟩ ⟨rfl, rfl, rfl⟩
    | process tick => exact onProcessTick_turned
    | retention done =>
      cases done with
      | error e => exact Turned.refl.of_eq ⟨rfl, rfl, rfl⟩ ⟨rfl, rfl, rfl⟩
      | ok _ => exact .refl
    | system tick =>
      dsimp only
      unfold onSystemTick
      cases tick.timestamp with
      | error e => exact Turned.refl.of_eq ⟨rfl, rfl, rfl⟩ ⟨rfl, rfl, rfl⟩
      | ok _ =>
        cases hsample : tick.sample with
        | error e => exact .refl
        -- the one turn that renews the sample
        | ok sample => exact absurd ⟨sample, hsample⟩ hstale

theorem Turned.config_eq {s s' : LoopState} {evaluation : Option PolicyEvaluation}
    (h : Turned config s s' evaluation) : s'.engine.config = s.engine.config := by
  cases evaluation with
  | none => rw [h.quiet rfl]
  | some e =>
    obtain ⟨-, -, -, -, -, -, -, hevaluate⟩ := h.evaluated e rfl
    exact (evaluateInPlace_evaluated hevaluate).1

/-- The engine keeps its thresholds. -/
theorem turn_config_eq {tick : Tick} {s : LoopState} :
    (turn config s tick).1.engine.config = s.engine.config := by
  by_cases hstale : tick.Collects
  · cases tick with
    | system tick =>
      unfold turn
      cases s.stopped with
      | some reason => rfl
      | none =>
        dsimp only
        unfold onSystemTick
        split
        · rfl
        · split
          · rfl
          · split <;> rfl
    | shutdown | process | retention => exact absurd hstale (fun h => h)
  · exact (turn_turned hstale).config_eq

theorem after_config_eq (ticks : List Tick) :
    (after (turn config) (.start config) ticks).engine.config = config.pressure := by
  induction ticks using List.reverseRecOn with
  | nil => rfl
  | append_singleton ticks tick ih => rw [after_snoc, turn_config_eq, ih]

/-- What a run without new samples keeps: the sample, what it has committed so far, and how far
    it can still go. -/
structure Worn (config : LoopConfig) (s : LoopState) (log : List (Tick × Option PolicyEvaluation))
    (t : LoopState) : Prop where
  sample : t.latestSystem = s.latestSystem
  rates : t.latestRates = s.latestRates
  thresholds : t.engine.config = config.pressure
  account : StaleCommits config s log
  left : ∀ system, s.latestSystem = some system →
    (log.filter commits).length +
      stepsLeft (sampleTarget config system s.latestRates) t.engine.state.current ≤ 2

theorem Worn.start {s : LoopState} (hconfig : s.engine.config = config.pressure) :
    Worn config s [] s where
  sample := rfl
  rates := rfl
  thresholds := hconfig
  account :=
    { reads := by simp
      idle := by simp
      path := by simp
      bounded := Nat.zero_le _ }
  left _ _ := by
    rw [List.filter_nil, List.length_nil, Nat.zero_add]
    exact stepsLeft_le _ _

theorem filter_snoc_length {log : List (Tick × Option PolicyEvaluation)}
    {entry : Tick × Option PolicyEvaluation} :
    ((log ++ [entry]).filter commits).length =
      (log.filter commits).length + (if commits entry = true then 1 else 0) := by
  by_cases h : commits entry = true <;> simp [h]

/-- A turn that commits nothing. -/
theorem Worn.quiet {s t t' : LoopState} {log : List (Tick × Option PolicyEvaluation)} {tick : Tick}
    {evaluation : Option PolicyEvaluation} (h : Worn config s log t)
    (hturned : Turned config t t' evaluation) (hcommits : commits (tick, evaluation) = false)
    (hcurrent : t'.engine.state.current = t.engine.state.current) :
    Worn config s (log ++ [(tick, evaluation)]) t' where
  sample := hturned.sample.trans h.sample
  rates := hturned.rates.trans h.rates
  thresholds := hturned.config_eq.trans h.thresholds
  account :=
    { reads := by
        intro entry hentry e he
        rcases List.mem_append.1 hentry with hentry | hentry
        · exact h.account.reads entry hentry e he
        · rw [List.mem_singleton.1 hentry] at he
          obtain ⟨system, timestampNs, classified, outcome, history, hsystem, hinput, -⟩ :=
            hturned.evaluated e he
          rw [h.sample] at hsystem
          rw [h.rates] at hinput
          exact ⟨system, timestampNs, classified, outcome, history, hsystem, hinput⟩
      idle := by
        intro hidle entry hentry
        rcases List.mem_append.1 hentry with hentry | hentry
        · exact h.account.idle hidle entry hentry
        · rw [List.mem_singleton.1 hentry]
          exact hcommits
      path := by
        intro entry hentry e decision he hresult hchanged
        rcases List.mem_append.1 hentry with hentry | hentry
        · exact h.account.path entry hentry e decision he hresult hchanged
        · rw [List.mem_singleton.1 hentry] at he
          dsimp only at he
          rw [he] at hcommits
          -- a decision that changes something would have been committed
          simp [commits, PolicyEvaluation.changes, hresult, hchanged] at hcommits
      bounded := by
        rw [filter_snoc_length, hcommits]
        exact h.account.bounded }
  left system hsystem := by
    rw [filter_snoc_length, hcommits, hcurrent]
    exact h.left system hsystem

/-- A turn that commits a change. -/
theorem Worn.commit {s t t' : LoopState} {log : List (Tick × Option PolicyEvaluation)} {tick : Tick}
    {e : PolicyEvaluation} {decision : PolicyDecision} {system : SystemSample} {timestampNs : Int64}
    {classified : List ClassifiedProcess} {outcome : ClassificationOutcome}
    {history : UInt64 × UInt64} (h : Worn config s log t) (hturned : Turned config t t' (some e))
    (hsystem : s.latestSystem = some system)
    (hinput : e.input =
      policyInput config system s.latestRates timestampNs classified outcome history)
    (hresult : e.result = .ok decision) (hchanged : decision.stateChanged = true)
    (hprevious : decision.previousState = some t.engine.state.current)
    (hsufficient : sufficient e.input = true)
    (hmoved : recoveryTarget t.engine.state.current (sampleTarget config system s.latestRates) ≠
      t.engine.state.current)
    (hcurrent : t'.engine.state.current =
      recoveryTarget t.engine.state.current (sampleTarget config system s.latestRates))
    (hreported : decision.currentState = t'.engine.state.current) :
    Worn config s (log ++ [(tick, some e)]) t' := by
  have hcommits : commits (tick, some e) = true := by
    simp [commits, PolicyEvaluation.changes, hresult, hchanged]
  have hleft := h.left system hsystem
  -- no sample asks for Stabilizing, so the change uses up a step
  have hcloser := stepsLeft_recoveryTarget
    (observedTarget_ne_stabilizing (policyInput config system s.latestRates 0 [] .unknown (0, 0))
      config.pressure) hmoved
  exact
    { sample := hturned.sample.trans h.sample
      rates := hturned.rates.trans h.rates
      thresholds := hturned.config_eq.trans h.thresholds
      account :=
        { reads := by
            intro entry hentry e' he
            rcases List.mem_append.1 hentry with hentry | hentry
            · exact h.account.reads entry hentry e' he
            · rw [List.mem_singleton.1 hentry] at he
              cases he
              exact ⟨system, timestampNs, classified, outcome, history, hsystem, hinput⟩
          idle := by
            intro hidle
            -- a sample without a signal is not committed on
            have hnone : sufficient e.input = false := by
              rw [hinput]
              exact hidle system hsystem
            rw [hsufficient] at hnone
            cases hnone
          path := by
            intro entry hentry e' decision' he hresult' hchanged'
            rcases List.mem_append.1 hentry with hentry | hentry
            · exact h.account.path entry hentry e' decision' he hresult' hchanged'
            · rw [List.mem_singleton.1 hentry] at he
              cases he
              rw [hresult] at hresult'
              cases hresult'
              exact ⟨system, _, hsystem, hprevious, hreported.trans hcurrent⟩
          bounded := by
            rw [filter_snoc_length, hcommits]
            simp only [if_true]
            unfold sampleTarget at hleft
            omega }
      left := by
        intro system' hsystem'
        rw [hsystem] at hsystem'
        cases hsystem'
        rw [filter_snoc_length, hcommits, hcurrent]
        simp only [if_true]
        unfold sampleTarget at hleft ⊢
        omega }

/-- The step of the run. -/
theorem Worn.turn {s t : LoopState} {log : List (Tick × Option PolicyEvaluation)} {tick : Tick}
    (h : Worn config s log t) (hstale : ¬ tick.Collects) :
    Worn config s (log ++ [(tick, (Daemon.turn config t tick).2)]) (Daemon.turn config t tick).1 := by
  have hturned : Turned config t (Daemon.turn config t tick).1 (Daemon.turn config t tick).2 :=
    turn_turned hstale
  generalize Daemon.turn config t tick = out at hturned ⊢
  obtain ⟨t', evaluation⟩ := out
  dsimp only at hturned ⊢
  cases evaluation with
  | none => exact h.quiet hturned rfl (by rw [hturned.quiet rfl])
  | some e =>
    obtain ⟨system, timestampNs, classified, outcome, history, hsystem, hinput, hevaluate⟩ :=
      hturned.evaluated e rfl
    rw [h.sample] at hsystem
    rw [h.rates] at hinput
    -- what the engine wants depends on the sample alone
    have hdesired : desired t.engine.state e.input t.engine.config =
        recoveryTarget t.engine.state.current (sampleTarget config system s.latestRates) := by
      rw [hinput, h.thresholds]
      rfl
    cases (evaluateInPlace_evaluated hevaluate).2 with
    | kept changes current => exact h.quiet hturned changes current
    | committed decision result changed previous sufficient moved current reported =>
      rw [hdesired] at moved current
      exact h.commit hturned hsystem hinput result changed previous sufficient moved current reported

/-- **Telemetry that is not renewed.** From any point of any run on, while every collection of a
    system sample fails, each evaluation reads the last sample again, however old it is. It commits
    nothing without a sample that carries a signal; with one it commits what the recovery path wants
    for the state that the sample asks for, and that at most twice. -/
theorem stale_sample_commits (earlier later : List Tick) (hstale : ∀ tick ∈ later, ¬ tick.Collects) :
    StaleCommits config (after (turn config) (.start config) earlier)
      (transcript (turn config) (after (turn config) (.start config) earlier) later) := by
  have hworn := transcript_induction (turn config)
    (fun log t => (∀ entry ∈ log, ¬ Tick.Collects entry.1) →
      Worn config (after (turn config) (.start config) earlier) log t)
    (fun _ => Worn.start (after_config_eq earlier))
    -- what the log has of ticks is in its first components
    (by
      intro log t tick ih hlog
      exact (ih fun entry hentry => hlog entry (List.mem_append_left _ hentry)).turn
        (hlog _ (List.mem_append_right _ (List.mem_singleton_self _))))
    later
  refine (hworn ?_).account
  intro entry hentry
  apply hstale
  rw [← map_fst_transcript (turn config) (after (turn config) (.start config) earlier) later]
  exact List.mem_map_of_mem hentry

end Stale

/-! ### A run with one sample -/

/-- The shipped thresholds, with the two computations on exact numbers. -/
def shippedLoop : LoopConfig where
  floats :=
    { percent := fun available total => .finite (available.toNat * 100 / total.toNat)
      perSecond := fun delta elapsed => .finite (delta.toNat * 1000000000 / elapsed.toInt) }
  pressure := shippedPressure 10
  policyEnabled := true
  evaluationIntervalMs := 1000
  classificationIntervalMs := 1000
  cgroupCapabilities := none

/-- Eleven percent available, and memory stalls above their threshold. -/
def tightSample : SystemSample where
  timestampNs := 0
  memTotalBytes := 1000
  memAvailableBytes := 110
  swapInPages := none
  swapOutPages := none
  majorFaults := none
  pgscan := none
  pgsteal := none
  psiMemory := some { someAvg10 := some (.finite 11), fullAvg10 := some (.finite 0) }
  swapEntries := []

/-- A tick whose sample is stored. -/
def systemTick (sample : Except String SystemSample) : Tick :=
  .system { timestamp := .ok 0, sample := sample, stored := .ok () }

/-- A process tick on which everything succeeds. -/
def processTick (timestampNs : Int64) (now : ℕ) : Tick :=
  .process
    { timestamp := .ok timestampNs
      now := now
      processes := .ok []
      outcome := .unknown
      history := .ok (0, 0)
      storePolicy := .ok false
      storeAudits := .ok ()
      storeClassified := .ok () }

/-- A sample with little memory, and the first tick of the processes. -/
def tightStart : List Tick := [systemTick (.ok tightSample), processTick 0 0]

/-- Ten seconds later, after a collection that failed. -/
def unrenewed : List Tick := [systemTick (.error "unreadable"), processTick 10000000000 10000000000]

theorem unrenewed_stale : ∀ tick ∈ unrenewed, ¬ tick.Collects := by
  intro tick htick
  simp only [unrenewed, List.mem_cons, List.not_mem_nil, or_false] at htick
  rcases htick with rfl | rfl
  · rintro ⟨sample, hsample⟩
    cases hsample
  · exact fun h => h

/-- The one change that the old sample brings about. -/
theorem tight_sample_commits :
    StaleCommits shippedLoop (after (turn shippedLoop) (.start shippedLoop) tightStart)
      (transcript (turn shippedLoop) (after (turn shippedLoop) (.start shippedLoop) tightStart)
        unrenewed) :=
  stale_sample_commits tightStart unrenewed unrenewed_stale

/-- A change is committed although no sample was collected since the candidate came up. -/
theorem unrenewed_sample_moves :
    ¬ ∀ earlier later : List Tick, (∀ tick ∈ later, ¬ tick.Collects) →
      ∀ entry ∈ transcript (turn shippedLoop)
        (after (turn shippedLoop) (.start shippedLoop) earlier) later, commits entry = false := by
  intro h
  have hall := h tightStart unrenewed unrenewed_stale
  have hmoves : (transcript (turn shippedLoop)
      (after (turn shippedLoop) (.start shippedLoop) tightStart) unrenewed).map commits =
        [false, true] := by decide +kernel
  have hfalse : ∀ moved ∈ [false, true], moved = false := by
    rw [← hmoves]
    intro moved hmoved
    obtain ⟨entry, hentry, rfl⟩ := List.mem_map.1 hmoved
    exact hall entry hentry
  exact absurd (hfalse true (by decide)) (by decide)

end Nemor.Daemon
