import Nemor.Lib.Log
import Nemor.Policy.Engine

/-!
# Policy engine: hysteresis over whole runs

A run is any sequence of `evaluate` calls on a fresh engine. Its log holds the accepted
evaluations, since a rejected one leaves no trace in the engine.

The candidate state and its start time are the engine's only memory of the inputs. The
invariant `CandidateInv` says what they remember: a candidate `d` with start `t` stands for
a block of consecutive evaluations that ends the log, begins at time `t`, and in which
every input was sufficient and asked for `d`. A commit reads its hold off that block.
-/

namespace Nemor.Policy

open MachineNumbers Log

/-! ## §1 Runs -/

/-- One accepted evaluation. -/
structure Evaluation where
  before : PersistentState
  input : PolicyInput
  decision : PolicyDecision
  after : PersistentState

/-- The time of an evaluation, in nanoseconds. -/
def Evaluation.time (x : Evaluation) : ℤ := x.input.timestampNs.toInt

/-- Runs of an engine from its creation, with the log of accepted evaluations. -/
inductive Run (config : PressureConfig) : PolicyEngine → List Evaluation → Prop where
  | new (timestampNs : Int64) : Run config (.new config timestampNs) []
  | accept {engine engine' : PolicyEngine} {log : List Evaluation} {input : PolicyInput}
      {observe : Bool} {decision : PolicyDecision} :
      Run config engine log →
      engine.evaluate input observe = .ok (decision, engine') →
      Run config engine' (log ++ [⟨engine.state, input, decision, engine'.state⟩])
  | reject {engine : PolicyEngine} {log : List Evaluation} {input : PolicyInput}
      {observe : Bool} {error : PolicyError} :
      Run config engine log → engine.evaluate input observe = .error error →
      Run config engine log

/-- Feed inputs to an engine one after the other and extend the log. -/
def evaluateAll : PolicyEngine → List Evaluation → List PolicyInput →
    PolicyEngine × List Evaluation
  | engine, log, [] => (engine, log)
  | engine, log, input :: inputs =>
    match engine.evaluate input true with
    | .ok (decision, engine') =>
      evaluateAll engine' (log ++ [⟨engine.state, input, decision, engine'.state⟩]) inputs
    | .error _ => evaluateAll engine log inputs

theorem Run.evaluateAll {config : PressureConfig} {engine : PolicyEngine}
    {log : List Evaluation} (h : Run config engine log) (inputs : List PolicyInput) :
    Run config (evaluateAll engine log inputs).1 (evaluateAll engine log inputs).2 := by
  induction inputs generalizing engine log with
  | nil => exact h
  | cons input inputs ih =>
    unfold Policy.evaluateAll
    split
    · next decision engine' hev => exact ih (h.accept hev)
    · next error hev => exact ih (h.reject hev)

/-- **Induction over runs.** A relation between the state and the log that holds at the start
    and is kept by every accepted call of `evaluate` holds at the end of every run. -/
theorem Run.induct {config : PressureConfig} {P : PersistentState → List Evaluation → Prop}
    (hnew : ∀ t, P (.conservative t) [])
    (hstep : ∀ x log observe,
      PolicyEngine.evaluate ⟨config, x.before⟩ x.input observe =
        .ok (x.decision, ⟨config, x.after⟩) → P x.before log → P x.after (log ++ [x]))
    {engine : PolicyEngine} {log : List Evaluation} (h : Run config engine log) :
    P engine.state log := by
  suffices hboth : engine.config = config ∧ P engine.state log from hboth.2
  induction h with
  | new t => exact ⟨rfl, hnew t⟩
  | @accept engine engine' log input observe decision _ hev ih =>
    obtain ⟨rfl, hlog⟩ := ih
    have hcfg : engine'.config = engine.config := (PolicyEngine.evaluate_ok hev).2.2.1
    have hafter : engine' = ⟨engine.config, engine'.state⟩ := by rw [← hcfg]
    exact ⟨hcfg, hstep ⟨_, _, _, _⟩ log observe (hev.trans (by rw [← hafter])) hlog⟩
  | reject _ _ ih => exact ih

/-- Every entry of the log is an accepted call of `evaluate` with the run's configuration. -/
theorem Run.evaluated {config : PressureConfig} {engine : PolicyEngine} {log : List Evaluation}
    (h : Run config engine log) : ∀ x ∈ log, ∃ observe,
      PolicyEngine.evaluate ⟨config, x.before⟩ x.input observe =
        .ok (x.decision, ⟨config, x.after⟩) := by
  refine h.induct (P := fun _ log => ∀ x ∈ log, ∃ observe,
    PolicyEngine.evaluate ⟨config, x.before⟩ x.input observe =
      .ok (x.decision, ⟨config, x.after⟩)) (by simp) ?_
  intro x log observe hev hlog y hy
  rcases List.mem_append.1 hy with hy | hy
  · exact hlog y hy
  · rw [List.mem_singleton.1 hy]
    exact ⟨observe, hev⟩

/-- What one accepted evaluation of a configured engine does. -/
structure Accepted (config : PressureConfig) (x : Evaluation) : Prop where
  nonneg : 0 ≤ x.time
  notBefore : x.before.enteredAtNs.toInt ≤ x.time
  moves : Moves config x.before x.input x.after x.decision.stateChanged

/-- The change flag of a decision tells whether the state has changed. -/
theorem Accepted.stateChanged_iff {config : PressureConfig} {x : Evaluation}
    (hacc : Accepted config x) :
    x.decision.stateChanged = true ↔ x.before.current ≠ x.after.current := by
  have hmoves := hacc.moves
  obtain ⟨before, input, decision, after⟩ := x
  dsimp only at hmoves ⊢
  generalize decision.stateChanged = changed at hmoves ⊢
  cases hmoves with
  | settle reason hstay => simp [PersistentState.settled]
  | commit reason hsuff hne hheld => simpa [PersistentState.committed] using hne.symm
  | hold hsuff hne => simp [PersistentState.holding]

theorem accepted_of_evaluate {config : PressureConfig} {x : Evaluation} {observe : Bool}
    (hev : PolicyEngine.evaluate ⟨config, x.before⟩ x.input observe =
      .ok (x.decision, ⟨config, x.after⟩)) : Accepted config x := by
  obtain ⟨hnn, hnb, -, hmoves⟩ := PolicyEngine.evaluate_ok hev
  exact ⟨hnn, hnb, hmoves⟩

/-- Induction over runs, for relations that need no more of an evaluation than that it was
    accepted. -/
theorem Run.invariant {config : PressureConfig} {P : PersistentState → List Evaluation → Prop}
    (hnew : ∀ t, P (.conservative t) [])
    (hstep : ∀ x log, Accepted config x → P x.before log → P x.after (log ++ [x]))
    {engine : PolicyEngine} {log : List Evaluation} (h : Run config engine log) :
    P engine.state log :=
  h.induct hnew fun x log _ hev hP => hstep x log (accepted_of_evaluate hev) hP

/-! ## §2 The candidate remembers a block of evaluations -/

/-- Every evaluation of the block was made in state `s`, had sufficient input and asked
    for `d`. -/
def Wanted (config : PressureConfig) (s d : PressureState) (block : List Evaluation) : Prop :=
  ∀ x ∈ block, sufficient x.input = true ∧ x.before.current = s ∧
    recoveryTarget s (observedTarget x.input config) = d

/-- A block at the end of the log that begins at time `since` and wants `d` throughout. -/
def WantedSince (config : PressureConfig) (s d : PressureState) (since : ℤ)
    (log : List Evaluation) : Prop :=
  ∃ block first, block <:+ log ∧ block.head? = some first ∧ first.time = since ∧
    Wanted config s d block

/-- What a candidate says about the evaluations so far. -/
structure CandidateInv (config : PressureConfig) (s : PersistentState) (log : List Evaluation) :
    Prop where
  nonneg : ∀ x ∈ log, 0 ≤ x.time
  block : ∀ d, s.candidate = some d → ∃ since, s.candidateSinceNs = some since ∧
    s.enteredAtNs.toInt ≤ since.toInt ∧ WantedSince config s.current d since.toInt log

theorem wantedSince_singleton {config : PressureConfig} {x : Evaluation}
    (hsuff : sufficient x.input = true) (log : List Evaluation) :
    WantedSince config x.before.current (desired x.before x.input config) x.time (log ++ [x]) := by
  refine ⟨[x], x, ⟨log, rfl⟩, rfl, rfl, ?_⟩
  intro y hy
  rw [List.mem_singleton.1 hy]
  exact ⟨hsuff, rfl, rfl⟩

theorem WantedSince.snoc {config : PressureConfig} {x : Evaluation} {since : ℤ}
    {log : List Evaluation} (hsuff : sufficient x.input = true)
    (h : WantedSince config x.before.current (desired x.before x.input config) since log) :
    WantedSince config x.before.current (desired x.before x.input config) since (log ++ [x]) := by
  obtain ⟨block, first, ⟨pre, rfl⟩, hhead, htime, hwanted⟩ := h
  refine ⟨block ++ [x], first, ⟨pre, by simp⟩, ?_, htime, ?_⟩
  · cases block with
    | nil => simp at hhead
    | cons y ys => simpa using hhead
  · intro y hy
    rcases List.mem_append.1 hy with hy | hy
    · exact hwanted y hy
    · rw [List.mem_singleton.1 hy]
      exact ⟨hsuff, rfl, rfl⟩

/-- The start time the transition works with is the start of a block that ends with the
    evaluation at hand. -/
theorem CandidateInv.candidateSince {config : PressureConfig} {x : Evaluation}
    {log : List Evaluation} (hacc : Accepted config x) (hinv : CandidateInv config x.before log)
    (hsuff : sufficient x.input = true) :
    x.before.enteredAtNs.toInt ≤
        (candidateSince x.before x.input (desired x.before x.input config)).toInt ∧
      WantedSince config x.before.current (desired x.before x.input config)
        (Policy.candidateSince x.before x.input (desired x.before x.input config)).toInt
        (log ++ [x]) := by
  unfold Policy.candidateSince
  split
  · next hcand =>
    -- the candidate is wanted again: its block grows by this evaluation
    obtain ⟨since, hsince, hent, hblock⟩ := hinv.block _ hcand
    rw [hsince]
    exact ⟨hent, hblock.snoc hsuff⟩
  · next =>
    -- a new candidate: the block is this evaluation alone
    exact ⟨hacc.notBefore, wantedSince_singleton hsuff log⟩

theorem candidateInv_step {config : PressureConfig} {x : Evaluation} {log : List Evaluation}
    (hacc : Accepted config x) (hinv : CandidateInv config x.before log) :
    CandidateInv config x.after (log ++ [x]) := by
  have hnonneg : ∀ y ∈ log ++ [x], 0 ≤ y.time := by
    intro y hy
    rcases List.mem_append.1 hy with hy | hy
    · exact hinv.nonneg y hy
    · rw [List.mem_singleton.1 hy]
      exact hacc.nonneg
  have hmoves := hacc.moves
  obtain ⟨before, input, decision, after⟩ := x
  dsimp only at hmoves
  generalize decision.stateChanged = changed at hmoves
  cases hmoves with
  | settle reason hstay => exact ⟨hnonneg, fun d hd => by cases hd⟩
  | commit reason hsuff hne hheld => exact ⟨hnonneg, fun d hd => by cases hd⟩
  | hold hsuff hne =>
    refine ⟨hnonneg, fun d hd => ?_⟩
    obtain rfl : desired before input config = d := by
      simpa [PersistentState.holding] using hd
    obtain ⟨hent, hblock⟩ := hinv.candidateSince hacc hsuff
    exact ⟨_, rfl, hent, hblock⟩

/-! ## §3 Every commit is immediate or held -/

/-- The immediate move: to `emergency`, with critically low memory and emergency full-memory
    pressure in that very input. -/
def ImmediateEmergency (config : PressureConfig) (x : Evaluation) : Prop :=
  x.after.current = .emergency ∧
    x.input.availablePercent.le (.ofU8 config.emergencyAvailablePercent) = true ∧
    atLeast x.input.psiMemoryFullAvg10 config.emergencyPsiFullAvg10Threshold = true

/-- The log up to and including `x` ends with a block that wanted `x`'s new state
    throughout, in `x`'s old state, and spans at least `hold` nanoseconds. -/
def HeldFor (config : PressureConfig) (hold : ℤ) (pre : List Evaluation) (x : Evaluation) : Prop :=
  ∃ block first, block <:+ pre ++ [x] ∧ block.head? = some first ∧
    Wanted config x.before.current x.after.current block ∧ first.time + hold ≤ x.time

/-- Every change of the state in the log is an immediate emergency or was held for the
    applicable number of seconds, read as nanoseconds by `holdNs`. -/
def CommitsAreHeld (config : PressureConfig) (holdNs : UInt64 → ℤ) (log : List Evaluation) : Prop :=
  AllPrefixed (fun pre x => x.before.current ≠ x.after.current →
    ImmediateEmergency config x ∨
      HeldFor config (holdNs (holdSeconds config x.before.current x.after.current)) pre x) log

/-- Nanoseconds of a hold as the engine can count them: no more than the largest `i64`. -/
def cappedNs (seconds : UInt64) : ℤ := min ((seconds.toNat * 1000000000 : ℕ) : ℤ) (2 ^ 63 - 1)

/-- The commit branch of one evaluation: the block behind the candidate began after the
    state was entered and spans the hold. -/
theorem commit_wantedSince {config : PressureConfig} {x : Evaluation} {log : List Evaluation}
    (hacc : Accepted config x) (hinv : CandidateInv config x.before log)
    (hchanged : x.decision.stateChanged = true) :
    ImmediateEmergency config x ∨
      ∃ since, x.before.enteredAtNs.toInt ≤ since ∧
        WantedSince config x.before.current x.after.current since (log ++ [x]) ∧
        since + cappedNs (holdSeconds config x.before.current x.after.current) ≤ x.time := by
  have hmoves := hacc.moves
  rw [hchanged] at hmoves
  obtain ⟨before, input, decision, after⟩ := x
  dsimp only at hmoves
  cases hmoves with
  | commit reason hsuff hne hheld =>
    rcases hheld with himm | hheld
    · left
      simp only [immediate, Bool.and_eq_true, beq_iff_eq] at himm
      exact ⟨himm.1.1, himm.1.2, himm.2⟩
    · right
      obtain ⟨hent, hblock⟩ := hinv.candidateSince hacc hsuff
      refine ⟨_, hent, hblock, ?_⟩
      -- the block starts at an accepted evaluation, so the subtraction is exact
      have hsince : 0 ≤ (candidateSince before input (desired before input config)).toInt := by
        obtain ⟨block, first, hsuffix, hhead, htime, -⟩ := hblock
        have hmem := hsuffix.subset (List.mem_of_mem_head? hhead)
        rw [← htime]
        rcases List.mem_append.1 hmem with hmem | hmem
        · exact hinv.nonneg first hmem
        · rw [List.mem_singleton.1 hmem]
          exact hacc.nonneg
      rw [Int64.le_iff_toInt_le, toInt_saturatingSub hacc.nonneg hsince, toInt_secondsNs] at hheld
      show _ + cappedNs (holdSeconds config before.current (desired before input config)) ≤ _
      unfold cappedNs Evaluation.time
      dsimp only at hheld ⊢
      omega

theorem commit_heldFor {config : PressureConfig} {x : Evaluation} {log : List Evaluation}
    (hacc : Accepted config x) (hinv : CandidateInv config x.before log)
    (hchanged : x.decision.stateChanged = true) :
    ImmediateEmergency config x ∨
      HeldFor config (cappedNs (holdSeconds config x.before.current x.after.current)) log x := by
  rcases commit_wantedSince hacc hinv hchanged with himm |
    ⟨since, -, ⟨block, first, hsuffix, hhead, rfl, hwanted⟩, hspan⟩
  · exact .inl himm
  · exact .inr ⟨block, first, hsuffix, hhead, hwanted, hspan⟩

/-- **Hysteresis.** In every run of a fresh engine every change of the state is the immediate
    emergency, or ends an unbroken block of sufficient evaluations that all wanted it and
    that spans the applicable hold; and the decisions flag these changes and no others. -/
theorem commits_are_held {config : PressureConfig} {engine : PolicyEngine}
    {log : List Evaluation} (h : Run config engine log) :
    CommitsAreHeld config cappedNs log ∧
      ∀ x ∈ log, x.decision.stateChanged = true ↔ x.before.current ≠ x.after.current := by
  constructor
  · refine (h.invariant (P := fun s log => CandidateInv config s log ∧
      CommitsAreHeld config cappedNs log) ?_ ?_).2
    · exact fun _ => ⟨⟨by simp, fun d hd => by cases hd⟩, AllPrefixed.nil _⟩
    · intro x log hacc hinv
      refine ⟨candidateInv_step hacc hinv.1, hinv.2.snoc x fun hmoved => ?_⟩
      exact commit_heldFor hacc hinv.1 (hacc.stateChanged_iff.2 hmoved)
  · intro x hx
    obtain ⟨observe, hev⟩ := h.evaluated x hx
    exact (accepted_of_evaluate hev).stateChanged_iff

/-! ## §4 Concrete runs -/

/-- The shipped thresholds and recovery hold, with the state hold left open. -/
def shippedPressure (stateHoldSeconds : UInt64) : PressureConfig where
  watchAvailablePercent := 20
  pressureAvailablePercent := 12
  criticalAvailablePercent := 7
  emergencyAvailablePercent := 3
  psiSomeAvg10Threshold := .finite 10
  psiFullAvg10Threshold := .finite 2
  emergencyPsiFullAvg10Threshold := .finite 10
  majorFaultRateThreshold := .finite 100
  swapInRateThreshold := .finite 128
  swapOutRateThreshold := .finite 128
  stateHoldSeconds := stateHoldSeconds
  recoveryHoldSeconds := 30

/-- An otherwise idle machine with the given available percentage and memory pressure. -/
def inputAt (timestampNs : Int64) (available some full : ℚ) : PolicyInput where
  timestampNs := timestampNs
  ramTotalBytes := 1000
  memAvailableBytes := 100
  availablePercent := .finite available
  swapTotalBytes := Option.some 100
  swapUsedBytes := Option.some 10
  swapInPerSecond := Option.some (.finite 0)
  swapOutPerSecond := Option.some (.finite 0)
  majorFaultsPerSecond := Option.some (.finite 0)
  pgscanPerSecond := Option.some (.finite 0)
  pgstealPerSecond := Option.some (.finite 0)
  psiMemorySomeAvg10 := Option.some (.finite some)
  psiMemoryFullAvg10 := Option.some (.finite full)
  workloadClass := Option.some .desktop
  workloadConfidence := none
  gaming := false
  criticalProcesses := 0
  protectedProcesses := 1
  unknownProcesses := 0
  foreground := .foreground
  cgroupCapabilities := none
  actuatorAvailable := true
  recentSafetyEvents := 0
  recentDecisions := 0

/-- The log of a fresh engine with the given state hold on the given inputs. -/
def freshLog (stateHoldSeconds : UInt64) (inputs : List PolicyInput) :
    PolicyEngine × List Evaluation :=
  evaluateAll (.new (shippedPressure stateHoldSeconds) 0) [] inputs

theorem run_freshLog (stateHoldSeconds : UInt64) (inputs : List PolicyInput) :
    Run (shippedPressure stateHoldSeconds) (freshLog stateHoldSeconds inputs).1
      (freshLog stateHoldSeconds inputs).2 :=
  (Run.new 0).evaluateAll inputs

/-- Two readings ten seconds apart commit `pressure` under the shipped hold. -/
theorem commits_are_held_shipped :
    ((freshLog 10 [inputAt 0 11 11 0, inputAt 10000000000 11 11 0]).2.map
        fun x => (x.decision.stateChanged, x.after.current)) =
      [(false, .watch), (true, .pressure)] ∧
    CommitsAreHeld (shippedPressure 10) cappedNs
      (freshLog 10 [inputAt 0 11 11 0, inputAt 10000000000 11 11 0]).2 ∧
    ∀ x ∈ (freshLog 10 [inputAt 0 11 11 0, inputAt 10000000000 11 11 0]).2,
      x.decision.stateChanged = true ↔ x.before.current ≠ x.after.current :=
  ⟨by decide, commits_are_held (run_freshLog _ _)⟩

/-- With a hold of more than `2 ^ 63` nanoseconds the engine commits early: the state change
    below comes after `2 ^ 63 - 1` nanoseconds, whatever block one looks at. -/
theorem oversized_hold_commits_early :
    ∃ engine log, Run (shippedPressure 9223372037) engine log ∧
      (log.map Evaluation.time).Pairwise (· ≤ ·) ∧
      ¬ CommitsAreHeld (shippedPressure 9223372037)
        (fun seconds => ((seconds.toNat * 1000000000 : ℕ) : ℤ)) log := by
  refine ⟨_, _, run_freshLog 9223372037
    [inputAt 0 11 11 0, inputAt 9223372036854775807 11 11 0], by decide, ?_⟩
  obtain ⟨x, y, hlog, hx, hy, hbefore, hafter⟩ : ∃ x y : Evaluation,
      (freshLog 9223372037 [inputAt 0 11 11 0, inputAt 9223372036854775807 11 11 0]).2 = [x, y] ∧
      x.time = 0 ∧ y.time = 2 ^ 63 - 1 ∧
      y.before.current = .watch ∧ y.after.current = .pressure :=
    ⟨_, _, rfl, by decide, by decide, by decide, by decide⟩
  rw [hlog]
  intro h
  have hmoved : y.before.current ≠ y.after.current := by simp [hbefore, hafter]
  rcases h [x] y [] rfl hmoved with ⟨hemergency, -⟩ | ⟨block, first, hsuffix, hhead, -, hspan⟩
  · rw [hafter] at hemergency
    cases hemergency
  · -- the block starts at one of the two readings, so at time `0` at the earliest
    have hfirst : 0 ≤ first.time := by
      have hmem : first ∈ [x] ++ [y] := hsuffix.subset (List.mem_of_mem_head? hhead)
      rcases List.mem_append.1 hmem with hmem | hmem <;>
        rw [List.mem_singleton.1 hmem] <;> omega
    have hhold : (holdSeconds (shippedPressure 9223372037) y.before.current
        y.after.current).toNat = 9223372037 := by
      rw [hbefore, hafter]
      decide
    simp only [hhold] at hspan
    omega

end Nemor.Policy
