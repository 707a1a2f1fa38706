import Nemor.Capacity.Host
import Nemor.Lib.Fallible

/-!
# Plans and evidence of a fixed-load experiment

A fixed-load experiment is a list of runs in a randomized order, each with a seed of its own, and
each run that is executed hands back evidence. Which evidence counts is decided by
`RunEvidence.validate`, a chain of checks in the middle of which the number of expected samples
is computed by a division.

- §1: plans
- §2: evidence
- §3: the checks
-/

namespace Nemor.Performance

open Capacity Fallible

/-! ## §1 Plans -/

/-- What has become of a planned run. -/
inductive PlannedRunState where
  | planned
  | completed
  | invalid
  | safetyAbort
  | notExecutedAfterAbort
  deriving DecidableEq

/-- A run in the order of the experiment. -/
structure PlannedRun where
  orderIndex : ℕ
  variant : BenchmarkVariant
  repetitionIndex : ℕ
  runSeed : UInt64
  state : PlannedRunState
  deriving DecidableEq

/-- How a run is measured. -/
structure PerformanceProfile where
  logicalPayloadBytes : UInt64
  workerMemoryMaxBytes : UInt64
  cooldownMs : UInt64

/-- Which source the executables are of. -/
structure BuildProvenance where
  gitHead : String
  gitDirty : Bool
  sourceStateId : String
  buildProfile : String

/-- An executable and the source it was built from. -/
structure BinaryIdentity where
  sha256 : String
  buildProfile : String
  sourceStateId : String
  embeddedGitHead : String

/-- The fields of a plan that an execution reads. -/
structure ExperimentPlan where
  scenario : String
  generatorId : String
  generatorVersion : UInt32
  randomizedOrder : List PlannedRun
  profile : PerformanceProfile
  provenance : BuildProvenance
  benchmarkBinary : BinaryIdentity
  observerBinary : BinaryIdentity
  materialEnvironmentHash : String
  performanceClaimEligible : Bool

/-- Each run stands at the position that its order index names. -/
def ExperimentPlan.Ordered (plan : ExperimentPlan) : Prop :=
  ∀ (i : ℕ) (planned : PlannedRun), plan.randomizedOrder[i]? = some planned →
    planned.orderIndex = i

/-- Only a clean release build is measured. -/
def requireLiveEligibility (plan : ExperimentPlan) : Except String Unit :=
  refuse
    (plan.performanceClaimEligible = false ∨
      plan.provenance.gitDirty = true ∨
      plan.provenance.buildProfile ≠ "release" ∨
      plan.benchmarkBinary.buildProfile ≠ "release" ∨
      plan.observerBinary.buildProfile ≠ "release" ∨
      plan.benchmarkBinary.sourceStateId ≠ plan.provenance.sourceStateId ∨
      plan.observerBinary.sourceStateId ≠ plan.provenance.sourceStateId ∨
      plan.benchmarkBinary.embeddedGitHead ≠ plan.provenance.gitHead ∨
      plan.observerBinary.embeddedGitHead ≠ plan.provenance.gitHead)
    "performance execution requires exact clean release source and binaries"

/-! ## §2 Evidence -/

/-- What an observer has measured, and when. -/
structure ObserverEvidence where
  startedMonotonicNs : UInt64
  measurementStartedMonotonicNs : UInt64
  measurementEndedMonotonicNs : UInt64
  stoppedMonotonicNs : UInt64
  outsideWorkerScope : Bool
  isolatedStorageClosed : Bool

/-- The fields of the evidence of a run that its checks and the executor read. -/
structure RunEvidence where
  runEvidenceSchemaVersion : UInt32
  planned : PlannedRun
  valid : Bool
  invalidReason : Option String
  safetyFailure : Bool
  materialEnvironmentHash : String
  benchmarkBinarySha256 : String
  observerBinarySha256 : Option String
  generatorId : String
  generatorVersion : UInt32
  workloadIdentity : String
  payloadFingerprintSha256 : String
  workerCgroupMemoryMax : UInt64
  logicalPayloadBytes : UInt64
  measurementMs : UInt64
  sampleIntervalMs : UInt64
  sampleCount : UInt64
  observer : Option ObserverEvidence
  watchdogTriggered : Bool
  oom : UInt64
  oomKill : UInt64
  workerIntegrityValid : Bool
  restorePassed : Bool
  structuralBefore : StructuralSnapshot
  structuralAfter : StructuralSnapshot

/-! ## §3 The checks -/

/-- How a call can go wrong: with an error that is handed back, or by a division by zero, which
    unwinds the whole execution. -/
inductive Fault where
  | error (text : String)
  | divisionByZero
  deriving DecidableEq

/-- The scenario of the first checkpoint. -/
def checkpoint3aScenario : String := "synthetic_compressible"
/-- The scenario of the second. -/
def checkpoint3bScenario : String := "synthetic_incompressible"
/-- The generator of the first scenario. -/
def compressibleGeneratorId : String := "nemor.synthetic.compressible"
/-- The generator of the second. -/
def incompressibleGeneratorId : String := "nemor.synthetic.splitmix64"
/-- The version of both generators. -/
def syntheticGeneratorVersion : UInt32 := 1
/-- The version of the evidence of a run. -/
def runEvidenceSchemaVersion : UInt32 := 3
/-- The shortest measurement. -/
def checkpoint3aMinMeasurementMs : UInt64 := 20000

/-- The generator of a scenario. -/
def generatorContract (scenario : String) : Except Fault (String × UInt32) :=
  if scenario = checkpoint3aScenario then .ok (compressibleGeneratorId, syntheticGeneratorVersion)
  else if scenario = checkpoint3bScenario then
    .ok (incompressibleGeneratorId, syntheticGeneratorVersion)
  else
    .error (.error ("performance checkpoint supports only synthetic_compressible or " ++
      "synthetic_incompressible"))

/-- What is hashed for the identity of a workload. -/
structure WorkloadKey where
  scenario : String
  generatorId : String
  generatorVersion : UInt32
  seed : UInt64
  payloadBytes : UInt64

section Checks

variable (digest : WorkloadKey → String)

/-- The digest that tells workloads apart. -/
def workloadIdentity (key : WorkloadKey) : Except Fault String := do
  let (expectedId, expectedVersion) ← generatorContract key.scenario
  refuse (key.generatorId ≠ expectedId ∨ key.generatorVersion ≠ expectedVersion)
    (.error "scenario and generator identity/version do not match")
  pure (digest key)

/-- The measurement lies in the life of the observer and is long enough. -/
def ObserverEvidence.validate (o : ObserverEvidence) (measurementMs : UInt64) :
    Except Fault Unit :=
  refuse
    (o.measurementStartedMonotonicNs < o.startedMonotonicNs ∨
      o.measurementEndedMonotonicNs ≤ o.measurementStartedMonotonicNs ∨
      o.stoppedMonotonicNs < o.measurementEndedMonotonicNs ∨
      o.outsideWorkerScope = false ∨
      o.isolatedStorageClosed = false ∨
      measurementMs < checkpoint3aMinMeasurementMs)
    (.error "invalid owned observer lifecycle evidence")

/-- A division of the program. -/
def quotient (a b : UInt64) : Except Fault UInt64 :=
  if b = 0 then .error .divisionByZero else .ok (a / b)

namespace RunEvidence

variable (run : RunEvidence) (plan : ExperimentPlan)

/-- What the identity of the run's workload is computed from. -/
def workloadKey : WorkloadKey where
  scenario := plan.scenario
  generatorId := plan.generatorId
  generatorVersion := plan.generatorVersion
  seed := run.planned.runSeed
  payloadBytes := plan.profile.logicalPayloadBytes

/-- The error of every check on a run. -/
def violation : Fault := .error "run evidence violates Checkpoint 3A validity requirements"

/-- The checks that are made before the number of samples is looked at. -/
def validateWorkload : Except Fault Unit := do
  refuse
    (run.runEvidenceSchemaVersion ≠ Performance.runEvidenceSchemaVersion ∨
      run.materialEnvironmentHash ≠ plan.materialEnvironmentHash ∨
      run.benchmarkBinarySha256 ≠ plan.benchmarkBinary.sha256 ∨
      run.generatorId ≠ plan.generatorId ∨
      run.generatorVersion ≠ plan.generatorVersion)
    violation
  -- the `?` inside the disjunction: the fields above are compared before the identity is computed
  let identity ← Performance.workloadIdentity digest (run.workloadKey plan)
  refuse
    (run.workloadIdentity ≠ identity ∨
      run.payloadFingerprintSha256 = "" ∨
      run.workerCgroupMemoryMax ≠ plan.profile.workerMemoryMaxBytes ∨
      run.logicalPayloadBytes ≠ plan.profile.logicalPayloadBytes ∨
      run.measurementMs < checkpoint3aMinMeasurementMs)
    violation

/-- The checks of the samples, the counters of the run and the restored structure. -/
def validateMeasurement (expected : UInt64) : Except Fault Unit :=
  refuse
    (run.sampleCount < expected ∨
      run.watchdogTriggered = true ∨
      run.oom ≠ 0 ∨
      run.oomKill ≠ 0 ∨
      run.workerIntegrityValid = false ∨
      run.restorePassed = false ∨
      run.structuralBefore.agrees run.structuralAfter = false)
    violation

/-- The checks of the observer that belongs to the variant. -/
def validateVariant : Except Fault Unit :=
  match run.planned.variant with
  | .cachyosBaseline =>
    refuse (run.observer.isSome = true) (.error "baseline run cannot own an observer")
  | .nemorObserve =>
    match run.observer with
    | none => .error (.error "observe run requires exact owned observer evidence")
    | some observer => do
      refuse (run.observerBinarySha256 ≠ some plan.observerBinary.sha256)
        (.error "observer binary hash mismatch")
      observer.validate run.measurementMs
  -- the variants that only the capacity benchmark executes
  | _ => .error (.error "pending variant cannot execute in Checkpoint 3A")

/-- `RunEvidence::validate`. -/
def validate : Except Fault Unit := do
  run.validateWorkload digest plan
  -- the divisor is not looked at before
  let expected ← quotient run.measurementMs run.sampleIntervalMs
  run.validateMeasurement expected
  run.validateVariant plan

/-- The evidence gets as far as the division, and divides by zero there. -/
def DividesByZero : Prop :=
  run.sampleIntervalMs = 0 ∧ run.validateWorkload digest plan = .ok ()

end RunEvidence

variable {digest}

/-- A check with a text does not end in a division by zero. -/
theorem refuse_ne_divisionByZero {c : Prop} [Decidable c] {text : String} :
    refuse c (Fault.error text) ≠ .error .divisionByZero := by
  unfold refuse
  by_cases hc : c <;> simp [hc]

/-- A sequence ends in a division by zero in its first step or in the rest. -/
theorem bind_eq_divisionByZero {α β : Type} {x : Except Fault α} {f : α → Except Fault β} :
    (x >>= f) = .error .divisionByZero ↔
      x = .error .divisionByZero ∨ ∃ a, x = .ok a ∧ f a = .error .divisionByZero := by
  cases x with
  | error e => simp [bind, Except.bind]
  | ok a => simp [bind, Except.bind]

theorem workloadIdentity_ne_divisionByZero {key : WorkloadKey} :
    workloadIdentity digest key ≠ .error .divisionByZero := by
  intro h
  rcases bind_eq_divisionByZero.1 h with h | ⟨contract, -, h⟩
  · -- the scenario is one of the two or refused with a text
    unfold generatorContract at h
    split at h
    · cases h
    · split at h <;> cases h
  · rcases bind_eq_divisionByZero.1 h with h | ⟨-, -, h⟩
    · exact refuse_ne_divisionByZero h
    · cases h

namespace RunEvidence

variable {run : RunEvidence} {plan : ExperimentPlan}

theorem validateWorkload_ne_divisionByZero :
    run.validateWorkload digest plan ≠ .error .divisionByZero := by
  intro h
  rcases bind_eq_divisionByZero.1 h with h | ⟨-, -, h⟩
  · exact refuse_ne_divisionByZero h
  rcases bind_eq_divisionByZero.1 h with h | ⟨identity, -, h⟩
  · exact workloadIdentity_ne_divisionByZero h
  · exact refuse_ne_divisionByZero h

theorem validateVariant_ne_divisionByZero :
    run.validateVariant plan ≠ .error .divisionByZero := by
  unfold validateVariant
  cases run.planned.variant with
  | cachyosBaseline => exact refuse_ne_divisionByZero
  | nemorObserve =>
    cases run.observer with
    | none => exact fun h => by cases h
    | some observer =>
      intro h
      rcases bind_eq_divisionByZero.1 h with h | ⟨-, -, h⟩
      · exact refuse_ne_divisionByZero h
      · exact refuse_ne_divisionByZero h
  | nemorSafe | nemorGaming | nemorCapacity | zram | zswap => exact fun h => by cases h

/-- The checks divide by zero in one place only. -/
theorem validate_eq_divisionByZero_iff :
    run.validate digest plan = .error .divisionByZero ↔ run.DividesByZero digest plan := by
  unfold validate DividesByZero
  constructor
  · intro h
    rcases bind_eq_divisionByZero.1 h with h | ⟨_, hworkload, h⟩
    · exact absurd h validateWorkload_ne_divisionByZero
    rcases bind_eq_divisionByZero.1 h with h | ⟨expected, -, h⟩
    · -- the quotient: it fails only on a zero interval
      refine ⟨?_, hworkload⟩
      by_contra hzero
      unfold quotient at h
      rw [if_neg hzero] at h
      cases h
    rcases bind_eq_divisionByZero.1 h with h | ⟨-, -, h⟩
    · exact absurd h refuse_ne_divisionByZero
    · exact absurd h validateVariant_ne_divisionByZero
  · rintro ⟨hzero, hworkload⟩
    rw [hworkload]
    show (quotient run.measurementMs run.sampleIntervalMs >>= _) = _
    rw [hzero]
    rfl

end RunEvidence

end Checks

end Nemor.Performance
