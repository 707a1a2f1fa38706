import Nemor.Capacity.Evaluate
import Nemor.Lib.Effectful

/-!
# Executing a capacity benchmark

The benchmark writes a report that says it is running, has the composition executed, evaluates
the evidence and replaces the report. A report is verified before it is written: one that
would claim a complete measurement without a clean host is refused, and the running one stays.
§4 says exactly when a failed run invalidates the result and a final report is left.
-/

namespace Nemor.Capacity

open Effectful

/-! ## §1 The report -/

/-- The version of a report. -/
def capacityBenchmarkExecutionSchemaVersion : UInt32 := 3

/-- How far a benchmark is, or what it could show. -/
inductive CapacityBenchmarkState where
  | running
  | complete
  | censored
  | incomplete
  | invalid
  deriving DecidableEq

/-- The report of a benchmark. -/
structure CapacityBenchmarkExecutionEvidence where
  schemaVersion : UInt32
  state : CapacityBenchmarkState
  experimentId : String
  sourceCommit : String
  invocationCount : UInt32
  compositionExecution : CapacityCompositionExecutionEvidence
  boundaries : List CapacityRunBoundary
  evaluation : CapacityEvaluation
  cleanupPassed : Bool
  structuralRestorePassed : Bool
  effectivenessEvaluation : EvaluationState
  productionActivationAuthorized : Bool
  primaryError : Option String
  secondaryErrors : List String
  payloadSha256 : String

/-- The digest of a report as it is serialised, for a hash function that is left open. -/
abbrev ReportHash := CapacityBenchmarkExecutionEvidence → String

namespace CapacityBenchmarkExecutionEvidence

variable (hash : ReportHash) (e : CapacityBenchmarkExecutionEvidence)

/-- The report without its digest. -/
def unsealed : CapacityBenchmarkExecutionEvidence := { e with payloadSha256 := "" }

/-- `seal`, which replaces the digest. -/
def sealed : CapacityBenchmarkExecutionEvidence :=
  { e with payloadSha256 := hash e.unsealed }

/-- States that claim a measurement. -/
def conclusive : Bool := e.state == .complete || e.state == .censored

/-- The report carries its own digest and claims nothing that it may not. -/
def verify : Except String Unit :=
  if e.schemaVersion ≠ capacityBenchmarkExecutionSchemaVersion
      ∨ e.payloadSha256 ≠ hash e.unsealed
      ∨ e.effectivenessEvaluation ≠ .notEvaluated
      ∨ e.productionActivationAuthorized = true
      ∨ e.conclusive = true ∧ (e.cleanupPassed = false ∨ e.structuralRestorePassed = false) then
    .error "capacity benchmark execution evidence contract mismatch"
  else .ok ()

end CapacityBenchmarkExecutionEvidence

/-! ## §2 The execution -/

/-- What the execution reads of the manifest. -/
structure CapacityBenchmarkPayload where
  experimentId : String
  targetSource : String
  safeSearchCeilingBytes : UInt64

/-- What a benchmark asks of its surroundings. -/
inductive BenchmarkOp where
  | readManifest
  | verifyManifest
  | preflight
  | writeTemporary (evidence : CapacityBenchmarkExecutionEvidence)
  | renameReport
  | writeEvaluation (evaluation : CapacityEvaluation)
  | executeComposition (levels : ℕ) (successful : CompositionExperimentState)
  | readCompositionReport

/-- What it is answered with. -/
abbrev BenchmarkOp.Reply : BenchmarkOp → Type
  | .readManifest => Except String CapacityBenchmarkPayload
  | .preflight => Except String Bool
  | .executeComposition _ _ => Except String CapacityCompositionExecutionEvidence
  -- nothing if the file cannot be read or parsed
  | .readCompositionReport => Option CapacityCompositionExecutionEvidence
  | _ => Except String Unit

/-- The calls with their replies. -/
abbrev benchmarkHost : Iface where
  Op := BenchmarkOp
  Reply := BenchmarkOp.Reply

/-- A benchmark as a program over these calls. -/
abbrev Benchmark (α : Type) := Act benchmarkHost Unit String α

section Execute

variable (hash : ReportHash) (buildGitHead : String)

/-- The composition of a report before there is one. -/
def blankComposition (payload : CapacityBenchmarkPayload) :
    CapacityCompositionExecutionEvidence where
  schemaVersion := compositionExecutionSchemaVersion
  experimentId := payload.experimentId
  sourceCommit := buildGitHead
  state := .running
  reason := "capacity benchmark execution starting"
  runs := []
  plannedRuns := 6
  completedRuns := 0
  plannedLevels := 6 * levelCount
  completedLevels := 0
  invocationCount := 1
  searchComplete := false
  capacityEvaluation := .notEvaluated
  effectivenessEvaluation := .notEvaluated
  productionActivationAuthorized := false
  cleanupPassed := false
  structuralRestorePassed := false
  payloadSha256 := ""

/-- No verdict. -/
def invalidEvaluation (payload : CapacityBenchmarkPayload) : CapacityEvaluation where
  version := capacityEvaluationVersion
  state := .invalid
  pairs := []
  medianBaselineDemonstratedBytes := none
  medianCapacityDemonstratedBytes := none
  medianPairedDemonstratedDeltaBytes := none
  demonstratedCapacityGainPercent := none
  conservativeGainLowerBoundPercent := none
  possibleGainUpperBoundPercent := none
  targetPercent := some favorableCapacityTargetPercent
  targetSource := payload.targetSource
  targetStatus := .indeterminate
  statisticalLimitation := "execution invalid; no capacity inference"

/-- The fields that all three reports of an execution have in common. -/
def reportOf (payload : CapacityBenchmarkPayload) (state : CapacityBenchmarkState)
    (composition : CapacityCompositionExecutionEvidence) (boundaries : List CapacityRunBoundary)
    (evaluation : CapacityEvaluation) (primaryError : Option String) :
    CapacityBenchmarkExecutionEvidence where
  schemaVersion := capacityBenchmarkExecutionSchemaVersion
  state := state
  experimentId := payload.experimentId
  sourceCommit := buildGitHead
  invocationCount := 1
  compositionExecution := composition
  boundaries := boundaries
  evaluation := evaluation
  cleanupPassed := composition.cleanupPassed
  structuralRestorePassed := composition.structuralRestorePassed
  effectivenessEvaluation := .notEvaluated
  productionActivationAuthorized := false
  primaryError := primaryError
  secondaryErrors := []
  payloadSha256 := ""

/-- The report that is written before the experiment. -/
def initialReport (payload : CapacityBenchmarkPayload) : CapacityBenchmarkExecutionEvidence :=
  (reportOf buildGitHead payload .running (blankComposition buildGitHead payload) []
    { invalidEvaluation payload with state := .notEvaluated } none).sealed hash

/-- The report after an error of the composition. -/
def errorReport (payload : CapacityBenchmarkPayload)
    (composition : CapacityCompositionExecutionEvidence) (error : String) :
    CapacityBenchmarkExecutionEvidence :=
  (reportOf buildGitHead payload .invalid composition [] (invalidEvaluation payload)
    (some error)).sealed hash

/-- The state of a report for the state of its evaluation. -/
def CapacityEvaluationState.benchmarkState : CapacityEvaluationState → CapacityBenchmarkState
  | .complete => .complete
  | .censored => .censored
  | .incomplete => .incomplete
  | _ => .invalid

/-- The report after a composition that has ended. -/
def evaluatedReport (payload : CapacityBenchmarkPayload)
    (composition : CapacityCompositionExecutionEvidence) : CapacityBenchmarkExecutionEvidence :=
  let (boundaries, evaluation) := evaluate composition payload.safeSearchCeilingBytes
  (reportOf buildGitHead payload evaluation.state.benchmarkState composition boundaries evaluation
    none).sealed hash

/-- Verify a report, put it in the place of the last one and write its evaluation. -/
def persist (evidence : CapacityBenchmarkExecutionEvidence) : Benchmark Unit := do
  Act.ofExcept (evidence.verify hash)
  Act.perform (I := benchmarkHost) (.writeTemporary evidence) fun r => r
  Act.perform (I := benchmarkHost) .renameReport fun r => r
  Act.perform (I := benchmarkHost) (.writeEvaluation evidence.evaluation) fun r => r

/-- The report for the outcome of the composition. -/
def conclude (payload : CapacityBenchmarkPayload) :
    Except String CapacityCompositionExecutionEvidence →
      Benchmark CapacityBenchmarkExecutionEvidence
  | .ok composition => pure (evaluatedReport hash buildGitHead payload composition)
  | .error error => do
    -- what the composition has written itself, if it got that far
    let left ← Act.request (I := benchmarkHost) .readCompositionReport
    pure (errorReport hash buildGitHead payload
      (left.getD (blankComposition buildGitHead payload)) error)

/-- `execute_capacity_benchmark`. -/
def executeCapacityBenchmark : Benchmark CapacityBenchmarkExecutionEvidence := do
  let payload ← Act.perform (I := benchmarkHost) .readManifest fun r => r
  Act.perform (I := benchmarkHost) .verifyManifest fun r => r
  if (← Act.perform (I := benchmarkHost) .preflight fun r => r) = false then
    Act.fail "capacity benchmark bounded entry is not ready"
  else
    -- the report says `running` until another one has replaced it
    persist hash (initialReport hash buildGitHead payload)
    let outcome ← Act.request (I := benchmarkHost)
      (.executeComposition levelCount .completedCompositionFrameworkValidation)
    let evidence ← conclude hash buildGitHead payload outcome
    persist hash evidence
    pure evidence

end Execute

/-! ## §3 A host on which all file operations succeed -/

/-- The files of the benchmark, as the reports they hold. -/
structure BenchmarkFiles where
  temporary : Option CapacityBenchmarkExecutionEvidence
  report : Option CapacityBenchmarkExecutionEvidence
  evaluation : Option CapacityEvaluation

/-- What the benchmark meets: its manifest, the outcome of the composition and the report that
    the composition has left. -/
structure Circumstances where
  payload : CapacityBenchmarkPayload
  outcome : Except String CapacityCompositionExecutionEvidence
  left : Option CapacityCompositionExecutionEvidence

/-- The manifest verifies, the entry is ready and every file is written. -/
def Circumstances.answer (c : Circumstances) :
    (op : BenchmarkOp) → BenchmarkFiles → op.Reply × BenchmarkFiles
  | .readManifest, files => (.ok c.payload, files)
  | .verifyManifest, files => (.ok (), files)
  | .preflight, files => (.ok true, files)
  | .writeTemporary evidence, files => (.ok (), { files with temporary := some evidence })
  | .renameReport, files => (.ok (), { files with report := files.temporary, temporary := none })
  | .writeEvaluation evaluation, files => (.ok (), { files with evaluation := some evaluation })
  | .executeComposition _ _, files => (c.outcome, files)
  | .readCompositionReport, files => (c.left, files)

/-- The files with a report that was just persisted. -/
def BenchmarkFiles.holding (e : CapacityBenchmarkExecutionEvidence) : BenchmarkFiles where
  temporary := none
  report := some e
  evaluation := some e.evaluation

section Succeeding

variable {hash : ReportHash} {buildGitHead : String} {c : Circumstances} {files : BenchmarkFiles}

/-- A verified report is written, another one leaves the files alone. -/
theorem wp_persist {e : CapacityBenchmarkExecutionEvidence}
    {Q : Except String Unit → Unit → BenchmarkFiles → Prop}
    (hok : e.verify hash = .ok () → Q (.ok ()) () (.holding e))
    (herr : ∀ error, e.verify hash = .error error → Q (.error error) () files) :
    Act.wp (Env.ofHandler c.answer) (fun _ _ => True) (persist hash e) Q () files := by
  unfold persist
  apply Act.wp_bind.2
  rw [Act.wp_ofExcept]
  cases hverify : e.verify hash with
  | error error => exact herr error hverify
  | ok _ =>
    simp only [Act.wp_bind, Act.wp_perform, true_and]
    -- written, renamed and evaluated, all of which succeed here
    rintro _ _ ⟨⟩ _ _ ⟨⟩ _ _ ⟨⟩
    exact hok hverify

theorem verify_sealed (e : CapacityBenchmarkExecutionEvidence)
    (hversion : e.schemaVersion = capacityBenchmarkExecutionSchemaVersion)
    (heffect : e.effectivenessEvaluation = .notEvaluated)
    (hauth : e.productionActivationAuthorized = false) :
    (e.sealed hash).verify hash =
      if e.conclusive = true ∧ (e.cleanupPassed = false ∨ e.structuralRestorePassed = false) then
        .error "capacity benchmark execution evidence contract mismatch"
      else .ok () := by
  simp [CapacityBenchmarkExecutionEvidence.verify, CapacityBenchmarkExecutionEvidence.sealed,
    CapacityBenchmarkExecutionEvidence.unsealed, CapacityBenchmarkExecutionEvidence.conclusive,
    hversion, heffect, hauth]

variable (hash buildGitHead c)

/-- The report that the execution wants to leave. -/
def Circumstances.finalReport : CapacityBenchmarkExecutionEvidence :=
  match c.outcome with
  | .ok composition => evaluatedReport hash buildGitHead c.payload composition
  | .error error =>
    errorReport hash buildGitHead c.payload (c.left.getD (blankComposition buildGitHead c.payload))
      error

/-- The result of the execution and the files it leaves. -/
def Circumstances.executed (files : BenchmarkFiles) :
    Except String CapacityBenchmarkExecutionEvidence × BenchmarkFiles :=
  let out := (executeCapacityBenchmark hash buildGitHead ()).exec c.answer files
  (out.1.1, out.2)

variable {hash buildGitHead c}

theorem verify_initialReport (payload : CapacityBenchmarkPayload) :
    (initialReport hash buildGitHead payload).verify hash = .ok () := by
  unfold initialReport
  rw [verify_sealed _ rfl rfl rfl]
  rfl

/-- The final report has replaced the running one, or did not verify. -/
def Circumstances.Concludes (c : Circumstances) (hash : ReportHash) (buildGitHead : String)
    (r : Except String CapacityBenchmarkExecutionEvidence) (files : BenchmarkFiles) : Prop :=
  ((c.finalReport hash buildGitHead).verify hash = .ok () ∧
      r = .ok (c.finalReport hash buildGitHead) ∧
      files = .holding (c.finalReport hash buildGitHead)) ∨
    ∃ error, (c.finalReport hash buildGitHead).verify hash = .error error ∧ r = .error error ∧
      files = .holding (initialReport hash buildGitHead c.payload)

theorem wp_conclude {Q : Except String CapacityBenchmarkExecutionEvidence → Unit →
      BenchmarkFiles → Prop} (h : Q (.ok (c.finalReport hash buildGitHead)) () files) :
    Act.wp (Env.ofHandler c.answer) (fun _ _ => True) (conclude hash buildGitHead c.payload c.outcome)
      Q () files := by
  unfold Circumstances.finalReport at h
  cases houtcome : c.outcome with
  | ok composition =>
    rw [houtcome] at h
    exact h
  | error error =>
    rw [houtcome] at h
    refine ⟨trivial, ?_⟩
    rintro _ _ ⟨⟩
    exact h

theorem wp_executeCapacityBenchmark :
    Act.wp (Env.ofHandler c.answer) (fun _ _ => True) (executeCapacityBenchmark hash buildGitHead)
      (fun r _ files' => c.Concludes hash buildGitHead r files') () files := by
  unfold executeCapacityBenchmark
  simp only [Act.wp_bind, Act.wp_perform, true_and]
  rintro _ _ ⟨⟩ _ _ ⟨⟩ _ _ ⟨⟩
  simp only [Bool.true_eq_false, if_false, Act.wp_bind]
  apply wp_persist
  · intro _
    refine Act.wp_request.2 ⟨trivial, ?_⟩
    rintro _ _ ⟨⟩
    apply wp_conclude
    apply wp_persist
    · intro hverify
      exact .inl ⟨hverify, rfl, rfl⟩
    · -- the final report is refused: the one that says `running` stays
      intro error hverify
      exact .inr ⟨error, hverify, rfl, rfl⟩
  · intro error hverify
    rw [verify_initialReport] at hverify
    cases hverify

theorem executed_concludes (files : BenchmarkFiles) :
    c.Concludes hash buildGitHead (c.executed hash buildGitHead files).1
      (c.executed hash buildGitHead files).2 :=
  Act.wp_exec wp_executeCapacityBenchmark

/-- The execution succeeds and leaves a sealed report that verifies and is final. -/
def Reported (hash : ReportHash) (buildGitHead : String) (c : Circumstances)
    (files : BenchmarkFiles) : Prop :=
  ∃ evidence report, (c.executed hash buildGitHead files).1 = .ok evidence ∧
    (c.executed hash buildGitHead files).2.report = some report ∧
    report.payloadSha256 = hash report.unsealed ∧ report.verify hash = .ok () ∧
    report.state ≠ .running

theorem finalReport_state_ne : (c.finalReport hash buildGitHead).state ≠ .running := by
  unfold Circumstances.finalReport
  cases c.outcome with
  | ok composition =>
    show (evaluate composition c.payload.safeSearchCeilingBytes).2.state.benchmarkState ≠ .running
    cases (evaluate composition c.payload.safeSearchCeilingBytes).2.state <;> simp
      [CapacityEvaluationState.benchmarkState]
  | error error => exact CapacityBenchmarkState.noConfusion

theorem finalReport_sealed :
    (c.finalReport hash buildGitHead).payloadSha256 =
      hash (c.finalReport hash buildGitHead).unsealed := by
  unfold Circumstances.finalReport
  cases c.outcome <;> rfl

/-- The final report is left exactly when it verifies. -/
theorem reported_iff :
    Reported hash buildGitHead c files ↔ (c.finalReport hash buildGitHead).verify hash = .ok () := by
  have hconcludes := @executed_concludes hash buildGitHead c files
  constructor
  · rintro ⟨evidence, -, hok, -⟩
    rcases hconcludes with ⟨hverify, -⟩ | ⟨error, -, herror, -⟩
    · exact hverify
    · rw [herror] at hok
      cases hok
  · intro hverify
    rcases hconcludes with ⟨-, hok, hfiles⟩ | ⟨error, hfails, -⟩
    · refine ⟨_, _, hok, ?_, finalReport_sealed, hverify, finalReport_state_ne⟩
      rw [hfiles]
      rfl
    · rw [hverify] at hfails
      cases hfails

end Succeeding

/-! ## §4 Failed runs -/

/-- A run that settles where its boundary is: it has reached the ceiling, or became unhealthy. -/
def CapacityCompositionRunEvidence.Decisive (run : CapacityCompositionRunEvidence) : Prop :=
  run.allSustainable = true ∨
    ∃ level ∈ run.levels, level.classification = .unsustainableHealth

/-- Each repetition has its two runs, and both are decisive. -/
def Measured (runs : List CapacityCompositionRunEvidence) : Prop :=
  ∀ repetition < 3, ∃ b c, findRun runs .cachyosBaseline repetition = some b ∧
    findRun runs .nemorCapacity repetition = some c ∧ b.Decisive ∧ c.Decisive

/-- A composition with a failed run is evaluated as invalid and settles nothing. -/
def Discredited (composition : CapacityCompositionExecutionEvidence) (ceiling : UInt64) : Prop :=
  (∃ run ∈ composition.runs, run.state = .invalidRun) →
    (evaluate composition ceiling).2.state = .invalid ∧
      (evaluate composition ceiling).2.targetStatus ≠ .definitivelyMet ∧
      (evaluate composition ceiling).2.targetStatus ≠ .definitivelyNotMet

theorem boundary_valid_iff (run : CapacityCompositionRunEvidence) (ceiling : UInt64) :
    (boundary run ceiling).validForCapacityEvaluation = true ↔ run.Decisive := by
  have hhead : (run.loadsOf .unsustainableHealth).head?.isSome = true ↔
      ∃ level ∈ run.levels, level.classification = .unsustainableHealth := by
    rw [List.isSome_head?]
    simp [CapacityCompositionRunEvidence.loadsOf]
  show (run.allSustainable || (run.loadsOf .unsustainableHealth).head?.isSome) = true ↔ _
  rw [Bool.or_eq_true, hhead]
  rfl

/-- A repetition is measured when it has a valid pair. -/
theorem pairOf_valid_iff (runs : List CapacityCompositionRunEvidence) (ceiling : UInt64)
    (repetition : ℕ) :
    (∃ p, pairOf runs ceiling repetition = some p ∧ p.valid = true) ↔
      ∃ b c, findRun runs .cachyosBaseline repetition = some b ∧
        findRun runs .nemorCapacity repetition = some c ∧ b.Decisive ∧ c.Decisive := by
  constructor
  · rintro ⟨p, hp, hvalid⟩
    obtain ⟨b, c, hb, hc, rfl⟩ := pairOf_some hp
    obtain ⟨hbvalid, hcvalid⟩ := Bool.and_eq_true_iff.1 hvalid
    exact ⟨b, c, hb, hc, (boundary_valid_iff b ceiling).1 hbvalid,
      (boundary_valid_iff c ceiling).1 hcvalid⟩
  · rintro ⟨b, c, hb, hc, hbd, hcd⟩
    refine ⟨pairEvaluation repetition (boundary b ceiling) (boundary c ceiling), ?_, ?_⟩
    · simp [pairOf, hb, hc]
    · exact Bool.and_eq_true_iff.2 ⟨(boundary_valid_iff b ceiling).2 hbd,
        (boundary_valid_iff c ceiling).2 hcd⟩

/-- The pairs are all valid exactly when everything was measured. -/
theorem allValid_iff (runs : List CapacityCompositionRunEvidence) (ceiling : UInt64) :
    allValid ((List.range 3).filterMap (pairOf runs ceiling)) = true ↔ Measured runs := by
  -- no pair is missing exactly if every repetition has one
  have hlen : ((List.range 3).filterMap (pairOf runs ceiling)).length = 3 ↔
      ∀ repetition ∈ List.range 3, (pairOf runs ceiling repetition).isSome = true :=
    List.filterMap_length_eq_length
  unfold allValid Measured
  rw [Bool.and_eq_true, beq_iff_eq, List.all_eq_true, hlen]
  constructor
  · rintro ⟨hsome, hvalid⟩ repetition hlt
    have hmem := List.mem_range.2 hlt
    obtain ⟨p, hp⟩ := Option.isSome_iff_exists.1 (hsome repetition hmem)
    exact (pairOf_valid_iff runs ceiling repetition).1
      ⟨p, hp, hvalid p (List.mem_filterMap.2 ⟨repetition, hmem, hp⟩)⟩
  · intro h
    have hpairs : ∀ repetition ∈ List.range 3,
        ∃ p, pairOf runs ceiling repetition = some p ∧ p.valid = true := fun repetition hmem =>
      (pairOf_valid_iff runs ceiling repetition).2 (h repetition (List.mem_range.1 hmem))
    constructor
    · intro repetition hmem
      obtain ⟨p, hp, -⟩ := hpairs repetition hmem
      rw [hp]
      rfl
    · intro p hp
      obtain ⟨repetition, hmem, hpair⟩ := List.mem_filterMap.1 hp
      obtain ⟨q, hq, hvalid⟩ := hpairs repetition hmem
      cases hpair.symm.trans hq
      exact hvalid

section Evaluated

variable (composition : CapacityCompositionExecutionEvidence) (ceiling : UInt64)

/-- Without a full measurement the evaluation is invalid and indeterminate. -/
theorem evaluate_not_measured (h : ¬ Measured composition.runs) :
    (evaluate composition ceiling).2.state = .invalid ∧
      (evaluate composition ceiling).2.targetStatus = .indeterminate := by
  have hvalid : allValid ((List.range 3).filterMap (pairOf composition.runs ceiling)) = false := by
    rw [← Bool.not_eq_true, allValid_iff]
    exact h
  simp [evaluate, hvalid, targetStatus]

/-- With one it is complete or censored. -/
theorem evaluate_measured (h : Measured composition.runs) :
    (evaluate composition ceiling).2.state = .complete ∨
      (evaluate composition ceiling).2.state = .censored := by
  have hvalid := (allValid_iff composition.runs ceiling).2 h
  simp only [evaluate, hvalid, Bool.not_true, Bool.false_eq_true, if_false]
  split
  · exact .inr rfl
  · exact .inl rfl

theorem discredited_iff :
    Discredited composition ceiling ↔
      (Measured composition.runs → ∀ run ∈ composition.runs, run.state ≠ .invalidRun) := by
  constructor
  · intro h hmeasured run hrun hstate
    obtain ⟨hinvalid, -⟩ := h ⟨run, hrun, hstate⟩
    rcases evaluate_measured composition ceiling hmeasured with hstate | hstate <;>
      · rw [hstate] at hinvalid
        cases hinvalid
  · rintro h ⟨run, hrun, hstate⟩
    obtain ⟨hinvalid, hstatus⟩ := evaluate_not_measured composition ceiling
      fun hmeasured => h hmeasured run hrun hstate
    refine ⟨hinvalid, ?_⟩
    rw [hstatus]
    exact ⟨CapacityTargetStatus.noConfusion, CapacityTargetStatus.noConfusion⟩

theorem evaluated_conclusive_iff :
    ((evaluate composition ceiling).2.state.benchmarkState == .complete ||
        (evaluate composition ceiling).2.state.benchmarkState == .censored) = true ↔
      Measured composition.runs := by
  constructor
  · intro h
    by_contra hmeasured
    rw [(evaluate_not_measured composition ceiling hmeasured).1] at h
    cases h
  · intro h
    rcases evaluate_measured composition ceiling h with hstate | hstate <;>
      · rw [hstate]
        rfl

end Evaluated

/-- The report of an evaluated composition verifies unless it claims a measurement on a host
    that was not clean. -/
theorem verify_evaluatedReport (hash : ReportHash) (buildGitHead : String)
    (payload : CapacityBenchmarkPayload) (composition : CapacityCompositionExecutionEvidence) :
    (evaluatedReport hash buildGitHead payload composition).verify hash = .ok () ↔
      (Measured composition.runs →
        composition.cleanupPassed = true ∧ composition.structuralRestorePassed = true) := by
  have hconclusive := evaluated_conclusive_iff composition payload.safeSearchCeilingBytes
  unfold evaluatedReport
  rw [verify_sealed _ rfl rfl rfl, ← hconclusive, ite_eq_right_iff]
  simp only [reduceCtorEq, imp_false, not_and, not_or, Bool.not_eq_false]
  rfl

/-- **A failed run and the result.** When the composition fails, a final report is always left.
    When it ends with evidence, a failed run invalidates the result and a final report is left
    exactly if, once everything was measured, no run has failed and the composition says that
    it has cleaned up and restored the host. -/
theorem failed_run_invalidates_iff (hash : ReportHash) (buildGitHead : String)
    (payload : CapacityBenchmarkPayload) (left : Option CapacityCompositionExecutionEvidence)
    (files : BenchmarkFiles) :
    (∀ error, Reported hash buildGitHead ⟨payload, .error error, left⟩ files) ∧
      ∀ composition : CapacityCompositionExecutionEvidence,
        (Discredited composition payload.safeSearchCeilingBytes ∧
            Reported hash buildGitHead ⟨payload, .ok composition, left⟩ files) ↔
          (Measured composition.runs →
            (∀ run ∈ composition.runs, run.state ≠ .invalidRun) ∧
              composition.cleanupPassed = true ∧ composition.structuralRestorePassed = true) := by
  constructor
  · intro error
    apply reported_iff.2
    show (errorReport hash buildGitHead payload _ error).verify hash = .ok ()
    unfold errorReport
    -- an error report claims no measurement, so it always verifies
    rw [verify_sealed _ rfl rfl rfl]
    rfl
  · intro composition
    have hreport : Reported hash buildGitHead ⟨payload, .ok composition, left⟩ files ↔ _ :=
      reported_iff.trans (verify_evaluatedReport hash buildGitHead payload composition)
    rw [discredited_iff, hreport]
    constructor
    · rintro ⟨hruns, hclean⟩ hmeasured
      exact ⟨hruns hmeasured, hclean hmeasured⟩
    · intro h
      exact ⟨fun hmeasured => (h hmeasured).1, fun hmeasured => (h hmeasured).2⟩

/-- Six runs of ten sustainable levels; the scope of the last run could not be cleaned up. -/
def failedLastRun : CapacityCompositionExecutionEvidence :=
  let levels := (List.range 10).map fun i => levelAt i (UInt64.ofNat (100 + i)) .sustainable
  compositionOf false <| (List.range 3).flatMap fun r =>
    [runOf (2 * r) .cachyosBaseline r true levels,
      runOf (2 * r + 1) .nemorCapacity r (decide (r ≠ 2)) levels]

/-- The evaluation calls this a censored measurement, the report of it is refused, and the
    report on disk says that the benchmark is still running. -/
theorem failed_last_run_stays_running :
    ¬ Discredited failedLastRun 1000 ∧
      ¬ Reported (fun _ => "") "" ⟨⟨"capacity-benchmark-1", "", 1000⟩, .ok failedLastRun, none⟩
        ⟨none, none, none⟩ ∧
      (evaluate failedLastRun 1000).2.state = .censored ∧
      (Circumstances.executed (fun _ => "") ""
          ⟨⟨"capacity-benchmark-1", "", 1000⟩, .ok failedLastRun, none⟩
          ⟨none, none, none⟩).2.report.map CapacityBenchmarkExecutionEvidence.state =
        some .running := by
  have hmeasured : Measured failedLastRun.runs :=
    (allValid_iff failedLastRun.runs 1000).1 (by decide +kernel)
  refine ⟨?_, ?_, by decide +kernel, by decide +kernel⟩
  · intro h
    have hruns := (discredited_iff failedLastRun 1000).1 h hmeasured
    exact absurd hruns (by decide +kernel)
  · intro h
    have hclean := (verify_evaluatedReport (fun _ => "") "" _ failedLastRun).1
      (reported_iff.1 h) hmeasured
    exact Bool.noConfusion hclean.1

end Nemor.Capacity
