import Nemor.Capacity.Evidence
import Nemor.Capacity.Orchestration
import Nemor.Lib.JsonDocument

/-!
# Do DAMON and DAMOS work together?

The validator of DAMOS is run once, and its report, a JSON document that anybody could have
written, is read for whether the two components are compatible. Three judgements are made over
the same document: what was found in it, whether the validation has passed, and whether the
evidence of the pass can be sealed.

- §1: what is found in a report
- §2: the manifest of a validation
- §3: the evidence
- §4: what a pass rests on
- §5: when a pass is sound
- §6: two reports
-/

namespace Nemor.Capacity.Orchestration

open Fallible Json JsonValue

/-! ## §1 What is found in a report -/

/-- What the assessment finds in the report of the DAMOS validator. -/
structure ComponentReportAssessment where
  sourceCommitMatches : Bool
  scopeMatches : Bool
  errorsEmpty : Bool
  requiredGatesPassed : Bool
  cleanupPassed : Bool
  structuralRestorePassed : Bool
  hostOomObserved : Bool
  damonSafetyPassed : Bool
  exactResourceIdentitiesPresent : Bool
  shadowSessionPassed : Bool
  shadowCleanup : Bool
  vaddrPageoutSupported : Bool
  coldAddressFence : Bool
  deriving DecidableEq

/-- Everything that was assessed holds. -/
def ComponentReportAssessment.compatibilityPasses (a : ComponentReportAssessment)
    (boundedExecutionPassed : Bool) : Bool :=
  boundedExecutionPassed && a.sourceCommitMatches && a.scopeMatches && a.errorsEmpty &&
    a.requiredGatesPassed && a.vaddrPageoutSupported && a.shadowSessionPassed && a.shadowCleanup &&
    a.coldAddressFence && a.cleanupPassed && a.structuralRestorePassed &&
    a.exactResourceIdentitiesPresent && !a.hostOomObserved

/-- The entries of the checks, none when the report has no list of them. -/
def checksOf (report : JsonValue) : List JsonValue :=
  ((report.get "damos").bind fun damos => damos.arrayAt "checks").getD []

/-- The check has this name. -/
def hasName (name : String) (check : JsonValue) : Bool := check.strAt "name" == some name

/-- The check says that it has passed. -/
def hasPassed (check : JsonValue) : Bool := check.boolAt "passed" == some true

/-- Some check of this name has passed, whatever other checks of the name say. -/
def checkPassed (checks : List JsonValue) (name : String) : Bool :=
  checks.any fun check => hasName name check && hasPassed check

/-- A text that is there and not empty. -/
def namedAt (document : JsonValue) (name : String) : Bool :=
  (document.strAt name).any fun value => !value.isEmpty

/-- Both sessions and the process are named. -/
def identitiesPresent (damos : JsonValue) : Bool :=
  namedAt damos "shadow_session_id" && namedAt damos "live_session_id" &&
    (damos.u64At "target_pid").isSome && (damos.u64At "target_start_ticks").isSome

/-- `assess_damos_report`. -/
def assessDamosReport (report : JsonValue) (expectedCommit : String) : ComponentReportAssessment :=
  let checks := checksOf report
  { sourceCommitMatches := report.strAt "commit" == some expectedCommit
    scopeMatches := report.strAt "scope" == some "damos"
    errorsEmpty := (report.arrayAt "errors").any List.isEmpty
    requiredGatesPassed :=
      ((report.get "damos").bind fun damos => damos.boolAt "required_gates_passed").getD false
    cleanupPassed := checkPassed checks "cleanup" && checkPassed checks "scheme_removed"
    structuralRestorePassed := (report.boolAt "host_unchanged").getD false
    hostOomObserved := !checkPassed checks "zero_oom"
    damonSafetyPassed :=
      checkPassed checks "kdamond_started" && checkPassed checks "kdamond_stopped"
    exactResourceIdentitiesPresent := (report.get "damos").any identitiesPresent
    shadowSessionPassed := checkPassed checks "shadow_session_passed"
    shadowCleanup := checkPassed checks "shadow_cleanup"
    vaddrPageoutSupported := checkPassed checks "vaddr_pageout_supported"
    coldAddressFence := checkPassed checks "cold_address_fence" }

/-! ## §2 The manifest of a validation -/

/-- Of the provenance and of the binary, what the evidence names. -/
structure CompatibilityProvenance where
  gitHead : String
  sourceStateId : String

/-- The digest of the executable that runs the validation. -/
structure CompatibilityRunner where
  sha256 : String

/-- What is sealed when a validation is prepared. -/
structure CapacityCompatibilityPayload where
  schemaVersion : UInt32
  executionSchemaVersion : UInt32
  validationId : String
  purpose : String
  provenance : CompatibilityProvenance
  runnerBinary : CompatibilityRunner
  configSha256 : String
  materialEnvironmentHash : String
  components : Finset CapacityComponent
  componentContracts : List CapacityComponentContractIdentity
  ownership : ComponentMap CapacityOwnershipBoundary
  capabilities : Finset CapacityCapability
  individualEvidence : Finset CapacityEvidencePrerequisite
  applyOrder : List CapacityComponent
  rollbackOrder : List CapacityComponent
  excludedComponents : ComponentMap String
  maximumRuntimeMs : UInt64
  automaticRetry : Bool
  hostOomProhibited : Bool
  restoreFailureInvalidatesResult : Bool
  productionActivationAuthorized : Bool
  capacityEvaluation : EvaluationState
  effectivenessEvaluation : EvaluationState

/-- A sealed payload. -/
structure PreparedCapacityCompatibilityManifest where
  payload : CapacityCompatibilityPayload
  payloadSha256 : String

/-- The version of a prepared manifest. -/
def preparedCapacityCompatibilitySchemaVersion : UInt32 := 1

/-- The version of its evidence. -/
def capacityCompatibilityExecutionSchemaVersion : UInt32 := 1

/-- A validation is over after three minutes. -/
def capacityCompatibilityMaxRuntimeMs : UInt64 := 180000

/-- Monitoring and reclaim are validated together. -/
def expectedComponents : Finset CapacityComponent := {.damonTelemetry, .damosReclaim}

/-- The order in which they are applied. -/
def expectedApply : List CapacityComponent := [.damonTelemetry, .damosReclaim]

/-- The manifest is of another validation than the one that is supported. -/
def CapacityCompatibilityPayload.Deviates (p : CapacityCompatibilityPayload) : Prop :=
  p.schemaVersion ≠ preparedCapacityCompatibilitySchemaVersion ∨
    p.executionSchemaVersion ≠ capacityCompatibilityExecutionSchemaVersion ∨
    p.purpose ≠ "combined_profile_compatibility_validation" ∨
    p.components ≠ expectedComponents ∨
    p.componentContracts ≠ componentContractsFor expectedComponents ∨
    p.ownership.keys ≠ expectedComponents ∨
    p.capabilities ≠ {.damonVaddr, .damonOwnedSession, .damosPageout, .damosAddressFence} ∨
    p.individualEvidence ≠ {.damonMonitor, .damosReclaim} ∨
    p.applyOrder ≠ expectedApply ∨
    p.rollbackOrder ≠ expectedApply.reverse ∨
    p.automaticRetry = true ∨
    p.hostOomProhibited = false ∨
    p.restoreFailureInvalidatesResult = false ∨
    p.productionActivationAuthorized = true ∨
    p.capacityEvaluation ≠ .notEvaluated ∨
    p.effectivenessEvaluation ≠ .notEvaluated ∨
    p.maximumRuntimeMs ≠ capacityCompatibilityMaxRuntimeMs ∨
    (p.ownership.anyValue fun boundary => !boundary.exact) = true ∨
    (p.excludedComponents .storageTiering).all
      (fun reason => !decide ("ZswapNvmeBoot".toList <:+: reason.toList)) = true

instance deviatesDecidable (p : CapacityCompatibilityPayload) : Decidable p.Deviates := by
  delta CapacityCompatibilityPayload.Deviates
  infer_instance

/-- The digest of a manifest as it is serialised, for a hash function that is left open. -/
abbrev ManifestHash := CapacityCompatibilityPayload → String

/-- The digest is that of the payload, and the payload is one that can be run. -/
def PreparedCapacityCompatibilityManifest.verify (hash : ManifestHash)
    (manifest : PreparedCapacityCompatibilityManifest) : Except String Unit := do
  refuse (manifest.payloadSha256 ≠ hash manifest.payload)
    "capacity compatibility manifest integrity mismatch"
  refuse manifest.payload.Deviates
    "capacity compatibility manifest is not the exact v1 validation contract"

/-! ## §3 The evidence -/

/-- The validator has ended well and in time. -/
def boundedExecution (statusSuccess : Bool) (elapsed : UInt64) : Bool :=
  statusSuccess && elapsed ≤ capacityCompatibilityMaxRuntimeMs * 1000000

/-- What the validation was of; the names in their order. -/
def validatedResourceIdentitiesOf (damos : JsonValue) : List (String × String) :=
  [("damon_live_session", (damos.strAt "live_session_id").getD "missing"),
    ("damon_shadow_session", (damos.strAt "shadow_session_id").getD "missing"),
    ("damos_target", "pid:" ++ toString ((damos.u64At "target_pid").getD 0) ++ ":start_ticks:" ++
      toString ((damos.u64At "target_start_ticks").getD 0))]

/-- Each of the two components with its own safety. -/
def componentSafetyOf (assessment : ComponentReportAssessment) : ComponentMap Bool
  | .damonTelemetry => some assessment.damonSafetyPassed
  | .damosReclaim => some assessment.requiredGatesPassed
  | _ => none

/-- The payload of the evidence, from the report and its assessment. -/
def compatibilityPayload (p : CapacityCompatibilityPayload) (damos : JsonValue)
    (assessment : ComponentReportAssessment) (boundedExecutionPassed : Bool) (elapsed : UInt64) :
    CapacityCombinedCompatibilityPayload where
  evidenceVersion := capacityCombinedCompatibilityEvidenceVersion
  validationId := p.validationId
  sourceCommit := p.provenance.gitHead
  sourceStateId := p.provenance.sourceStateId
  benchmarkBinarySha256 := p.runnerBinary.sha256
  configSha256 := p.configSha256
  materialEnvironmentHash := p.materialEnvironmentHash
  components := p.components
  componentContracts := p.componentContracts
  ownership := p.ownership
  validatedResourceIdentities := validatedResourceIdentitiesOf damos
  capabilities := p.capabilities
  individualEvidence := p.individualEvidence
  applyOrder := p.applyOrder
  rollbackOrder := p.rollbackOrder
  incompatibilityAssumptions :=
    ["StorageTiering excluded until ZswapNvmeBoot validation",
      "KSM excluded until distinct-target combined validation"]
  startedMonotonicNs := 0
  endedMonotonicNs := elapsed
  boundedExecutionPassed
  cleanupPassed := assessment.cleanupPassed
  restorePassed := assessment.structuralRestorePassed
  hostOomObserved := assessment.hostOomObserved
  componentSafetyPassed := componentSafetyOf assessment
  classification := if assessment.compatibilityPasses boundedExecutionPassed then .pass else .fail

/-- Why no evidence is sealed. -/
inductive CompatibilityError where
  | damosEvidenceMissing
  | contract (error : CapacityContractError)
  deriving DecidableEq

/-- The report of the validator is judged and its evidence sealed. -/
def validateCapacityCompatibility (hash : PayloadHash)
    (manifest : PreparedCapacityCompatibilityManifest) (statusSuccess : Bool) (elapsed : UInt64)
    (report : JsonValue) : Except CompatibilityError CapacityCombinedCompatibilityEvidence := do
  let damos ← okOr (report.get "damos") .damosEvidenceMissing
  let assessment := assessDamosReport report manifest.payload.provenance.gitHead
  let boundedExecutionPassed := boundedExecution statusSuccess elapsed
  (CapacityCombinedCompatibilityEvidence.seal hash
    (compatibilityPayload manifest.payload damos assessment boundedExecutionPassed
      elapsed)).mapError .contract

/-! ## §4 What a pass rests on -/

/-- An entry with a name that has passed. -/
def PassedEntry (checks : List JsonValue) (name : String) : Prop :=
  ∃ check ∈ checks, hasName name check = true ∧ hasPassed check = true

/-- Each entry with a name has passed, if there is one. -/
def NoneFailed (checks : List JsonValue) (name : String) : Prop :=
  ∀ check ∈ checks, hasName name check = true → hasPassed check = true

/-- There is an entry with a name, and each has passed. -/
def GateHeld (checks : List JsonValue) (name : String) : Prop :=
  (∃ check ∈ checks, hasName name check = true) ∧ NoneFailed checks name

/-- A gate is held when an entry has passed and none has not. -/
theorem gateHeld_iff {checks : List JsonValue} {name : String} :
    GateHeld checks name ↔ PassedEntry checks name ∧ NoneFailed checks name := by
  refine and_congr_left fun hnone => exists_congr fun check => and_congr_right fun hmem => ?_
  exact ⟨fun hname => ⟨hname, hnone check hmem hname⟩, And.left⟩

theorem checkPassed_iff {checks : List JsonValue} {name : String} :
    checkPassed checks name = true ↔ PassedEntry checks name := by
  simp [checkPassed, PassedEntry]

/-- The gates that decide over compatibility. -/
def decisiveGates : List String :=
  ["vaddr_pageout_supported", "shadow_session_passed", "shadow_cleanup", "cold_address_fence",
    "cleanup", "scheme_removed", "zero_oom"]

/-- The gates of DAMON itself. -/
def kdamondGates : List String := ["kdamond_started", "kdamond_stopped"]

/-- The gates that a report has to list. -/
def requiredGateNames : List String := decisiveGates ++ kdamondGates

/-- What a pass rests on, field by field. -/
structure Accepted (report : JsonValue) (commit : String) (boundedExecutionPassed : Bool) :
    Prop where
  bounded : boundedExecutionPassed = true
  commit : report.strAt "commit" = some commit
  scope : report.strAt "scope" = some "damos"
  errors : report.arrayAt "errors" = some []
  summary :
    (report.get "damos").bind (fun damos => damos.boolAt "required_gates_passed") = some true
  unchanged : report.boolAt "host_unchanged" = some true
  identities : ∃ damos, report.get "damos" = some damos ∧ identitiesPresent damos = true
  gates : ∀ name ∈ decisiveGates, PassedEntry (checksOf report) name

theorem getD_false_iff {b : Option Bool} : b.getD false = true ↔ b = some true := by
  cases b <;> simp

theorem forall_decisiveGates {p : String → Prop} :
    (∀ name ∈ decisiveGates, p name) ↔
      p "vaddr_pageout_supported" ∧ p "shadow_session_passed" ∧ p "shadow_cleanup" ∧
        p "cold_address_fence" ∧ p "cleanup" ∧ p "scheme_removed" ∧ p "zero_oom" := by
  simp [decisiveGates]

/-- **A pass, from the document itself.** -/
theorem compatibilityPasses_iff {report : JsonValue} {commit : String} {bounded : Bool} :
    (assessDamosReport report commit).compatibilityPasses bounded = true ↔
      Accepted report commit bounded := by
  simp only [ComponentReportAssessment.compatibilityPasses, assessDamosReport, Bool.and_eq_true,
    beq_iff_eq, Bool.not_not, Option.any_eq_true, List.isEmpty_iff, exists_eq_right, getD_false_iff,
    checkPassed_iff, and_assoc]
  constructor
  · intro ⟨hb, hc, hs, he, hg, hv, hsh, hcl, hf, hclean, hremoved, hu, hi, ho⟩
    have hgates := forall_decisiveGates.2 ⟨hv, hsh, hcl, hf, hclean, hremoved, ho⟩
    exact ⟨hb, hc, hs, he, hg, hu, hi, hgates⟩
  · intro ⟨hb, hc, hs, he, hg, hu, hi, hgates⟩
    obtain ⟨hv, hsh, hcl, hf, hclean, hremoved, ho⟩ := forall_decisiveGates.1 hgates
    exact ⟨hb, hc, hs, he, hg, hv, hsh, hcl, hf, hclean, hremoved, hu, hi, ho⟩

/-- The safety of DAMON in the evidence, which the decision does not look at. -/
theorem damonSafetyPassed_iff {report : JsonValue} {commit : String} :
    (assessDamosReport report commit).damonSafetyPassed = true ↔
      ∀ name ∈ kdamondGates, PassedEntry (checksOf report) name := by
  simp [assessDamosReport, kdamondGates, checkPassed_iff]

/-! ## §5 When a pass is sound -/

/-- The texts that tell a validation from others are there. -/
def Identified (p : CapacityCompatibilityPayload) : Prop :=
  p.validationId ≠ "" ∧ p.provenance.gitHead ≠ "" ∧ p.provenance.sourceStateId ≠ "" ∧
    p.runnerBinary.sha256 ≠ "" ∧ p.configSha256 ≠ "" ∧ p.materialEnvironmentHash ≠ ""

/-- The components with a safety are the two that are expected. -/
theorem keys_componentSafetyOf (a : ComponentReportAssessment) :
    (componentSafetyOf a).keys = expectedComponents := by
  ext c
  rw [ComponentMap.keys, Finset.mem_filter]
  cases c <;> simp [componentSafetyOf, expectedComponents]

theorem componentSafetyOf_any (a : ComponentReportAssessment) :
    ((componentSafetyOf a).anyValue fun passed => !passed) = true ↔
      a.damonSafetyPassed = false ∨ a.requiredGatesPassed = false := by
  simp [ComponentMap.anyValue, componentSafetyOf, CapacityComponent.order]

/-- What the manifest fixes fits together. -/
theorem expected_consistent :
    expectedComponents.card = 2 ∧ expectedApply.toFinset = expectedComponents ∧
      (componentContractsFor expectedComponents).length = 2 ∧
      ((componentContractsFor expectedComponents).map fun c => c.component).toFinset =
        expectedComponents := by
  decide

theorem classification_of_pass {p : CapacityCompatibilityPayload} {damos : JsonValue}
    {a : ComponentReportAssessment} {bounded : Bool} {elapsed : UInt64}
    (hpass : a.compatibilityPasses bounded = true) :
    (compatibilityPayload p damos a bounded elapsed).classification = .pass := if_pos hpass

/-- The payload of a pass is valid when the validation has an identity and DAMON was safe: what
else could be wrong with it is excluded by the manifest or by the decision. -/
theorem not_invalid_iff {p : CapacityCompatibilityPayload} (hp : ¬ p.Deviates) {damos : JsonValue}
    {a : ComponentReportAssessment} {bounded : Bool} {elapsed : UInt64}
    (hpass : a.compatibilityPasses bounded = true) :
    ¬ (compatibilityPayload p damos a bounded elapsed).Invalid ↔
      Identified p ∧ a.damonSafetyPassed = true := by
  simp only [CapacityCompatibilityPayload.Deviates, not_or, not_not, ne_eq] at hp
  obtain ⟨-, -, -, hcomponents, hcontracts, hownership, -, hevidence, happly, hrollback, -, -, -,
    -, -, -, -, hexact, -⟩ := hp
  have hclass : (compatibilityPayload p damos a bounded elapsed).classification = .pass :=
    classification_of_pass hpass
  simp only [ComponentReportAssessment.compatibilityPasses, Bool.and_eq_true, Bool.not_eq_true',
    and_assoc] at hpass
  obtain ⟨hbounded, -, -, -, hgates, -, -, -, -, hcleanup, hrestore, -, hoom⟩ := hpass
  obtain ⟨hcard, happlied, hlength, hlisted⟩ := expected_consistent
  rw [CapacityCombinedCompatibilityPayload.Invalid, hclass]
  simp only [compatibilityPayload, hcomponents, hcontracts, hownership, hevidence, happly,
    hrollback, hexact, keys_componentSafetyOf, componentSafetyOf_any, hbounded, hcleanup, hrestore,
    hoom, hgates, hcard, happlied, hlength, hlisted, validatedResourceIdentitiesOf, not_or, ne_eq,
    not_true_eq_false, not_false_eq_true, and_true, true_and, reduceCtorEq]
  simp [Identified, and_assoc]

/-- The evidence of a pass is sealed exactly when its payload is valid. -/
theorem validate_of_pass {hash : PayloadHash} {manifest : PreparedCapacityCompatibilityManifest}
    {statusSuccess : Bool} {elapsed : UInt64} {report damos : JsonValue}
    {a : ComponentReportAssessment}
    (ha : a = assessDamosReport report manifest.payload.provenance.gitHead)
    (hdamos : report.get "damos" = some damos)
    (hpass : a.compatibilityPasses (boundedExecution statusSuccess elapsed) = true) :
    (∃ e, validateCapacityCompatibility hash manifest statusSuccess elapsed report = .ok e ∧
        e.payload.classification = .pass) ↔
      ¬ (compatibilityPayload manifest.payload damos a (boundedExecution statusSuccess elapsed)
        elapsed).Invalid := by
  subst ha
  simp only [validateCapacityCompatibility, hdamos, okOr_some, ok_bind]
  constructor
  · intro ⟨e, he, _⟩
    exact ((CapacityCombinedCompatibilityEvidence.seal_eq_ok rfl).1 (mapError_eq_ok.1 he)).1
  · intro hvalid
    refine ⟨_, mapError_eq_ok.2 ((CapacityCombinedCompatibilityEvidence.seal_eq_ok rfl).2
      ⟨hvalid, rfl⟩), classification_of_pass hpass⟩

/-- What a pass is to say about a report. -/
def FailClosed (report : JsonValue) (commit : String) : Prop :=
  report.strAt "commit" = some commit ∧ report.strAt "scope" = some "damos" ∧
    report.arrayAt "errors" = some [] ∧
    ∀ name ∈ requiredGateNames, GateHeld (checksOf report) name

theorem forall_requiredGateNames {p : String → Prop} :
    (∀ name ∈ requiredGateNames, p name) ↔
      (∀ name ∈ decisiveGates, p name) ∧ ∀ name ∈ kdamondGates, p name :=
  List.forall_mem_append

/-- **When the decision is fail closed, and when its evidence can be sealed.** An accepted report
may still have an entry of a required gate that has not passed, next to one that has; and it may
have no entries of the gates of DAMON at all, which the seal refuses. -/
theorem compatibility_decision_sound_iff (report : JsonValue) :
    (∀ (commit : String) (bounded : Bool),
      ((assessDamosReport report commit).compatibilityPasses bounded = true →
          FailClosed report commit) ↔
        (Accepted report commit bounded →
          (∀ name ∈ requiredGateNames, NoneFailed (checksOf report) name) ∧
            ∀ name ∈ kdamondGates, ∃ check ∈ checksOf report, hasName name check = true)) ∧
    ∀ (manifestHash : ManifestHash) (hash : PayloadHash)
      (manifest : PreparedCapacityCompatibilityManifest),
      manifest.verify manifestHash = .ok () →
      ∀ (statusSuccess : Bool) (elapsed : UInt64),
        ((assessDamosReport report manifest.payload.provenance.gitHead).compatibilityPasses
            (boundedExecution statusSuccess elapsed) = true →
          ∃ e, validateCapacityCompatibility hash manifest statusSuccess elapsed report = .ok e ∧
            e.payload.classification = .pass) ↔
        (Accepted report manifest.payload.provenance.gitHead
            (boundedExecution statusSuccess elapsed) →
          Identified manifest.payload ∧
            ∀ name ∈ kdamondGates, PassedEntry (checksOf report) name) := by
  constructor
  · intro commit bounded
    rw [compatibilityPasses_iff]
    refine forall_congr' fun h => ?_
    -- an accepted report has an entry that has passed for each decisive gate, so that the
    -- entries that have not and the gates of DAMON are all that can be missing
    constructor
    · intro ⟨_, _, _, hgates⟩
      exact ⟨fun name hname => (hgates name hname).2,
        fun name hname => ((forall_requiredGateNames.1 hgates).2 name hname).1⟩
    · intro ⟨hnone, hstart⟩
      have hdecisive : ∀ name ∈ decisiveGates, GateHeld (checksOf report) name := fun name hname =>
        gateHeld_iff.2 ⟨h.gates name hname, (forall_requiredGateNames.1 hnone).1 name hname⟩
      have hkdamond : ∀ name ∈ kdamondGates, GateHeld (checksOf report) name := fun name hname =>
        ⟨hstart name hname, (forall_requiredGateNames.1 hnone).2 name hname⟩
      exact ⟨h.commit, h.scope, h.errors, forall_requiredGateNames.2 ⟨hdecisive, hkdamond⟩⟩
  · intro manifestHash hash manifest hverified statusSuccess elapsed
    have hp : ¬ manifest.payload.Deviates := refuse_eq_ok.1 (refuse_bind_eq_ok.1 hverified).2
    rw [compatibilityPasses_iff]
    refine forall_congr' fun h => ?_
    -- the sections that are sealed are there, as the identities are in them
    obtain ⟨damos, hdamos, -⟩ := h.identities
    have hpass := compatibilityPasses_iff.2 h
    rw [validate_of_pass rfl hdamos hpass, not_invalid_iff hp hpass, damonSafetyPassed_iff]

/-! ## §6 Two reports -/

/-- An entry of the checks. -/
def checkEntry (entry : String × Bool) : JsonValue :=
  .object [("name", .string entry.1), ("passed", .bool entry.2)]

/-- A report in order, but for its checks. -/
def reportWith (checks : List (String × Bool)) : JsonValue :=
  .object [("commit", .string "commit"), ("scope", .string "damos"), ("host_unchanged", .bool true),
    ("errors", .array []),
    ("damos", .object [("required_gates_passed", .bool true),
      ("shadow_session_id", .string "shadow"), ("live_session_id", .string "live"),
      ("target_pid", .number (.posInt 123)), ("target_start_ticks", .number (.posInt 456)),
      ("checks", .array (checks.map checkEntry))])]

/-- Checks that have all passed. -/
def allPassed (names : List String) : List (String × Bool) := names.map fun name => (name, true)

/-- A manifest as it is prepared, sealed with a hash function. -/
def compatibilityManifest (hash : ManifestHash) : PreparedCapacityCompatibilityManifest :=
  let payload : CapacityCompatibilityPayload := {
    schemaVersion := preparedCapacityCompatibilitySchemaVersion
    executionSchemaVersion := capacityCompatibilityExecutionSchemaVersion
    validationId := "capacity-compatibility-1"
    purpose := "combined_profile_compatibility_validation"
    provenance := { gitHead := "commit", sourceStateId := "state" }
    runnerBinary := { sha256 := "runner" }
    configSha256 := "config"
    materialEnvironmentHash := "environment"
    components := expectedComponents
    componentContracts := componentContractsFor expectedComponents
    ownership := fun c => if c ∈ expectedComponents then some (.exactOwned "owned") else none
    capabilities := {.damonVaddr, .damonOwnedSession, .damosPageout, .damosAddressFence}
    individualEvidence := {.damonMonitor, .damosReclaim}
    applyOrder := expectedApply
    rollbackOrder := expectedApply.reverse
    excludedComponents := fun
      | .storageTiering =>
        some "unavailable: ZswapNvmeBoot evidence prerequisite remains pending"
      | _ => none
    maximumRuntimeMs := capacityCompatibilityMaxRuntimeMs
    automaticRetry := false
    hostOomProhibited := true
    restoreFailureInvalidatesResult := true
    productionActivationAuthorized := false
    capacityEvaluation := .notEvaluated
    effectivenessEvaluation := .notEvaluated }
  { payload, payloadSha256 := hash payload }

theorem compatibilityManifest_exact (hash : ManifestHash) :
    ¬ (compatibilityManifest hash).payload.Deviates := by
  show ¬ (compatibilityManifest fun _ => "").payload.Deviates
  decide +kernel

theorem compatibilityManifest_verified (hash : ManifestHash) :
    (compatibilityManifest hash).verify hash = .ok () :=
  refuse_bind_eq_ok.2 ⟨fun h => h rfl, refuse_eq_ok.2 (compatibilityManifest_exact hash)⟩

/-- A report without the gates of DAMON passes and cannot be sealed, whatever the hash functions;
one whose cleanup has failed and passed passes as well. -/
theorem pass_unsealed_and_contradicted :
    ((assessDamosReport (reportWith (allPassed decisiveGates)) "commit").compatibilityPasses
        (boundedExecution true 1) = true ∧
      ∀ (manifestHash : ManifestHash) (hash : PayloadHash),
        validateCapacityCompatibility hash (compatibilityManifest manifestHash) true 1
            (reportWith (allPassed decisiveGates)) =
          .error (.contract .combinedEvidenceInvalid)) ∧
    (assessDamosReport (reportWith (("cleanup", false) :: allPassed requiredGateNames))
        "commit").compatibilityPasses (boundedExecution true 1) = true ∧
      ¬ FailClosed (reportWith (("cleanup", false) :: allPassed requiredGateNames)) "commit" := by
  have hpass : (assessDamosReport (reportWith (allPassed decisiveGates)) "commit").compatibilityPasses
      (boundedExecution true 1) = true := by decide +kernel
  refine ⟨⟨hpass, fun manifestHash hash => ?_⟩, by decide +kernel, ?_⟩
  · obtain ⟨damos, hdamos⟩ : ∃ damos,
        (reportWith (allPassed decisiveGates)).get "damos" = some damos := ⟨_, rfl⟩
    unfold validateCapacityCompatibility
    rw [hdamos, okOr_some, ok_bind]
    dsimp only
    rw [CapacityCombinedCompatibilityEvidence.seal_of_invalid rfl]
    · rfl
    · -- the safety of DAMON is missing
      by_contra hvalid
      have hsafe := ((not_invalid_iff (compatibilityManifest_exact manifestHash) hpass).1 hvalid).2
      exact absurd hsafe (by decide +kernel)
  · intro ⟨_, _, _, hgates⟩
    have hnone := (hgates "cleanup" (by simp [requiredGateNames, decisiveGates])).2
    exact absurd (hnone (checkEntry ("cleanup", false)) List.mem_cons_self rfl) (by decide)

/-- The report of a validation in order passes and is sealed. -/
theorem complete_report_sealed :
    (∀ manifestHash, (compatibilityManifest manifestHash).verify manifestHash = .ok ()) ∧
      ∀ (manifestHash : ManifestHash) (hash : PayloadHash),
        (assessDamosReport (reportWith (allPassed requiredGateNames))
            "commit").compatibilityPasses (boundedExecution true 1) = true →
          ∃ e, validateCapacityCompatibility hash (compatibilityManifest manifestHash) true 1
              (reportWith (allPassed requiredGateNames)) = .ok e ∧
            e.payload.classification = .pass := by
  refine ⟨compatibilityManifest_verified, fun manifestHash hash => ?_⟩
  refine ((compatibility_decision_sound_iff (reportWith (allPassed requiredGateNames))).2
    manifestHash hash (compatibilityManifest manifestHash)
    (compatibilityManifest_verified manifestHash) true 1).2 fun _ => ⟨?_, ?_⟩
  · simp [Identified, compatibilityManifest]
  · exact damonSafetyPassed_iff.1 (show
      (assessDamosReport (reportWith (allPassed requiredGateNames))
        "commit").damonSafetyPassed = true by decide +kernel)

end Nemor.Capacity.Orchestration
