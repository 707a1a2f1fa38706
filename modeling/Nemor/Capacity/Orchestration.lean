import Mathlib.Data.Finset.Sort
import Mathlib.Data.Fintype.Pi
import Nemor.Lib.Fallible

/-!
# Planning the components of a capacity run

A plan says which components may be applied, in which order and on the strength of which
evidence. The planner derives it from a request; the validator checks a plan by itself, also
one that no planner has made. §5 compares the two: the validator lacks one of the checks of
the planner.
-/

namespace Nemor.Capacity.Orchestration

open Fallible

/-! ## §1 Components -/

/-- The parts that a plan may put together. -/
inductive CapacityComponent where
  | damonTelemetry
  | cgroupProtection
  | compressionZram
  | storageTiering
  | damosReclaim
  | ksmEligibility
  deriving DecidableEq

/-- What the host can do. -/
inductive CapacityCapability where
  | cgroupV2
  | memoryController
  | systemdTransientUnits
  | swap
  | zramControl
  | zswap
  | ownedSwapfile
  | validatedBootTiering
  | damonVaddr
  | damonOwnedSession
  | damosPageout
  | damosAddressFence
  | ksm
  | ksmProcessOptIn
  deriving DecidableEq

/-- Earlier validations that a component rests on. -/
inductive CapacityEvidencePrerequisite where
  | ownedCgroupHarness
  | zramLifecycle
  | zswapNvmeBoot
  | damonMonitor
  | damosReclaim
  | ksmSelective
  deriving DecidableEq

namespace CapacityComponent

/-- The order in which components are listed and applied. -/
def order : List CapacityComponent :=
  [.damonTelemetry, .cgroupProtection, .compressionZram, .storageTiering, .damosReclaim,
    .ksmEligibility]

theorem mem_order (c : CapacityComponent) : c ∈ order := by
  cases c <;> decide

instance : Fintype CapacityComponent := ⟨order.toFinset, fun c => List.mem_toFinset.2 (mem_order c)⟩

/-- Every component changes the host in some way. -/
def mutates (_ : CapacityComponent) : Bool := true

/-- What has to be eligible before a component is. -/
def dependencies : CapacityComponent → List CapacityComponent
  | .damosReclaim => [.damonTelemetry]
  | _ => []

/-- What the host has to be able to do for a component. -/
def requiredCapabilities : CapacityComponent → Finset CapacityCapability
  | .damonTelemetry => {.damonOwnedSession, .damonVaddr}
  | .cgroupProtection => {.cgroupV2, .memoryController, .systemdTransientUnits}
  | .compressionZram => {.swap, .zramControl}
  | .storageTiering => {.ownedSwapfile, .validatedBootTiering, .zswap}
  | .damosReclaim => {.damosAddressFence, .damosPageout, .damonVaddr}
  | .ksmEligibility => {.ksm, .ksmProcessOptIn}

/-- The validation that a component rests on. -/
def requiredEvidence : CapacityComponent → CapacityEvidencePrerequisite
  | .damonTelemetry => .damonMonitor
  | .cgroupProtection => .ownedCgroupHarness
  | .compressionZram => .zramLifecycle
  | .storageTiering => .zswapNvmeBoot
  | .damosReclaim => .damosReclaim
  | .ksmEligibility => .ksmSelective

/-- The name of the contract that a component implements. -/
def contractId : CapacityComponent → String
  | .damonTelemetry => "nemor.damon.monitor"
  | .cgroupProtection => "nemor.cgroup.protection"
  | .compressionZram => "nemor.zram.lifecycle"
  | .storageTiering => "nemor.zswap.tiering"
  | .damosReclaim => "nemor.damos.controlled_reclaim"
  | .ksmEligibility => "nemor.ksm.selective"

/-- The version of that contract. -/
def contractVersion : CapacityComponent → String
  | .damonTelemetry => "damon-labels-v1"
  | .cgroupProtection => "checkpoint2-v1"
  | .compressionZram => "zram-lifecycle-v1"
  | .storageTiering => "tiering-v1"
  | .damosReclaim => "damos-controlled-reclaim-v1"
  | .ksmEligibility => "selective-ksm-v1"

end CapacityComponent

/-- Whose the resource of a component is. -/
inductive CapacityOwnershipBoundary where
  | exactOwned (resourceId : String)
  | readOnlyHost
  | ambiguous (reason : String)
  deriving DecidableEq

/-- Bound to a resource with a name. -/
def CapacityOwnershipBoundary.exact : CapacityOwnershipBoundary → Bool
  | .exactOwned resourceId => decide (resourceId ≠ "")
  | _ => false

/-- The resource that is owned, if one is. -/
def CapacityOwnershipBoundary.resourceId? : CapacityOwnershipBoundary → Option String
  | .exactOwned resourceId => some resourceId
  | _ => none

/-- A map with components as keys. -/
abbrev ComponentMap (α : Type) := CapacityComponent → Option α

namespace ComponentMap

variable {α : Type}

/-- The components that have an entry. -/
def keys (m : ComponentMap α) : Finset CapacityComponent :=
  Finset.univ.filter fun c => (m c).isSome = true

/-- Some value has a property. -/
def anyValue (m : ComponentMap α) (p : α → Bool) : Bool :=
  CapacityComponent.order.any fun c => (m c).any p

end ComponentMap

/-! ## §2 Evidence that components work together -/

/-- `CAPACITY_ORCHESTRATION_CONTRACT_VERSION`. -/
def capacityOrchestrationContractVersion : UInt32 := 2

/-- `CAPACITY_COMBINED_COMPATIBILITY_EVIDENCE_VERSION`. -/
def capacityCombinedCompatibilityEvidenceVersion : UInt32 := 1

/-- A component with the contract it implements. -/
structure CapacityComponentContractIdentity where
  component : CapacityComponent
  contractId : String
  contractVersion : String
  deriving DecidableEq

/-- The contracts of a set of components, in the canonical order. -/
def componentContractsFor (components : Finset CapacityComponent) :
    List CapacityComponentContractIdentity :=
  (CapacityComponent.order.filter (· ∈ components)).map fun c =>
    { component := c, contractId := c.contractId, contractVersion := c.contractVersion }

/-- Whether the components were found to go together. -/
inductive CapacityCompatibilityClassification where
  | pass
  | fail
  deriving DecidableEq

/-- What a combined validation has found, for one set of components. -/
structure CapacityCombinedCompatibilityPayload where
  evidenceVersion : UInt32
  validationId : String
  sourceCommit : String
  sourceStateId : String
  benchmarkBinarySha256 : String
  configSha256 : String
  materialEnvironmentHash : String
  components : Finset CapacityComponent
  componentContracts : List CapacityComponentContractIdentity
  ownership : ComponentMap CapacityOwnershipBoundary
  validatedResourceIdentities : List (String × String)
  capabilities : Finset CapacityCapability
  individualEvidence : Finset CapacityEvidencePrerequisite
  applyOrder : List CapacityComponent
  rollbackOrder : List CapacityComponent
  incompatibilityAssumptions : List String
  startedMonotonicNs : UInt64
  endedMonotonicNs : UInt64
  boundedExecutionPassed : Bool
  cleanupPassed : Bool
  restorePassed : Bool
  hostOomObserved : Bool
  componentSafetyPassed : ComponentMap Bool
  classification : CapacityCompatibilityClassification

/-- A payload with its digest. -/
structure CapacityCombinedCompatibilityEvidence where
  payload : CapacityCombinedCompatibilityPayload
  payloadSha256 : String

/-- Why an input or a plan is refused. -/
inductive CapacityContractError where
  | unsupportedVersion (version : UInt32)
  | productionModeChanged
  | automaticActionsEnabled
  | ambiguousOwnership (component : CapacityComponent) (reason : String)
  | requiredCapabilityMissing (component : CapacityComponent) (missing : Finset CapacityCapability)
  | requiredEvidenceMissing (component : CapacityComponent)
      (evidence : CapacityEvidencePrerequisite)
  | dependencyMissing (component dependency : CapacityComponent)
  | incompatibleOwnedTarget
  | combinedEvidenceMissing
  | combinedEvidenceIntegrity
  | combinedEvidenceVersion
  | combinedEvidenceInvalid
  | combinedEvidenceBindingMismatch
  | invalidApplyOrder
  | invalidRollbackOrder
  | inconsistentComponentState (component : CapacityComponent)
  | activationAuthorized
  | evaluationClaimed
  | safetyInvariantViolated
  | invalidComponentSet
  deriving DecidableEq

/-- The digest of a payload as it is serialised, for a hash function that is left open. -/
abbrev PayloadHash := CapacityCombinedCompatibilityPayload → String

/-- The fields of a payload contradict each other, or a pass has a failed part. -/
def CapacityCombinedCompatibilityPayload.Invalid (p : CapacityCombinedCompatibilityPayload) : Prop :=
  p.validationId = "" ∨ p.sourceCommit = "" ∨ p.sourceStateId = "" ∨
    p.benchmarkBinarySha256 = "" ∨ p.configSha256 = "" ∨ p.materialEnvironmentHash = "" ∨
    p.components.card < 2 ∨ p.endedMonotonicNs < p.startedMonotonicNs ∨
    p.applyOrder.toFinset ≠ p.components ∨ p.rollbackOrder ≠ p.applyOrder.reverse ∨
    p.componentContracts.length ≠ p.components.card ∨
    p.ownership.keys.card ≠ p.components.card ∨
    p.componentSafetyPassed.keys.card ≠ p.components.card ∨
    p.validatedResourceIdentities = [] ∨
    (p.componentContracts.map fun c => c.component).toFinset ≠ p.components ∨
    p.componentSafetyPassed.keys ≠ p.components ∨
    p.componentContracts ≠ componentContractsFor p.components ∨
    p.individualEvidence = ∅ ∨
    (p.ownership.anyValue fun boundary => !boundary.exact) = true ∨
    p.classification = .pass ∧
      (p.boundedExecutionPassed = false ∨ p.cleanupPassed = false ∨ p.restorePassed = false ∨
        p.hostOomObserved = true ∨ (p.componentSafetyPassed.anyValue fun passed => !passed) = true)

instance (p : CapacityCombinedCompatibilityPayload) : Decidable p.Invalid := by
  delta CapacityCombinedCompatibilityPayload.Invalid
  infer_instance

/-- The digest is that of the payload, and the payload is well formed. -/
def CapacityCombinedCompatibilityEvidence.validateIntegrity (hash : PayloadHash)
    (e : CapacityCombinedCompatibilityEvidence) : Except CapacityContractError Unit := do
  refuse (e.payloadSha256 ≠ hash e.payload) .combinedEvidenceIntegrity
  refuse (e.payload.evidenceVersion ≠ capacityCombinedCompatibilityEvidenceVersion)
    .combinedEvidenceVersion
  refuse e.payload.Invalid .combinedEvidenceInvalid

/-- The digest of sealed evidence is right. -/
theorem CapacityCombinedCompatibilityEvidence.validateIntegrity_sealed {hash : PayloadHash}
    {e : CapacityCombinedCompatibilityEvidence} (h : e.payloadSha256 = hash e.payload) :
    e.validateIntegrity hash =
      (refuse (e.payload.evidenceVersion ≠ capacityCombinedCompatibilityEvidenceVersion)
        .combinedEvidenceVersion >>= fun _ =>
          refuse e.payload.Invalid .combinedEvidenceInvalid) := by
  simp [CapacityCombinedCompatibilityEvidence.validateIntegrity, h, refuse, ok_bind]

/-- Seal a payload, unless the evidence would be refused. -/
def CapacityCombinedCompatibilityEvidence.seal (hash : PayloadHash)
    (payload : CapacityCombinedCompatibilityPayload) :
    Except CapacityContractError CapacityCombinedCompatibilityEvidence := do
  let evidence : CapacityCombinedCompatibilityEvidence := { payload, payloadSha256 := hash payload }
  evidence.validateIntegrity hash
  return evidence

/-- A payload of the current version is sealed unless it is invalid. -/
theorem CapacityCombinedCompatibilityEvidence.seal_eq_ok {hash : PayloadHash}
    {payload : CapacityCombinedCompatibilityPayload} {e : CapacityCombinedCompatibilityEvidence}
    (hversion : payload.evidenceVersion = capacityCombinedCompatibilityEvidenceVersion) :
    CapacityCombinedCompatibilityEvidence.seal hash payload = .ok e ↔
      ¬ payload.Invalid ∧ e = { payload, payloadSha256 := hash payload } := by
  simp only [CapacityCombinedCompatibilityEvidence.seal,
    CapacityCombinedCompatibilityEvidence.validateIntegrity, bind_eq_ok, refuse_eq_ok, hversion,
    ne_eq, not_true_eq_false, not_false_eq_true, true_and, exists_const]
  exact and_congr_right fun _ => ⟨fun h => (Except.ok.inj h).symm, fun h => h ▸ rfl⟩

/-- An invalid payload is not sealed. -/
theorem CapacityCombinedCompatibilityEvidence.seal_of_invalid {hash : PayloadHash}
    {payload : CapacityCombinedCompatibilityPayload}
    (hversion : payload.evidenceVersion = capacityCombinedCompatibilityEvidenceVersion)
    (hinvalid : payload.Invalid) :
    CapacityCombinedCompatibilityEvidence.seal hash payload = .error .combinedEvidenceInvalid := by
  unfold CapacityCombinedCompatibilityEvidence.seal
  dsimp only
  rw [CapacityCombinedCompatibilityEvidence.validateIntegrity_sealed rfl]
  simp [refuse, hversion, hinvalid, bind, Except.bind]

/-! ## §3 Requests and plans -/

/-- What is asked of one component. -/
structure CapacityComponentRequest where
  desired : Bool
  required : Bool
  ownership : CapacityOwnershipBoundary

/-- What the planner has decided of a component. -/
inductive CapacityComponentState where
  | eligible
  | unavailable
  | disallowed
  | deferred
  deriving DecidableEq

/-- One component of a plan, with everything its state follows from. -/
structure CapacityComponentPlan where
  component : CapacityComponent
  state : CapacityComponentState
  ownership : CapacityOwnershipBoundary
  requiredCapabilities : Finset CapacityCapability
  missingCapabilities : Finset CapacityCapability
  requiredEvidence : CapacityEvidencePrerequisite
  dependencies : List CapacityComponent
  reason : Option String
  deriving DecidableEq

/-- A plan says nothing of how it will do. -/
inductive CapacityEvaluationState where
  | notEvaluated
  deriving DecidableEq

/-- What the planner is given. -/
structure CapacityOrchestrationInput where
  contractVersion : UInt32
  productionMode : String
  allowAutomaticActions : Bool
  capabilities : Finset CapacityCapability
  evidence : Finset CapacityEvidencePrerequisite
  sourceCommit : String
  sourceStateId : String
  benchmarkBinarySha256 : String
  configSha256 : String
  materialEnvironmentHash : String
  combinedCompatibility : Option CapacityCombinedCompatibilityEvidence
  components : ComponentMap CapacityComponentRequest

/-- What the planner returns: every component with its state, and the order of those that apply. -/
structure CapacityOrchestrationPlan where
  contractVersion : UInt32
  variant : String
  productionMode : String
  allowAutomaticActions : Bool
  activationAuthorized : Bool
  availableCapabilities : Finset CapacityCapability
  evidencePrerequisites : Finset CapacityEvidencePrerequisite
  combinedCompatibilityValidationId : Option String
  sourceCommit : String
  sourceStateId : String
  benchmarkBinarySha256 : String
  configSha256 : String
  materialEnvironmentHash : String
  combinedCompatibility : Option CapacityCombinedCompatibilityEvidence
  components : List CapacityComponentPlan
  applyOrder : List CapacityComponent
  rollbackOrder : List CapacityComponent
  hostOomProhibited : Bool
  restoreFailureInvalidatesResult : Bool
  capacityEvaluation : CapacityEvaluationState
  effectivenessEvaluation : CapacityEvaluationState

/-- The entries that may be applied. -/
def eligibleItems (components : List CapacityComponentPlan) : List CapacityComponentPlan :=
  components.filter fun item => item.state == .eligible

/-- The components that may be applied. -/
def eligibleSet (components : List CapacityComponentPlan) : Finset CapacityComponent :=
  ((eligibleItems components).map CapacityComponentPlan.component).toFinset

/-- Who owns what, as the eligible entries say; a later entry replaces an earlier one. -/
def ownershipOf (components : List CapacityComponentPlan) : ComponentMap CapacityOwnershipBoundary :=
  fun c => (((eligibleItems components).filter fun item => item.component == c).getLast?).map
    CapacityComponentPlan.ownership

/-- How many of the components mutate. -/
def mutatingCount (eligible : Finset CapacityComponent) : ℕ :=
  (eligible.filter fun c => c.mutates = true).card

/-! ## §4 The planner and the validator -/

/-- The evidence is of something else than what is to be applied. -/
def Unbound (input : CapacityOrchestrationInput) (components : List CapacityComponentPlan)
    (applyOrder : List CapacityComponent) (p : CapacityCombinedCompatibilityPayload) : Prop :=
  p.classification ≠ .pass ∨ p.components ≠ applyOrder.toFinset ∨
    p.ownership ≠ ownershipOf components ∨
    p.componentContracts ≠ componentContractsFor applyOrder.toFinset ∨
    p.capabilities ≠ input.capabilities ∨ p.individualEvidence ≠ input.evidence ∨
    p.applyOrder ≠ applyOrder ∨ p.rollbackOrder ≠ applyOrder.reverse ∨
    p.sourceCommit ≠ input.sourceCommit ∨ p.sourceStateId ≠ input.sourceStateId ∨
    p.benchmarkBinarySha256 ≠ input.benchmarkBinarySha256 ∨ p.configSha256 ≠ input.configSha256 ∨
    p.materialEnvironmentHash ≠ input.materialEnvironmentHash

instance (input : CapacityOrchestrationInput) (components : List CapacityComponentPlan)
    (applyOrder : List CapacityComponent) (p : CapacityCombinedCompatibilityPayload) :
    Decidable (Unbound input components applyOrder p) := by
  delta Unbound
  infer_instance

section Plans

variable (hash : PayloadHash)

/-- The evidence is sound, and is for this input and these components. -/
def validateCombinedBinding (input : CapacityOrchestrationInput)
    (components : List CapacityComponentPlan) (applyOrder : List CapacityComponent)
    (evidence : CapacityCombinedCompatibilityEvidence) : Except CapacityContractError Unit := do
  evidence.validateIntegrity hash
  refuse (Unbound input components applyOrder evidence.payload) .combinedEvidenceBindingMismatch

/-- The dependencies of one entry are eligible. -/
def requireDependencies (eligible : Finset CapacityComponent) (item : CapacityComponentPlan) :
    Except CapacityContractError Unit :=
  item.dependencies.forM fun dependency =>
    refuse (item.state = .eligible ∧ dependency ∉ eligible)
      (.dependencyMissing item.component dependency)

/-- Every eligible component has its dependencies. -/
def enforceDependencies (components : List CapacityComponentPlan) :
    Except CapacityContractError Unit :=
  components.forM (requireDependencies (eligibleSet components))

/-- The resource that the first eligible entry of a component owns exactly. -/
def exactId (components : List CapacityComponentPlan) (c : CapacityComponent) : Option String :=
  (components.find? fun item => item.component == c && item.state == .eligible).bind fun item =>
    item.ownership.resourceId?

/-- Reclaim and merging may not have the same target. -/
def enforceIncompatibilities (components : List CapacityComponentPlan) :
    Except CapacityContractError Unit :=
  refuse ((exactId components .damosReclaim).isSome = true ∧
      exactId components .damosReclaim = exactId components .ksmEligibility)
    .incompatibleOwnedTarget

/-- An entry does not repeat what is fixed for its component. -/
def Uncanonical (item : CapacityComponentPlan) : Prop :=
  item.requiredCapabilities ≠ item.component.requiredCapabilities ∨
    item.requiredEvidence ≠ item.component.requiredEvidence ∨
    item.dependencies ≠ item.component.dependencies

/-- An eligible entry lacks something. -/
def Unsupported (plan : CapacityOrchestrationPlan) (item : CapacityComponentPlan) : Prop :=
  item.state = .eligible ∧
    (item.missingCapabilities ≠ ∅ ∨ ¬ item.requiredCapabilities ⊆ plan.availableCapabilities ∨
      item.requiredEvidence ∉ plan.evidencePrerequisites ∨ item.reason ≠ none ∨
      item.ownership.exact = false)

instance (item : CapacityComponentPlan) : Decidable (Uncanonical item) := by
  delta Uncanonical
  infer_instance

instance (plan : CapacityOrchestrationPlan) (item : CapacityComponentPlan) :
    Decidable (Unsupported plan item) := by
  delta Unsupported
  infer_instance

/-- What the validator asks of one component. -/
def checkItem (plan : CapacityOrchestrationPlan) (item : CapacityComponentPlan) :
    Except CapacityContractError Unit := do
  refuse (Uncanonical item) (.inconsistentComponentState item.component)
  refuse (Unsupported plan item) (.inconsistentComponentState item.component)
  requireDependencies (eligibleSet plan.components) item

/-- The input that the validator makes up for the check of the evidence. -/
def CapacityOrchestrationPlan.input (plan : CapacityOrchestrationPlan) :
    CapacityOrchestrationInput where
  contractVersion := plan.contractVersion
  productionMode := plan.productionMode
  allowAutomaticActions := plan.allowAutomaticActions
  capabilities := plan.availableCapabilities
  evidence := plan.evidencePrerequisites
  sourceCommit := plan.sourceCommit
  sourceStateId := plan.sourceStateId
  benchmarkBinarySha256 := plan.benchmarkBinarySha256
  configSha256 := plan.configSha256
  materialEnvironmentHash := plan.materialEnvironmentHash
  combinedCompatibility := plan.combinedCompatibility
  components := fun _ => none

/-- Several components need evidence for exactly this plan, others need none. -/
def checkCombined (plan : CapacityOrchestrationPlan) : Except CapacityContractError Unit := do
  let count := mutatingCount (eligibleSet plan.components)
  -- the id alone is asked for first, then the evidence itself
  refuse (1 < count ∧ plan.combinedCompatibilityValidationId = none) .combinedEvidenceMissing
  if 1 < count then
    match plan.combinedCompatibility with
    | none => .error .combinedEvidenceMissing
    | some combined =>
      validateCombinedBinding hash plan.input plan.components plan.applyOrder combined
      refuse (plan.combinedCompatibilityValidationId ≠ some combined.payload.validationId)
        .combinedEvidenceBindingMismatch
  else
    refuse (plan.combinedCompatibilityValidationId.isSome = true ∨
      plan.combinedCompatibility.isSome = true) .combinedEvidenceBindingMismatch

/-- The validator, which sees the plan alone. -/
def validateCapacityOrchestrationPlan (plan : CapacityOrchestrationPlan) :
    Except CapacityContractError Unit := do
  refuse (plan.contractVersion ≠ capacityOrchestrationContractVersion)
    (.unsupportedVersion plan.contractVersion)
  refuse (plan.productionMode ≠ "observe") .productionModeChanged
  refuse (plan.allowAutomaticActions = true) .automaticActionsEnabled
  refuse (plan.activationAuthorized = true) .activationAuthorized
  refuse (plan.variant ≠ "nemor_capacity" ∨ plan.hostOomProhibited = false ∨
    plan.restoreFailureInvalidatesResult = false) .safetyInvariantViolated
  refuse (plan.capacityEvaluation ≠ .notEvaluated ∨ plan.effectivenessEvaluation ≠ .notEvaluated)
    .evaluationClaimed
  refuse (plan.components.length ≠ CapacityComponent.order.length ∨
    (plan.components.map CapacityComponentPlan.component).toFinset ≠
      CapacityComponent.order.toFinset) .invalidComponentSet
  refuse (plan.applyOrder ≠ CapacityComponent.order.filter (· ∈ eligibleSet plan.components))
    .invalidApplyOrder
  refuse (plan.rollbackOrder ≠ plan.applyOrder.reverse) .invalidRollbackOrder
  plan.components.forM (checkItem plan)
  checkCombined hash plan

/-- What is refused before any component is planned. -/
def validateInput (input : CapacityOrchestrationInput) : Except CapacityContractError Unit := do
  refuse (input.contractVersion ≠ capacityOrchestrationContractVersion)
    (.unsupportedVersion input.contractVersion)
  refuse (input.productionMode ≠ "observe") .productionModeChanged
  refuse (input.allowAutomaticActions = true) .automaticActionsEnabled

/-- The state of a requested component, with a reason unless it is eligible. -/
def componentState (input : CapacityOrchestrationInput) (component : CapacityComponent)
    (request : CapacityComponentRequest) :
    Except CapacityContractError (CapacityComponentState × Option String) :=
  let missing := component.requiredCapabilities \ input.capabilities
  if request.desired = false then .ok (.deferred, some "component was not selected")
  -- a component that is not required is only put off
  else if missing ≠ ∅ then
    if request.required = true then .error (.requiredCapabilityMissing component missing)
    else .ok (.unavailable, some "required capability is unavailable")
  else if component.requiredEvidence ∉ input.evidence then
    if request.required = true then
      .error (.requiredEvidenceMissing component component.requiredEvidence)
    else .ok (.deferred, some "component evidence prerequisite is missing")
  else .ok (.eligible, none)

/-- A desired component whose ownership is ambiguous, with its own reason. -/
def refuseAmbiguous (component : CapacityComponent) (request : CapacityComponentRequest) :
    Except CapacityContractError Unit :=
  match request.ownership with
  | .ambiguous reason => refuse (request.desired = true) (.ambiguousOwnership component reason)
  | _ => .ok ()

/-- Plan one component. One that is not asked for is not desired. -/
def planComponent (input : CapacityOrchestrationInput) (component : CapacityComponent) :
    Except CapacityContractError CapacityComponentPlan := do
  let request := (input.components component).getD
    { desired := false, required := false, ownership := .readOnlyHost }
  refuseAmbiguous component request
  refuse (component.mutates = true ∧ request.desired = true ∧ request.ownership.exact = false)
    (.ambiguousOwnership component "mutating component is not bound to an exact-owned resource")
  let (state, reason) ← componentState input component request
  return {
    component := component
    state := state
    ownership := request.ownership
    requiredCapabilities := component.requiredCapabilities
    missingCapabilities := component.requiredCapabilities \ input.capabilities
    requiredEvidence := component.requiredEvidence
    dependencies := component.dependencies
    reason := reason }

/-- The evidence for several components, and its id. -/
def combinedValidationId (input : CapacityOrchestrationInput)
    (components : List CapacityComponentPlan) (applyOrder : List CapacityComponent) :
    Except CapacityContractError (Option String) :=
  if 1 < (applyOrder.filter CapacityComponent.mutates).length then
    match input.combinedCompatibility with
    | none => .error .combinedEvidenceMissing
    | some combined => do
      validateCombinedBinding hash input components applyOrder combined
      return some combined.payload.validationId
  else .ok none

/-- The plan for the entries of an input. -/
def planOf (input : CapacityOrchestrationInput) (components : List CapacityComponentPlan)
    (validationId : Option String) : CapacityOrchestrationPlan :=
  let applyOrder := (eligibleItems components).map CapacityComponentPlan.component
  { contractVersion := capacityOrchestrationContractVersion
    variant := "nemor_capacity"
    productionMode := input.productionMode
    allowAutomaticActions := input.allowAutomaticActions
    activationAuthorized := false
    availableCapabilities := input.capabilities
    evidencePrerequisites := input.evidence
    combinedCompatibilityValidationId := validationId
    sourceCommit := input.sourceCommit
    sourceStateId := input.sourceStateId
    benchmarkBinarySha256 := input.benchmarkBinarySha256
    configSha256 := input.configSha256
    materialEnvironmentHash := input.materialEnvironmentHash
    combinedCompatibility := input.combinedCompatibility
    components := components
    applyOrder := applyOrder
    rollbackOrder := applyOrder.reverse
    hostOomProhibited := true
    restoreFailureInvalidatesResult := true
    capacityEvaluation := .notEvaluated
    effectivenessEvaluation := .notEvaluated }

/-- The planner. -/
def planCapacityOrchestration (input : CapacityOrchestrationInput) :
    Except CapacityContractError CapacityOrchestrationPlan := do
  validateInput input
  let components ← CapacityComponent.order.mapM (planComponent input)
  enforceDependencies components
  -- the planner makes this check, the validator below does not
  enforceIncompatibilities components
  let validationId ← combinedValidationId hash input components
    ((eligibleItems components).map CapacityComponentPlan.component)
  validateCapacityOrchestrationPlan hash (planOf input components validationId)
  return planOf input components validationId

end Plans

/-! ## §5 What a plan guarantees -/

/-- Evidence of a passed validation of exactly this plan. -/
structure Bound (hash : PayloadHash) (plan : CapacityOrchestrationPlan)
    (evidence : CapacityCombinedCompatibilityEvidence) : Prop where
  sealed : evidence.payloadSha256 = hash evidence.payload
  valid : ¬ evidence.payload.Invalid
  pass : evidence.payload.classification = .pass
  components : ∀ c, c ∈ evidence.payload.components ↔ c ∈ plan.applyOrder
  ownership : ∀ c boundary, evidence.payload.ownership c = some boundary ↔
    ∃ item ∈ plan.components, item.component = c ∧ item.state = .eligible ∧
      item.ownership = boundary
  applyOrder : evidence.payload.applyOrder = plan.applyOrder
  rollbackOrder : evidence.payload.rollbackOrder = plan.rollbackOrder
  capabilities : evidence.payload.capabilities = plan.availableCapabilities
  prerequisites : evidence.payload.individualEvidence = plan.evidencePrerequisites
  sourceCommit : evidence.payload.sourceCommit = plan.sourceCommit
  sourceStateId : evidence.payload.sourceStateId = plan.sourceStateId
  benchmarkBinary : evidence.payload.benchmarkBinarySha256 = plan.benchmarkBinarySha256
  config : evidence.payload.configSha256 = plan.configSha256
  environment : evidence.payload.materialEnvironmentHash = plan.materialEnvironmentHash
  named : plan.combinedCompatibilityValidationId = some evidence.payload.validationId

/-- The rules of the planner, as statements about a plan. -/
structure Guaranteed (hash : PayloadHash) (plan : CapacityOrchestrationPlan) : Prop where
  applied : ∀ c, c ∈ plan.applyOrder ↔
    ∃ item ∈ plan.components, item.component = c ∧ item.state = .eligible
  once : plan.applyOrder.Nodup
  ordered : ∀ c ∈ plan.applyOrder, ∀ dependency ∈ c.dependencies,
    ∃ before after, plan.applyOrder = before ++ c :: after ∧ dependency ∈ before
  reversed : plan.rollbackOrder = plan.applyOrder.reverse
  supported : ∀ item ∈ plan.components, item.state = .eligible →
    (∃ resourceId, item.ownership = .exactOwned resourceId ∧ resourceId ≠ "") ∧
      item.component.requiredCapabilities ⊆ plan.availableCapabilities ∧
      item.component.requiredEvidence ∈ plan.evidencePrerequisites
  separate : ∀ damos ∈ plan.components, ∀ ksm ∈ plan.components,
    damos.component = .damosReclaim → ksm.component = .ksmEligibility →
    damos.state = .eligible → ksm.state = .eligible → damos.ownership ≠ ksm.ownership
  combined : 1 < plan.applyOrder.length →
    ∃ evidence, plan.combinedCompatibility = some evidence ∧ Bound hash plan evidence

/-- The checks that an accepted plan has passed, as far as its guarantees depend on them. -/
structure Checked (hash : PayloadHash) (plan : CapacityOrchestrationPlan) : Prop where
  length : plan.components.length = CapacityComponent.order.length
  covered : (plan.components.map CapacityComponentPlan.component).toFinset =
    CapacityComponent.order.toFinset
  applyOrder :
    plan.applyOrder = CapacityComponent.order.filter (· ∈ eligibleSet plan.components)
  rollbackOrder : plan.rollbackOrder = plan.applyOrder.reverse
  canonical : ∀ item ∈ plan.components, ¬ Uncanonical item
  supported : ∀ item ∈ plan.components, ¬ Unsupported plan item
  dependencies : ∀ item ∈ plan.components, item.state = .eligible →
    ∀ dependency ∈ item.dependencies, dependency ∈ eligibleSet plan.components
  combined : checkCombined hash plan = .ok ()

theorem requireDependencies_eq_ok {eligible : Finset CapacityComponent}
    {item : CapacityComponentPlan} :
    requireDependencies eligible item = .ok () ↔
      (item.state = .eligible → ∀ dependency ∈ item.dependencies, dependency ∈ eligible) := by
  unfold requireDependencies
  simp only [forM_eq_ok, refuse_eq_ok, not_and, not_not]
  exact ⟨fun h hstate d hd => h d hd hstate, fun h d hd hstate => h hstate d hd⟩

theorem checked_of_validate {hash : PayloadHash} {plan : CapacityOrchestrationPlan}
    (h : validateCapacityOrchestrationPlan hash plan = .ok ()) : Checked hash plan := by
  simp only [validateCapacityOrchestrationPlan, refuse_bind_eq_ok] at h
  -- the first six checks fix the mode, which no guarantee depends on
  obtain ⟨-, -, -, -, -, -, hset, happly, hrollback, h⟩ := h
  obtain ⟨_, hitems, hcombined⟩ := bind_eq_ok.1 h
  have hitem : ∀ item ∈ plan.components, ¬ Uncanonical item ∧ ¬ Unsupported plan item ∧
      requireDependencies (eligibleSet plan.components) item = .ok () := by
    intro item hmem
    have hcheck := forM_eq_ok.1 hitems item hmem
    simpa only [checkItem, refuse_bind_eq_ok] using hcheck
  rw [not_or, not_not, not_not] at hset
  exact ⟨hset.1, hset.2, not_not.1 happly, not_not.1 hrollback, fun item hmem => (hitem item hmem).1,
    fun item hmem => (hitem item hmem).2.1,
    fun item hmem => requireDependencies_eq_ok.1 (hitem item hmem).2.2, hcombined⟩

theorem mem_eligibleSet {components : List CapacityComponentPlan} {c : CapacityComponent} :
    c ∈ eligibleSet components ↔
      ∃ item ∈ components, item.component = c ∧ item.state = .eligible := by
  simp only [eligibleSet, eligibleItems, List.mem_toFinset, List.mem_map, List.mem_filter,
    beq_iff_eq]
  exact ⟨fun ⟨item, ⟨hmem, hstate⟩, hc⟩ => ⟨item, hmem, hc, hstate⟩,
    fun ⟨item, hmem, hc, hstate⟩ => ⟨item, ⟨hmem, hstate⟩, hc⟩⟩

/-- A dependency stands before its dependent in the fixed order, and what is left out does not
    change that. -/
theorem filter_order_ordered (p : CapacityComponent → Bool) {c dependency : CapacityComponent}
    (hc : p c = true) (hp : p dependency = true) (h : dependency ∈ c.dependencies) :
    ∃ before after, CapacityComponent.order.filter p = before ++ c :: after ∧
      dependency ∈ before := by
  -- DAMOS is the only component that depends on another one
  cases c with
  | damosReclaim =>
    obtain rfl := List.mem_singleton.1 h
    refine ⟨[.damonTelemetry, .cgroupProtection, .compressionZram, .storageTiering].filter p,
      [.ksmEligibility].filter p, ?_, List.mem_filter.2 ⟨List.mem_cons_self, hp⟩⟩
    have hsplit : CapacityComponent.order =
        [.damonTelemetry, .cgroupProtection, .compressionZram, .storageTiering] ++
          .damosReclaim :: [.ksmEligibility] := rfl
    rw [hsplit, List.filter_append, List.filter_cons_of_pos hc]
  | damonTelemetry => cases h
  | cgroupProtection => cases h
  | compressionZram => cases h
  | storageTiering => cases h
  | ksmEligibility => cases h

section Checked

variable {hash : PayloadHash} {plan : CapacityOrchestrationPlan}

/-- Each component has exactly one entry. -/
theorem Checked.nodup (h : Checked hash plan) :
    (plan.components.map CapacityComponentPlan.component).Nodup := by
  have hcard : (plan.components.map CapacityComponentPlan.component).toFinset.card =
      (plan.components.map CapacityComponentPlan.component).length := by
    rw [h.covered, List.length_map, h.length]
    rfl
  exact Multiset.coe_nodup.1 (Multiset.toFinset_card_eq_card_iff_nodup.1 hcard)

theorem Checked.unique (h : Checked hash plan) {item item' : CapacityComponentPlan}
    (hmem : item ∈ plan.components) (hmem' : item' ∈ plan.components)
    (hc : item.component = item'.component) : item = item' :=
  List.inj_on_of_nodup_map h.nodup hmem hmem' hc

theorem Checked.mem_applyOrder (h : Checked hash plan) (c : CapacityComponent) :
    c ∈ plan.applyOrder ↔ ∃ item ∈ plan.components, item.component = c ∧ item.state = .eligible := by
  rw [h.applyOrder, List.mem_filter, decide_eq_true_eq, mem_eligibleSet]
  simp [CapacityComponent.mem_order]

theorem Checked.ordered (h : Checked hash plan) : ∀ c ∈ plan.applyOrder,
    ∀ dependency ∈ c.dependencies,
      ∃ before after, plan.applyOrder = before ++ c :: after ∧ dependency ∈ before := by
  intro c hc dependency hdep
  obtain ⟨item, hmem, rfl, hstate⟩ := (h.mem_applyOrder c).1 hc
  have hcanonical := h.canonical item hmem
  simp only [Uncanonical, not_or, not_not] at hcanonical
  have heligible := h.dependencies item hmem hstate dependency (by rwa [hcanonical.2.2])
  rw [h.applyOrder] at hc ⊢
  exact filter_order_ordered _ (List.mem_filter.1 hc).2 (decide_eq_true heligible) hdep

theorem Checked.owned (h : Checked hash plan) {item : CapacityComponentPlan}
    (hmem : item ∈ plan.components) (hstate : item.state = .eligible) :
    (∃ resourceId, item.ownership = .exactOwned resourceId ∧ resourceId ≠ "") ∧
      item.component.requiredCapabilities ⊆ plan.availableCapabilities ∧
      item.component.requiredEvidence ∈ plan.evidencePrerequisites := by
  have hcanonical := h.canonical item hmem
  simp only [Uncanonical, not_or, not_not] at hcanonical
  have hsupported := h.supported item hmem
  simp only [Unsupported, hstate, true_and, not_or, not_not, Bool.not_eq_false] at hsupported
  obtain ⟨-, hcapabilities, hevidence, -, hexact⟩ := hsupported
  rw [hcanonical.1] at hcapabilities
  rw [hcanonical.2.1] at hevidence
  refine ⟨?_, hcapabilities, hevidence⟩
  cases howner : item.ownership with
  | exactOwned resourceId =>
    rw [howner] at hexact
    exact ⟨resourceId, rfl, of_decide_eq_true hexact⟩
  | readOnlyHost => rw [howner] at hexact; cases hexact
  | ambiguous reason => rw [howner] at hexact; cases hexact

theorem Checked.nodup_applyOrder (h : Checked hash plan) : plan.applyOrder.Nodup := by
  have horder : CapacityComponent.order.Nodup := by decide
  rw [h.applyOrder]
  exact horder.filter _

/-- Every component mutates, so the count is the number of components to apply. -/
theorem Checked.mutatingCount (h : Checked hash plan) :
    mutatingCount (eligibleSet plan.components) = plan.applyOrder.length := by
  have hset : plan.applyOrder.toFinset = eligibleSet plan.components := by
    ext c
    rw [List.mem_toFinset, h.mem_applyOrder, mem_eligibleSet]
  have hall : (eligibleSet plan.components).filter (fun c => c.mutates = true) =
      eligibleSet plan.components := Finset.filter_true_of_mem fun _ _ => rfl
  rw [Orchestration.mutatingCount, hall, ← hset, List.toFinset_card_of_nodup h.nodup_applyOrder]

theorem Checked.ownershipOf_eq_some (h : Checked hash plan) {c : CapacityComponent}
    {boundary : CapacityOwnershipBoundary} :
    ownershipOf plan.components c = some boundary ↔
      ∃ item ∈ plan.components, item.component = c ∧ item.state = .eligible ∧
        item.ownership = boundary := by
  have hmem : ∀ item, item ∈ (eligibleItems plan.components).filter (fun item => item.component == c) ↔
      item ∈ plan.components ∧ item.component = c ∧ item.state = .eligible := by
    intro item
    simp only [eligibleItems, List.mem_filter, beq_iff_eq]
    exact ⟨fun ⟨⟨hm, hs⟩, hc⟩ => ⟨hm, hc, hs⟩, fun ⟨hm, hc, hs⟩ => ⟨⟨hm, hs⟩, hc⟩⟩
  unfold ownershipOf
  rw [Option.map_eq_some_iff]
  constructor
  · rintro ⟨item, hlast, rfl⟩
    obtain ⟨hm, hc, hs⟩ := (hmem item).1 (List.mem_of_getLast? hlast)
    exact ⟨item, hm, hc, hs, rfl⟩
  · rintro ⟨item, hm, hc, hs, rfl⟩
    -- the entry found is this one, since each component has only one
    have hne : (eligibleItems plan.components).filter (fun item => item.component == c) ≠ [] :=
      List.ne_nil_of_mem ((hmem item).2 ⟨hm, hc, hs⟩)
    have hlast := List.getLast?_eq_getLast_of_ne_nil hne
    obtain ⟨hm', hc', -⟩ := (hmem _).1 (List.getLast_mem hne)
    exact ⟨_, hlast, by rw [h.unique hm' hm (hc'.trans hc.symm)]⟩

/-- The evidence of an accepted plan is bound to it. -/
theorem Checked.bound (h : Checked hash plan) (hcount : 1 < plan.applyOrder.length) :
    ∃ evidence, plan.combinedCompatibility = some evidence ∧ Bound hash plan evidence := by
  have hcombined := h.combined
  simp only [checkCombined, h.mutatingCount, refuse_bind_eq_ok, if_pos hcount] at hcombined
  cases hevidence : plan.combinedCompatibility with
  | none =>
    rw [hevidence] at hcombined
    cases hcombined.2
  | some evidence =>
    rw [hevidence] at hcombined
    -- sealed and valid, then bound to the plan, then named by it
    obtain ⟨_, hbinding, hnamed⟩ := bind_eq_ok.1 hcombined.2
    obtain ⟨_, hintegrity, hbound⟩ := bind_eq_ok.1 hbinding
    simp only [CapacityCombinedCompatibilityEvidence.validateIntegrity, refuse_bind_eq_ok,
      refuse_eq_ok, not_not] at hintegrity
    replace hbound := refuse_eq_ok.1 hbound
    simp only [Unbound, not_or, not_not] at hbound
    obtain ⟨hpass, hcomponents, hownership, -, hcapabilities, hprerequisites, happly, hrollback, hcommit,
      hstate, hbinary, hconfig, henvironment⟩ := hbound
    refine ⟨evidence, rfl, hintegrity.1, hintegrity.2.2, hpass, ?_, ?_, happly, ?_, hcapabilities,
      hprerequisites, hcommit, hstate, hbinary, hconfig, henvironment,
      not_not.1 (refuse_eq_ok.1 hnamed)⟩
    · intro c
      rw [hcomponents, List.mem_toFinset]
    · intro c boundary
      rw [hownership]
      exact h.ownershipOf_eq_some
    · rw [hrollback, h.rollbackOrder]

theorem resourceId?_eq_some {boundary : CapacityOwnershipBoundary} {resourceId : String} :
    boundary.resourceId? = some resourceId ↔ boundary = .exactOwned resourceId := by
  cases boundary <;> simp [CapacityOwnershipBoundary.resourceId?]

theorem Checked.exactId_eq_some (h : Checked hash plan) {c : CapacityComponent}
    {resourceId : String} :
    exactId plan.components c = some resourceId ↔
      ∃ item ∈ plan.components, item.component = c ∧ item.state = .eligible ∧
        item.ownership = .exactOwned resourceId := by
  unfold exactId
  simp only [Option.bind_eq_some_iff, resourceId?_eq_some]
  constructor
  · rintro ⟨item, hfind, howner⟩
    have hp := List.find?_some hfind
    simp only [Bool.and_eq_true, beq_iff_eq] at hp
    exact ⟨item, List.mem_of_find?_eq_some hfind, hp.1, hp.2, howner⟩
  · rintro ⟨item, hmem, hc, hs, howner⟩
    have hsome : (plan.components.find? fun item =>
        item.component == c && item.state == .eligible).isSome = true := by
      rw [List.find?_isSome]
      exact ⟨item, hmem, by simp [hc, hs]⟩
    -- the first eligible entry is the only one
    obtain ⟨item', hfind⟩ := Option.isSome_iff_exists.1 hsome
    have hp := List.find?_some hfind
    simp only [Bool.and_eq_true, beq_iff_eq] at hp
    have hsame := h.unique (List.mem_of_find?_eq_some hfind) hmem (hp.1.trans hc.symm)
    exact ⟨item', hfind, hsame ▸ howner⟩

/-- The missing check of the validator says that DAMOS and KSM do not share a resource. -/
theorem Checked.separate_iff (h : Checked hash plan) :
    enforceIncompatibilities plan.components = .ok () ↔
      ∀ damos ∈ plan.components, ∀ ksm ∈ plan.components,
        damos.component = .damosReclaim → ksm.component = .ksmEligibility →
        damos.state = .eligible → ksm.state = .eligible → damos.ownership ≠ ksm.ownership := by
  unfold enforceIncompatibilities
  rw [refuse_eq_ok, not_and]
  constructor
  · intro hids damos hdamos ksm hksm hdc hkc hds hks hsame
    -- both own the same resource exactly, so the ids agree
    obtain ⟨⟨resourceId, howner, -⟩, -⟩ := h.owned hdamos hds
    have hdid := h.exactId_eq_some.2 ⟨damos, hdamos, hdc, hds, howner⟩
    have hkid := h.exactId_eq_some.2 ⟨ksm, hksm, hkc, hks, hsame ▸ howner⟩
    exact hids (by rw [hdid]; rfl) (hdid.trans hkid.symm)
  · intro hseparate hsome hsame
    obtain ⟨resourceId, hdid⟩ := Option.isSome_iff_exists.1 hsome
    obtain ⟨damos, hdamos, hdc, hds, hdowner⟩ := h.exactId_eq_some.1 hdid
    obtain ⟨ksm, hksm, hkc, hks, hkowner⟩ := h.exactId_eq_some.1 (hsame ▸ hdid)
    exact hseparate damos hdamos ksm hksm hdc hkc hds hks (hdowner.trans hkowner.symm)

theorem Checked.guaranteed_iff (h : Checked hash plan) :
    Guaranteed hash plan ↔ enforceIncompatibilities plan.components = .ok () := by
  rw [h.separate_iff]
  constructor
  · intro hguaranteed
    exact hguaranteed.separate
  · intro hseparate
    exact ⟨h.mem_applyOrder, h.nodup_applyOrder, h.ordered, h.rollbackOrder,
      fun _ hmem hstate => h.owned hmem hstate, hseparate, h.bound⟩

end Checked

/-- The planner enforces all of it. -/
theorem planned_guaranteed {hash : PayloadHash} {input : CapacityOrchestrationInput}
    {plan : CapacityOrchestrationPlan} (h : planCapacityOrchestration hash input = .ok plan) :
    Guaranteed hash plan := by
  unfold planCapacityOrchestration at h
  obtain ⟨_, -, h⟩ := bind_eq_ok.1 h
  obtain ⟨components, -, h⟩ := bind_eq_ok.1 h
  obtain ⟨_, -, h⟩ := bind_eq_ok.1 h
  obtain ⟨_, hseparate, h⟩ := bind_eq_ok.1 h
  obtain ⟨validationId, -, h⟩ := bind_eq_ok.1 h
  obtain ⟨_, hvalid, h⟩ := bind_eq_ok.1 h
  cases h
  exact (checked_of_validate hvalid).guaranteed_iff.2 hseparate

/-- **The validator against the planner.** A plan that the validator accepts has the guarantees
    of the planner exactly if it also passes the check of incompatible targets, which the
    validator does not make. -/
theorem accepted_plan_guaranteed_iff (hash : PayloadHash) (plan : CapacityOrchestrationPlan)
    (h : validateCapacityOrchestrationPlan hash plan = .ok ()) :
    Guaranteed hash plan ↔ enforceIncompatibilities plan.components = .ok () :=
  (checked_of_validate h).guaranteed_iff

/-! ### DAMOS and KSM on one resource -/

/-- An entry with everything that is fixed for its component. -/
def sampleItem (component : CapacityComponent) (resourceId : Option String) :
    CapacityComponentPlan where
  component := component
  state := if resourceId.isSome then .eligible else .deferred
  ownership := (resourceId.map .exactOwned).getD .readOnlyHost
  requiredCapabilities := component.requiredCapabilities
  missingCapabilities := ∅
  requiredEvidence := component.requiredEvidence
  dependencies := component.dependencies
  reason := if resourceId.isSome then none else some "component was not selected"

/-- DAMON, DAMOS on the resource `capacity-damos`, and KSM on a resource to be chosen. -/
def sampleItems (ksm : String) : List CapacityComponentPlan :=
  [sampleItem .damonTelemetry (some "capacity-damon"), sampleItem .cgroupProtection none,
    sampleItem .compressionZram none, sampleItem .storageTiering none,
    sampleItem .damosReclaim (some "capacity-damos"), sampleItem .ksmEligibility (some ksm)]

/-- A host with DAMON, DAMOS and KSM. -/
def sampleCapabilities : Finset CapacityCapability :=
  {.damonOwnedSession, .damonVaddr, .damosAddressFence, .damosPageout, .ksm, .ksmProcessOptIn}

/-- Evidence for monitoring, reclaim and merging, the last on a resource of its own. -/
def samplePayload (ksm : String) : CapacityCombinedCompatibilityPayload where
  evidenceVersion := capacityCombinedCompatibilityEvidenceVersion
  validationId := "validation-1"
  sourceCommit := "commit"
  sourceStateId := "state"
  benchmarkBinarySha256 := "binary"
  configSha256 := "config"
  materialEnvironmentHash := "environment"
  components := {.damonTelemetry, .damosReclaim, .ksmEligibility}
  componentContracts :=
    componentContractsFor {.damonTelemetry, .damosReclaim, .ksmEligibility}
  ownership := ownershipOf (sampleItems ksm)
  validatedResourceIdentities := [("target", "capacity-damos")]
  capabilities := sampleCapabilities
  individualEvidence := {.damonMonitor, .damosReclaim, .ksmSelective}
  applyOrder := [.damonTelemetry, .damosReclaim, .ksmEligibility]
  rollbackOrder := [.ksmEligibility, .damosReclaim, .damonTelemetry]
  incompatibilityAssumptions := []
  startedMonotonicNs := 1
  endedMonotonicNs := 2
  boundedExecutionPassed := true
  cleanupPassed := true
  restorePassed := true
  hostOomObserved := false
  componentSafetyPassed := fun c =>
    if c ∈ [CapacityComponent.damonTelemetry, .damosReclaim, .ksmEligibility] then some true
    else none
  classification := .pass

/-- The plan with its evidence, sealed with a hash function. -/
def samplePlan (hash : PayloadHash) (ksm : String) : CapacityOrchestrationPlan where
  contractVersion := capacityOrchestrationContractVersion
  variant := "nemor_capacity"
  productionMode := "observe"
  allowAutomaticActions := false
  activationAuthorized := false
  availableCapabilities := sampleCapabilities
  evidencePrerequisites := {.damonMonitor, .damosReclaim, .ksmSelective}
  combinedCompatibilityValidationId := some "validation-1"
  sourceCommit := "commit"
  sourceStateId := "state"
  benchmarkBinarySha256 := "binary"
  configSha256 := "config"
  materialEnvironmentHash := "environment"
  combinedCompatibility := some ⟨samplePayload ksm, hash (samplePayload ksm)⟩
  components := sampleItems ksm
  applyOrder := [.damonTelemetry, .damosReclaim, .ksmEligibility]
  rollbackOrder := [.ksmEligibility, .damosReclaim, .damonTelemetry]
  hostOomProhibited := true
  restoreFailureInvalidatesResult := true
  capacityEvaluation := .notEvaluated
  effectivenessEvaluation := .notEvaluated

/-- The validator reads of the hash function only that the evidence is sealed with it. -/
theorem validate_samplePlan (hash : PayloadHash) (ksm : String) :
    validateCapacityOrchestrationPlan hash (samplePlan hash ksm) =
      validateCapacityOrchestrationPlan (fun _ => "") (samplePlan (fun _ => "") ksm) := by
  have hbinding (hash : PayloadHash) : checkCombined hash (samplePlan hash ksm) =
      checkCombined (fun _ => "") (samplePlan (fun _ => "") ksm) := by
    unfold checkCombined validateCombinedBinding
    simp only [samplePlan]
    rw [CapacityCombinedCompatibilityEvidence.validateIntegrity_sealed rfl,
      CapacityCombinedCompatibilityEvidence.validateIntegrity_sealed rfl]
    rfl
  unfold validateCapacityOrchestrationPlan
  rw [hbinding]
  rfl

/-- With any hash function, the plan in which KSM works on the given resource is accepted and has
    the property. -/
def AcceptedWith (ksm : String) (P : PayloadHash → CapacityOrchestrationPlan → Prop) : Prop :=
  ∀ hash, validateCapacityOrchestrationPlan hash (samplePlan hash ksm) = .ok () ∧
    P hash (samplePlan hash ksm)

/-- With two resources the plan has all guarantees. -/
theorem separate_targets_guaranteed : AcceptedWith "capacity-ksm" Guaranteed := by
  intro hash
  have hvalid : validateCapacityOrchestrationPlan hash (samplePlan hash "capacity-ksm") =
      .ok () := by
    rw [validate_samplePlan]
    decide +kernel
  exact ⟨hvalid, (accepted_plan_guaranteed_iff _ _ hvalid).2
    (show enforceIncompatibilities (sampleItems "capacity-ksm") = .ok () by decide +kernel)⟩

/-- With one resource the validator accepts the plan, although both would work on it. -/
theorem shared_target_accepted :
    AcceptedWith "capacity-damos" fun hash plan => ¬ Guaranteed hash plan := by
  intro hash
  constructor
  · rw [validate_samplePlan]
    decide +kernel
  · intro h
    exact h.separate (sampleItem .damosReclaim (some "capacity-damos"))
      (show _ ∈ sampleItems "capacity-damos" by decide +kernel)
      (sampleItem .ksmEligibility (some "capacity-damos"))
      (show _ ∈ sampleItems "capacity-damos" by decide +kernel) rfl rfl rfl rfl rfl

end Nemor.Capacity.Orchestration
