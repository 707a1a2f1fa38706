import Nemor.Capacity.Orchestration

/-!
# What becomes of the required components

A request has two flags: `desired` says that a component is asked for, `required` that the
plan must not do without it. The planner looks at `required` only where a desired component
lacks a capability or its evidence.
-/

namespace Nemor.Capacity.Orchestration

open Fallible

/-! ## §1 What the planner promises -/

/-- Everything a component needs is in the input, and the request asks for it. -/
structure Entitled (input : CapacityOrchestrationInput) (component : CapacityComponent) : Prop where
  requested : ∃ request, input.components component = some request ∧ request.desired = true ∧
    ∃ resourceId, request.ownership = .exactOwned resourceId ∧ resourceId ≠ ""
  capabilities : component.requiredCapabilities ⊆ input.capabilities
  evidence : component.requiredEvidence ∈ input.evidence

/-- The required components are applied, and nothing is eligible that is not entitled to it. -/
structure Honoured (input : CapacityOrchestrationInput) (plan : CapacityOrchestrationPlan) :
    Prop where
  required : ∀ component request, input.components component = some request →
    request.required = true → component ∈ plan.applyOrder ∧
      ∃ item ∈ plan.components, item.component = component ∧ item.state = .eligible
  entitled : ∀ item ∈ plan.components, item.state = .eligible → Entitled input item.component

/-! ## §2 One component -/

section Component

variable {input : CapacityOrchestrationInput} {component : CapacityComponent}
variable {request : CapacityComponentRequest} {item : CapacityComponentPlan}

/-- The request that is planned for; a component without one is neither desired nor required. -/
def requestOf (input : CapacityOrchestrationInput) (component : CapacityComponent) :
    CapacityComponentRequest :=
  (input.components component).getD
    { desired := false, required := false, ownership := .readOnlyHost }

/-- A component is eligible exactly if it is desired and nothing is missing. -/
theorem componentState_eligible_iff {state : CapacityComponentState} {reason : Option String}
    (h : componentState input component request = .ok (state, reason)) :
    state = .eligible ↔ request.desired = true ∧
      component.requiredCapabilities ⊆ input.capabilities ∧
      component.requiredEvidence ∈ input.evidence := by
  unfold componentState at h
  by_cases hdesired : request.desired = false
  · rw [if_pos hdesired] at h
    cases h
    simp [hdesired]
  rw [if_neg hdesired] at h
  -- a desired component, by what is missing first
  rw [← Finset.sdiff_eq_empty_iff_subset]
  by_cases hmissing : component.requiredCapabilities \ input.capabilities ≠ ∅
  · rw [if_pos hmissing] at h
    by_cases hrequired : request.required = true
    · rw [if_pos hrequired] at h
      cases h
    · rw [if_neg hrequired] at h
      cases h
      simp [hmissing]
  rw [if_neg hmissing] at h
  by_cases hevidence : component.requiredEvidence ∉ input.evidence
  · rw [if_pos hevidence] at h
    by_cases hrequired : request.required = true
    · rw [if_pos hrequired] at h
      cases h
    · rw [if_neg hrequired] at h
      cases h
      simp [hevidence]
  rw [if_neg hevidence] at h
  cases h
  simp_all

/-- A component that is desired and required is eligible or stops the planner. -/
theorem componentState_required {state : CapacityComponentState} {reason : Option String}
    (h : componentState input component request = .ok (state, reason))
    (hdesired : request.desired = true) (hrequired : request.required = true) :
    state = .eligible := by
  simp only [componentState, hdesired, hrequired, Bool.true_eq_false, if_false, if_true,
    ite_error_eq_ok] at h
  obtain ⟨-, -, h⟩ := h
  cases h
  rfl

theorem planComponent_eq_ok (h : planComponent input component = .ok item) :
    item.component = component ∧
      ((requestOf input component).desired = true →
        (requestOf input component).ownership.exact = true) ∧
      componentState input component (requestOf input component) =
        .ok (item.state, item.reason) := by
  unfold planComponent at h
  obtain ⟨_, -, h⟩ := bind_eq_ok.1 h
  obtain ⟨hexact, h⟩ := refuse_bind_eq_ok.1 h
  obtain ⟨⟨state, reason⟩, hstate, h⟩ := bind_eq_ok.1 h
  cases h
  refine ⟨rfl, fun hdesired => ?_, hstate⟩
  by_contra hno
  exact hexact ⟨rfl, hdesired, Bool.eq_false_of_not_eq_true hno⟩

theorem exact_eq_true {boundary : CapacityOwnershipBoundary} (h : boundary.exact = true) :
    ∃ resourceId, boundary = .exactOwned resourceId ∧ resourceId ≠ "" := by
  cases boundary with
  | exactOwned resourceId => exact ⟨resourceId, rfl, of_decide_eq_true h⟩
  | readOnlyHost => cases h
  | ambiguous reason => cases h

/-- A desired request is one that was made. -/
theorem components_of_desired (h : (requestOf input component).desired = true) :
    input.components component = some (requestOf input component) := by
  unfold requestOf at h ⊢
  cases hrequest : input.components component with
  | none =>
    rw [hrequest] at h
    cases h
  | some request => rfl

theorem planComponent_eligible (h : planComponent input component = .ok item)
    (heligible : item.state = .eligible) : Entitled input component := by
  obtain ⟨-, hexact, hstate⟩ := planComponent_eq_ok h
  obtain ⟨hdesired, hcapabilities, hevidence⟩ := (componentState_eligible_iff hstate).1 heligible
  exact ⟨⟨_, components_of_desired hdesired, hdesired, exact_eq_true (hexact hdesired)⟩,
    hcapabilities, hevidence⟩

end Component

/-! ## §3 A plan -/

section Plan

variable {hash : PayloadHash} {input : CapacityOrchestrationInput}
variable {plan : CapacityOrchestrationPlan}

/-- The entries of an accepted plan are those of the single components, and the eligible ones
    are applied. -/
theorem planCapacityOrchestration_components (h : planCapacityOrchestration hash input = .ok plan) :
    CapacityComponent.order.mapM (planComponent input) = .ok plan.components ∧
      plan.applyOrder = (eligibleItems plan.components).map CapacityComponentPlan.component := by
  unfold planCapacityOrchestration at h
  obtain ⟨_, -, h⟩ := bind_eq_ok.1 h
  obtain ⟨components, hcomponents, h⟩ := bind_eq_ok.1 h
  obtain ⟨_, -, h⟩ := bind_eq_ok.1 h
  obtain ⟨_, -, h⟩ := bind_eq_ok.1 h
  obtain ⟨validationId, -, h⟩ := bind_eq_ok.1 h
  obtain ⟨_, -, h⟩ := bind_eq_ok.1 h
  cases h
  exact ⟨hcomponents, rfl⟩

/-- Whatever is eligible is entitled to it: the `required` flags play no part in that. -/
theorem planned_entitled (h : planCapacityOrchestration hash input = .ok plan)
    {item : CapacityComponentPlan} (hmem : item ∈ plan.components)
    (heligible : item.state = .eligible) : Entitled input item.component := by
  obtain ⟨component, -, hplanned⟩ :=
    exists_item_of_mapM (planCapacityOrchestration_components h).1 hmem
  rw [(planComponent_eq_ok hplanned).1]
  exact planComponent_eligible hplanned heligible

/-- A component that is desired and required is applied. -/
theorem planned_required (h : planCapacityOrchestration hash input = .ok plan)
    {component : CapacityComponent} {request : CapacityComponentRequest}
    (hrequest : input.components component = some request) (hdesired : request.desired = true)
    (hrequired : request.required = true) :
    component ∈ plan.applyOrder ∧
      ∃ item ∈ plan.components, item.component = component ∧ item.state = .eligible := by
  obtain ⟨hcomponents, happly⟩ := planCapacityOrchestration_components h
  obtain ⟨item, hmem, hplanned⟩ :=
    exists_image_of_mapM hcomponents (CapacityComponent.mem_order component)
  obtain ⟨hcomponent, -, hstate⟩ := planComponent_eq_ok hplanned
  have hrequestOf : requestOf input component = request := by rw [requestOf, hrequest]; rfl
  rw [hrequestOf] at hstate
  have heligible := componentState_required hstate hdesired hrequired
  refine ⟨?_, item, hmem, hcomponent, heligible⟩
  rw [happly, List.mem_map]
  exact ⟨item, List.mem_filter.2 ⟨hmem, beq_iff_eq.2 heligible⟩, hcomponent⟩

end Plan

/-- **Required components.** A plan honours its input exactly if every component that is
    required is also desired: the planner takes a request that is required but not desired for
    one that may be put off. -/
theorem planned_honoured_iff (hash : PayloadHash) (input : CapacityOrchestrationInput)
    (plan : CapacityOrchestrationPlan) (h : planCapacityOrchestration hash input = .ok plan) :
    Honoured input plan ↔ ∀ component request, input.components component = some request →
      request.required = true → request.desired = true := by
  constructor
  · intro hhonoured component request hrequest hrequired
    obtain ⟨-, item, hmem, rfl, heligible⟩ :=
      hhonoured.required component request hrequest hrequired
    obtain ⟨request', hrequest', hdesired, -⟩ := (hhonoured.entitled item hmem heligible).requested
    rw [hrequest] at hrequest'
    cases hrequest'
    exact hdesired
  · intro hdesired
    exact ⟨fun component request hrequest hrequired =>
      planned_required h hrequest (hdesired component request hrequest hrequired) hrequired,
      fun item hmem heligible => planned_entitled h hmem heligible⟩

/-! ### A request for cgroup protection -/

/-- One component of one resource, required, on a host with or without what it needs. -/
def protectionInput (supported desired : Bool) (ownership : CapacityOwnershipBoundary) :
    CapacityOrchestrationInput where
  contractVersion := capacityOrchestrationContractVersion
  productionMode := "observe"
  allowAutomaticActions := false
  capabilities := if supported then {.cgroupV2, .memoryController, .systemdTransientUnits} else ∅
  evidence := if supported then {.ownedCgroupHarness} else ∅
  sourceCommit := "commit"
  sourceStateId := "source"
  benchmarkBinarySha256 := "binary"
  configSha256 := "config"
  materialEnvironmentHash := "environment"
  combinedCompatibility := none
  components := fun component =>
    if component = .cgroupProtection then
      some { desired := desired, required := true, ownership := ownership }
    else none

/-- Without evidence for several components the hash function plays no part. -/
theorem planCapacityOrchestration_hash (hash hash' : PayloadHash)
    {input : CapacityOrchestrationInput} (h : input.combinedCompatibility = none) :
    planCapacityOrchestration hash input = planCapacityOrchestration hash' input := by
  have hid (components : List CapacityComponentPlan) (applyOrder : List CapacityComponent) :
      combinedValidationId hash input components applyOrder =
        combinedValidationId hash' input components applyOrder := by
    simp only [combinedValidationId, h]
  have hvalid (components : List CapacityComponentPlan) (validationId : Option String) :
      validateCapacityOrchestrationPlan hash (planOf input components validationId) =
        validateCapacityOrchestrationPlan hash' (planOf input components validationId) := by
    have hnone : (planOf input components validationId).combinedCompatibility = none := h
    simp only [validateCapacityOrchestrationPlan, checkCombined, hnone]
  unfold planCapacityOrchestration
  simp only [hid, hvalid]

/-- With any hash function, the input is planned and the plan has the property. -/
def PlannedWith (input : CapacityOrchestrationInput) (P : CapacityOrchestrationPlan → Prop) : Prop :=
  ∀ hash, ∃ plan, planCapacityOrchestration hash input = .ok plan ∧ P plan

/-- One component needs no evidence, so one hash function is as good as another. -/
theorem planned_protectionInput (hash : PayloadHash) {supported desired : Bool}
    {ownership : CapacityOwnershipBoundary}
    (h : (planCapacityOrchestration (fun _ => "") (protectionInput supported desired
      ownership)).isOk = true) :
    ∃ plan, planCapacityOrchestration hash (protectionInput supported desired ownership) =
      .ok plan := by
  rw [planCapacityOrchestration_hash hash (fun _ => "") rfl]
  exact exists_of_isOk h

theorem desired_protection_honoured :
    PlannedWith (protectionInput true true (.exactOwned "capacity-cgroup"))
      (Honoured (protectionInput true true (.exactOwned "capacity-cgroup"))) := by
  intro hash
  obtain ⟨plan, hplan⟩ := @planned_protectionInput hash true true (.exactOwned "capacity-cgroup")
    (by decide +kernel)
  refine ⟨plan, hplan, (planned_honoured_iff _ _ _ hplan).2 fun component request hrequest _ => ?_⟩
  obtain ⟨-, ⟨⟩⟩ := Option.ite_none_right_eq_some.1 hrequest
  rfl

/-- Required without being desired, with nothing that it needs: the plan is accepted and leaves
    the component out. -/
theorem undesired_protection_left_out :
    PlannedWith (protectionInput false false .readOnlyHost) fun plan =>
      ¬ Honoured (protectionInput false false .readOnlyHost) plan := by
  intro hash
  obtain ⟨plan, hplan⟩ := @planned_protectionInput hash false false .readOnlyHost (by decide +kernel)
  refine ⟨plan, hplan, fun h => ?_⟩
  obtain ⟨-, item, hmem, hcomponent, heligible⟩ := h.required .cgroupProtection _ rfl rfl
  obtain ⟨request, hrequest, hdesired, -⟩ := (planned_entitled hplan hmem heligible).requested
  obtain ⟨-, ⟨⟩⟩ := Option.ite_none_right_eq_some.1 hrequest
  cases hdesired

end Nemor.Capacity.Orchestration
