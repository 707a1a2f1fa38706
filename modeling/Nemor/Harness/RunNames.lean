import Nemor.Capacity.Host
import Nemor.Lib.CutText
import Nemor.Observer.Plan

/-!
# The names of transient units

A run names its transient scope, or the service and the staged files of its observer, after its run
id: the letters and digits of the id, as many as fit. A run id has the experiment id in it, and that
ends with the time when the experiment was prepared. Two runs have different names only if what
tells them apart comes before the cut.

- §1: runs and their ids
- §2: the names made from an id
- §3: the letters of an id
- §4: every run has a plan
- §5: when names differ
-/

namespace Nemor.Harness.RunNames

open Capacity Fallible Observer Text UnixPath

/-! ## §1 Runs and their ids -/

/-- Which experiment is run. -/
inductive CapacityKind where
  | benchmark
  | composition
  deriving DecidableEq

/-- One run of a prepared capacity experiment. The time is that of its preparation. -/
structure CapacityRun where
  kind : CapacityKind
  preparedNs : ℕ
  orderIndex : UInt64

namespace CapacityRun

/-- The name of the experiment, after the time of its preparation. -/
def experimentId (r : CapacityRun) : String :=
  match r.kind with
  | .benchmark => "capacity-benchmark-" ++ toString r.preparedNs
  | .composition => "capacity-composition-" ++ toString r.preparedNs

/-- The name of a run. -/
def runId (r : CapacityRun) : String :=
  "composition-r" ++ toString r.orderIndex.toNat ++ "-" ++ r.experimentId

end CapacityRun

/-- Which checkpoint the observer is for. -/
inductive ObserverKind where
  | checkpoint3a
  | checkpoint3b
  | checkpoint3c
  deriving DecidableEq

/-- One run with an observer of a prepared performance or pressure experiment. -/
structure ObserverRun where
  kind : ObserverKind
  preparedNs : ℕ
  orderIndex : UInt64
  repetitionIndex : UInt64

/-- The run id of the two earlier checkpoints. -/
def checkpoint3aObserverRunId (experimentId : String) (orderIndex repetitionIndex : UInt64) :
    String :=
  let checkpoint :=
    if "checkpoint3b-".toList.isPrefixOf experimentId.toList then "c3b" else "c3a"
  checkpoint ++ "-o" ++ toString orderIndex.toNat ++ "-r" ++ toString repetitionIndex.toNat ++
    "-" ++ experimentId

/-- The run id of the pressure checkpoint. -/
def pressureObserverRunId (experimentId : String) (orderIndex repetitionIndex : UInt64) : String :=
  "c3c" ++ "-o" ++ toString orderIndex.toNat ++ "-r" ++ toString repetitionIndex.toNat ++ "-" ++
    experimentId

namespace ObserverRun

/-- The name of its experiment. -/
def experimentId (r : ObserverRun) : String :=
  match r.kind with
  | .checkpoint3a => "checkpoint3a-" ++ toString r.preparedNs
  | .checkpoint3b => "checkpoint3b-" ++ toString r.preparedNs
  | .checkpoint3c => "checkpoint3c-" ++ toString r.preparedNs

/-- The name of the observer of a run. -/
def runId (r : ObserverRun) : String :=
  match r.kind with
  | .checkpoint3c => pressureObserverRunId r.experimentId r.orderIndex r.repetitionIndex
  | _ => checkpoint3aObserverRunId r.experimentId r.orderIndex r.repetitionIndex

end ObserverRun

/-! ## §2 The names made from an id -/

/-- The plan of the scope of a run. -/
def CapacityRun.Plans (r : CapacityRun) (plan : TransientScopePlan) : Prop :=
  ∃ identity memoryMax runtimeMaxUsec,
    TransientScopePlan.withCapacityLimits r.runId identity memoryMax runtimeMaxUsec = .ok plan ∨
      TransientScopePlan.withPressureLimits r.runId identity memoryMax runtimeMaxUsec = .ok plan

/-- `transaction_suffix`. -/
def runSuffix (runId : String) : Except String (List Char) := do
  let suffix := (runId.toList.filter Char.isAlphanum).take 32
  refuse (isSafeTransactionSuffix suffix = false) "run id cannot produce a safe staging suffix"
  return suffix

/-- Where the executable is staged. -/
def stagedObserverPath (runId : String) : Except String PathBuf := do
  let suffix ← runSuffix runId
  return stagedPath stagedBinaryLead suffix ""

/-- Where the configuration is staged. -/
def stagedConfigPath (runId : String) : Except String PathBuf := do
  let suffix ← runSuffix runId
  return stagedPath stagedConfigLead suffix ".toml"

/-- Both paths. -/
def stagedObserverPaths (runId : String) : Except String (PathBuf × PathBuf) := do
  let binary ← stagedObserverPath runId
  let config ← stagedConfigPath runId
  return (binary, config)

/-- The plan that is made from a suffix. -/
def generatedPlan (suffix : List Char) (binary config : PathBuf) (runtimeMaxUsec : UInt64) :
    ObserverServicePlan :=
  let runtimeDirectory := observerLead ++ String.ofList suffix
  { unitName := runtimeDirectory ++ ".service"
    binary := binary
    serviceBinary := (runtimeBase.join runtimeDirectory).join "nemord"
    config := config
    serviceConfig := (runtimeBase.join runtimeDirectory).join "observer.toml"
    database := (runtimeBase.join runtimeDirectory).join "nemor-observer.sqlite"
    runtimeDirectory := runtimeDirectory
    runtimeMaxUsec := runtimeMaxUsec
    timeoutStartUsec := serviceTimeoutUsec
    timeoutStopUsec := serviceTimeoutUsec }

/-- `ObserverServicePlan::new_with_runtime`. -/
def newWithRuntime (runId : String) (binary config : PathBuf) (runtimeMaxUsec : UInt64) :
    Except String ObserverServicePlan := do
  let suffix := (runId.toList.filter Char.isAlphanum).take 32
  refuse (suffix = []) "run id cannot produce a safe observer unit name"
  let plan := generatedPlan suffix binary config runtimeMaxUsec
  plan.validate
  return plan

/-- The plan of the observer of a run, as both preparations make it. -/
def preparedPlan (r : ObserverRun) (runtimeMaxUsec : UInt64) :
    Except String ObserverServicePlan := do
  let (binary, config) ← stagedObserverPaths r.runId
  newWithRuntime r.runId binary config runtimeMaxUsec

/-- The plan is made for this run, with some limit on its time. -/
def ObserverRun.Plans (r : ObserverRun) (plan : ObserverServicePlan) : Prop :=
  ∃ runtimeMaxUsec, preparedPlan r runtimeMaxUsec = .ok plan

/-- What a run id leaves of itself in a name. -/
def suffixOf (runId : String) : List Char := (runId.toList.filter Char.isAlphanum).take 32

theorem isAsciiAlphanumeric_eq (c : Char) : isAsciiAlphanumeric c = c.isAlphanum := by
  have hupper : c.isUpper = decide (65 ≤ c.val ∧ c.val ≤ 90) := rfl
  have hlower : c.isLower = (decide (97 ≤ c.val) && decide (c.val ≤ 122)) := rfl
  have hdigit : c.isDigit = (decide (48 ≤ c.val) && decide (c.val ≤ 57)) := rfl
  have halpha : c.isAlpha = (c.isUpper || c.isLower) := rfl
  rw [Bool.eq_iff_iff]
  simp only [isAsciiAlphanumeric, Char.isAlphanum, halpha, hupper, hlower, hdigit,
    Char.le_def, Bool.or_eq_true, Bool.and_eq_true, decide_eq_true_eq]
  tauto

/-- The scope is named after the suffix. -/
theorem unitName_of_limitedTo {contract : TransientScopeContract} {description runId : String}
    {identity : OwnedProcessIdentity} {memoryMax runtimeMaxUsec : UInt64}
    {plan : TransientScopePlan}
    (h : TransientScopePlan.limitedTo contract description runId identity memoryMax runtimeMaxUsec =
      .ok plan) :
    plan.unitName = unitPrefix ++ String.ofList (suffixOf runId) ++ ".scope" := by
  have hfilter : isAsciiAlphanumeric = Char.isAlphanum := funext isAsciiAlphanumeric_eq
  unfold TransientScopePlan.limitedTo TransientScopePlan.withLimits at h
  simp only [bind_eq_ok, refuse_eq_ok] at h
  obtain ⟨base, ⟨_, _, _, _, hbase⟩, _, _, hplan⟩ := h
  obtain rfl := Except.ok.inj hplan
  obtain rfl := Except.ok.inj hbase
  rw [suffixOf, ← hfilter]

theorem CapacityRun.Plans.unitName {r : CapacityRun} {plan : TransientScopePlan}
    (h : r.Plans plan) :
    plan.unitName = unitPrefix ++ String.ofList (suffixOf r.runId) ++ ".scope" := by
  obtain ⟨_, _, _, h | h⟩ := h
  · exact unitName_of_limitedTo h
  · exact unitName_of_limitedTo h

theorem runSuffix_eq_ok {runId : String} {suffix : List Char} (h : runSuffix runId = .ok suffix) :
    isSafeTransactionSuffix (suffixOf runId) = true ∧ suffix = suffixOf runId := by
  unfold runSuffix at h
  simp only [bind_eq_ok, refuse_eq_ok] at h
  obtain ⟨_, hsafe, hsuffix⟩ := h
  have hnot : ¬isSafeTransactionSuffix (suffixOf runId) = false := hsafe
  exact ⟨by simpa using hnot, (Except.ok.inj hsuffix).symm⟩

theorem stagedObserverPaths_eq_ok {runId : String} {paths : PathBuf × PathBuf}
    (h : stagedObserverPaths runId = .ok paths) :
    isSafeTransactionSuffix (suffixOf runId) = true ∧
      paths = (stagedPath stagedBinaryLead (suffixOf runId) "",
        stagedPath stagedConfigLead (suffixOf runId) ".toml") := by
  unfold stagedObserverPaths stagedObserverPath stagedConfigPath at h
  simp only [bind_eq_ok] at h
  obtain ⟨_, ⟨_, hsuffix, hbinary⟩, _, ⟨_, hsuffix', hconfig⟩, hpaths⟩ := h
  obtain ⟨hsafe, rfl⟩ := runSuffix_eq_ok hsuffix
  obtain ⟨-, rfl⟩ := runSuffix_eq_ok hsuffix'
  obtain rfl := Except.ok.inj hbinary
  obtain rfl := Except.ok.inj hconfig
  exact ⟨hsafe, (Except.ok.inj hpaths).symm⟩

theorem newWithRuntime_eq_ok {runId : String} {binary config : PathBuf} {runtimeMaxUsec : UInt64}
    {plan : ObserverServicePlan}
    (h : newWithRuntime runId binary config runtimeMaxUsec = .ok plan) :
    plan.unitName = observerLead ++ String.ofList (suffixOf runId) ++ ".service" ∧
      plan.binary = binary ∧ plan.config = config := by
  unfold newWithRuntime at h
  simp only [bind_eq_ok] at h
  obtain ⟨_, _, _, _, hplan⟩ := h
  have hplan := Except.ok.inj hplan
  subst hplan
  exact ⟨rfl, rfl, rfl⟩

/-- The service and its staged files are named after the suffix. -/
theorem ObserverRun.Plans.names {r : ObserverRun} {plan : ObserverServicePlan} (h : r.Plans plan) :
    isSafeTransactionSuffix (suffixOf r.runId) = true ∧
      plan.unitName = observerLead ++ String.ofList (suffixOf r.runId) ++ ".service" ∧
      plan.binary = stagedPath stagedBinaryLead (suffixOf r.runId) "" ∧
      plan.config = stagedPath stagedConfigLead (suffixOf r.runId) ".toml" := by
  obtain ⟨runtimeMaxUsec, h⟩ := h
  unfold preparedPlan at h
  rw [bind_eq_ok] at h
  obtain ⟨paths, hpaths, hplan⟩ := h
  obtain ⟨hsafe, rfl⟩ := stagedObserverPaths_eq_ok hpaths
  exact ⟨hsafe, newWithRuntime_eq_ok hplan⟩

/-! ## §3 The letters of an id -/

/-- The kind of an experiment, as the letters of its id. -/
def CapacityKind.letters (kind : CapacityKind) : List Char :=
  "capacity".toList ++
    match kind with
    | .benchmark => "benchmark".toList
    | .composition => "composition".toList

/-- What the name of the experiment begins with. -/
def ObserverKind.letters : ObserverKind → List Char
  | .checkpoint3a => "checkpoint3a".toList
  | .checkpoint3b => "checkpoint3b".toList
  | .checkpoint3c => "checkpoint3c".toList

/-- What the id of an observer run starts with. -/
def ObserverKind.tag : ObserverKind → String
  | .checkpoint3a => "c3a"
  | .checkpoint3b => "c3b"
  | .checkpoint3c => "c3c"

theorem toList_toString (n : ℕ) : (toString n).toList = decimal n := by
  rw [Nat.toString_eq_ofList_toDigits, String.toList_ofList, decimal]

theorem filter_decimal (n : ℕ) : (decimal n).filter Char.isAlphanum = decimal n := by
  rw [List.filter_eq_self]
  exact fun c hc => isAlphanum_of_mem_toDigits (by decide) (by decide) hc

theorem CapacityRun.filter_experimentId (r : CapacityRun) :
    r.experimentId.toList.filter Char.isAlphanum = r.kind.letters ++ decimal r.preparedNs := by
  have hbenchmark : "capacity-benchmark-".toList.filter Char.isAlphanum =
      CapacityKind.benchmark.letters := by decide
  have hcomposition : "capacity-composition-".toList.filter Char.isAlphanum =
      CapacityKind.composition.letters := by decide
  unfold experimentId
  cases r.kind with
  | benchmark =>
    rw [String.toList_append, List.filter_append, hbenchmark, toList_toString, filter_decimal]
  | composition =>
    rw [String.toList_append, List.filter_append, hcomposition, toList_toString, filter_decimal]

theorem CapacityRun.suffixOf_runId (r : CapacityRun) :
    suffixOf r.runId =
      ("compositionr".toList ++ (decimal r.orderIndex.toNat ++
        (r.kind.letters ++ decimal r.preparedNs))).take 32 := by
  have hr : "composition-r".toList.filter Char.isAlphanum = "compositionr".toList := by decide
  have hdash : "-".toList.filter Char.isAlphanum = [] := by decide
  unfold suffixOf runId
  simp only [String.toList_append, List.filter_append, toList_toString, filter_decimal, hr, hdash,
    filter_experimentId, List.append_assoc, List.nil_append]

/-- Only the checkpoint 3B experiments have the second tag. -/
theorem ObserverRun.runId_eq (r : ObserverRun) :
    r.runId = r.kind.tag ++ "-o" ++ toString r.orderIndex.toNat ++ "-r" ++
      toString r.repetitionIndex.toNat ++ "-" ++ r.experimentId := by
  unfold runId experimentId
  cases r.kind with
  | checkpoint3a =>
    have htag : "checkpoint3b-".toList.isPrefixOf
        ("checkpoint3a-" ++ toString r.preparedNs).toList = false := by
      rw [String.toList_append]
      rfl
    simp only [checkpoint3aObserverRunId, htag, Bool.false_eq_true, if_false]
    rfl
  | checkpoint3b =>
    have htag : "checkpoint3b-".toList.isPrefixOf
        ("checkpoint3b-" ++ toString r.preparedNs).toList = true := by
      rw [String.toList_append]
      exact List.isPrefixOf_iff_prefix.2 (List.prefix_append _ _)
    simp only [checkpoint3aObserverRunId, htag, if_true]
    rfl
  | checkpoint3c => rfl

theorem ObserverRun.filter_experimentId (r : ObserverRun) :
    r.experimentId.toList.filter Char.isAlphanum = r.kind.letters ++ decimal r.preparedNs := by
  have ha : "checkpoint3a-".toList.filter Char.isAlphanum = "checkpoint3a".toList := by decide
  have hb : "checkpoint3b-".toList.filter Char.isAlphanum = "checkpoint3b".toList := by decide
  have hc : "checkpoint3c-".toList.filter Char.isAlphanum = "checkpoint3c".toList := by decide
  unfold experimentId
  cases r.kind with
  | checkpoint3a =>
    rw [String.toList_append, List.filter_append, toList_toString, filter_decimal, ha]
    rfl
  | checkpoint3b =>
    rw [String.toList_append, List.filter_append, toList_toString, filter_decimal, hb]
    rfl
  | checkpoint3c =>
    rw [String.toList_append, List.filter_append, toList_toString, filter_decimal, hc]
    rfl

theorem ObserverRun.suffixOf_runId (r : ObserverRun) :
    suffixOf r.runId =
      (r.kind.tag.toList ++ ("o".toList ++ (decimal r.orderIndex.toNat ++
        ("r".toList ++ (decimal r.repetitionIndex.toNat ++
          (r.kind.letters ++ decimal r.preparedNs)))))).take 32 := by
  have htag : r.kind.tag.toList.filter Char.isAlphanum = r.kind.tag.toList := by
    cases r.kind <;> decide
  have ho : "-o".toList.filter Char.isAlphanum = "o".toList := by decide
  have hr : "-r".toList.filter Char.isAlphanum = "r".toList := by decide
  have hdash : "-".toList.filter Char.isAlphanum = [] := by decide
  rw [runId_eq]
  unfold suffixOf
  simp only [String.toList_append, List.filter_append, toList_toString, filter_decimal, htag, ho,
    hr, hdash, filter_experimentId, List.nil_append, List.append_assoc]

/-! ## §4 Every run has a plan -/

theorem CapacityRun.exists_plan (r : CapacityRun) : ∃ plan, r.Plans plan := by
  have hid : ∃ c ∈ r.runId.toList, isAsciiAlphanumeric c = true := by
    have hlead : 'c' ∈ "composition-r".toList := by decide
    refine ⟨'c', ?_, by decide⟩
    unfold runId
    simp only [String.toList_append, List.mem_append, hlead, true_or]
  let identity : OwnedProcessIdentity := ⟨r.runId, 1, 1⟩
  have hplan : ∃ plan,
      TransientScopePlan.withCapacityLimits r.runId identity 1 300000000 = .ok plan ∧
        plan.identity = identity :=
    TransientScopePlan.limitedTo_eq_ok hid (by decide) (by decide) (.inl ⟨rfl, rfl⟩)
  obtain ⟨plan, hplan, -⟩ := hplan
  exact ⟨plan, identity, 1, 300000000, .inl hplan⟩

section Generated

variable {suffix : List Char}

theorem toList_directory (suffix : List Char) :
    (observerLead ++ String.ofList suffix).toList = observerLead.toList ++ suffix := by
  rw [String.toList_append, String.toList_ofList]

theorem not_mem_directory (h : isSafeTransactionSuffix suffix = true) {c : Char}
    (hc : c.isAlphanum = false) (hlead : c ∉ observerLead.toList) :
    c ∉ (observerLead ++ String.ofList suffix).toList := by
  rw [toList_directory, List.mem_append, not_or]
  exact ⟨hlead, not_mem_of_safe h hc⟩

theorem validateObserverUnitName_generated (h : isSafeTransactionSuffix suffix = true) :
    validateObserverUnitName (observerLead ++ String.ofList suffix ++ ".service") = .ok () := by
  have hfront : (observerLead ++ String.ofList suffix ++ ".service").toList.dropPrefix?
      observerLead.toList = some (suffix ++ ".service".toList) := by
    rw [String.toList_append, toList_directory, List.append_assoc]
    exact List.dropPrefix?_append_of_beq _ (beq_self_eq_true _)
  have hbehind : (suffix ++ ".service".toList).dropSuffix? ".service".toList = some suffix :=
    List.dropSuffix?_eq_some_iff.2 ⟨_, rfl, beq_self_eq_true _⟩
  unfold validateObserverUnitName
  rw [hfront, Option.bind_some, hbehind]
  exact refuse_eq_ok.2 (by simp [h])

theorem transactionSuffix_generated (h : isSafeTransactionSuffix suffix = true) :
    transactionSuffix (observerLead ++ String.ofList suffix) = .ok suffix := by
  have hfront : (observerLead.toList ++ suffix).dropPrefix? observerLead.toList = some suffix :=
    List.dropPrefix?_append_of_beq _ (beq_self_eq_true _)
  unfold transactionSuffix
  rw [toList_directory, hfront, Option.filter_some, if_pos h]

theorem isAbsolute_stagedPath {lead ending : String} (hlead : lead.toList.head? = some 'n') :
    (stagedPath lead suffix ending).isAbsolute = true := by
  have hname : (String.ofList (lead.toList ++ suffix ++ ending.toList)).toList.head? ≠ some '/' := by
    rw [String.toList_ofList, List.append_assoc, List.head?_append, hlead, Option.some_or]
    decide
  obtain ⟨_, -, -, habsolute⟩ := PathBuf.splitOn_join runtimeBase hname
  exact habsolute

theorem isAbsolute_service (h : isSafeTransactionSuffix suffix = true) {name : String}
    (hname : name.toList.head? ≠ some '/') :
    ((runtimeBase.join (observerLead ++ String.ofList suffix)).join name).isAbsolute = true := by
  have hdirectory : (observerLead ++ String.ofList suffix).toList.head? ≠ some '/' := by
    intro hhead
    exact not_mem_directory h (by decide) (by decide) (List.mem_of_head? hhead)
  obtain ⟨_, -, -, hservice⟩ := PathBuf.splitOn_join
    (runtimeBase.join (observerLead ++ String.ofList suffix)) hname
  obtain ⟨_, -, -, hbase⟩ := PathBuf.splitOn_join runtimeBase hdirectory
  rw [hservice, hbase]
  rfl

/-- The database of a run is not the one of the service. -/
theorem database_ne_production (suffix : List Char) :
    ((runtimeBase.join (observerLead ++ String.ofList suffix)).join "nemor-observer.sqlite" ==
      productionDatabase) = false := by
  rw [Bool.eq_false_iff, Ne, PathBuf.beq_iff]
  intro heq
  have hrelative : "nemor-observer.sqlite".toList.head? ≠ some '/' := by decide
  obtain ⟨parts, hparts, -, -⟩ := PathBuf.splitOn_join
    (runtimeBase.join (observerLead ++ String.ofList suffix)) hrelative
  have hsplit : "nemor-observer.sqlite".toList.splitOn '/' = ["nemor-observer.sqlite".toList] := by
    decide
  rw [hsplit] at hparts
  have hname := PathBuf.fileName_of_splitOn parts hparts (by decide) (by decide) (by decide)
  have hproduction : productionDatabase.fileName = some "nemor.db".toList := by decide
  unfold PathBuf.fileName at hname hproduction
  rw [heq, hproduction] at hname
  exact absurd hname (by decide)

theorem contains_dots_eq_false {text : String} (h : '.' ∉ text.toList) :
    contains text ".." = false := by
  unfold contains
  rw [List.any_eq_false]
  intro rest hrest hdots
  have hmem : '.' ∈ rest := (List.isPrefixOf_iff_prefix.1 hdots).subset (by decide)
  exact h (((List.mem_tails _ _).1 hrest).subset hmem)

/-- A plan with the names generated from a safe suffix is valid. -/
theorem generatedPlan_validate (h : isSafeTransactionSuffix suffix = true)
    {runtimeMaxUsec : UInt64} (hpos : runtimeMaxUsec ≠ 0)
    (hmax : runtimeMaxUsec ≤ performanceServiceRuntimeMaxUsec) :
    (generatedPlan suffix (stagedPath stagedBinaryLead suffix "")
      (stagedPath stagedConfigLead suffix ".toml") runtimeMaxUsec).validate = .ok () := by
  have hcomponents : (stagedPath stagedBinaryLead suffix "").components =
      [.rootDir, .normal "run".toList, .normal (stagedBinaryLead.toList ++ suffix ++ "".toList)] :=
    components_stagedPath h (by decide) (by decide) (by decide)
  have hbinary : (stagedPath stagedBinaryLead suffix "").isAbsolute = true :=
    isAbsolute_stagedPath rfl
  have hconfig : (stagedPath stagedConfigLead suffix ".toml").isAbsolute = true :=
    isAbsolute_stagedPath rfl
  have hparent : (stagedPath stagedBinaryLead suffix "").parent = some runtimeBase.components := by
    unfold PathBuf.parent
    rw [hcomponents, runtimeBase_components]
    rfl
  have hsource : (stagedPath stagedBinaryLead suffix "").fileName.bind
      (·.dropPrefix? stagedBinaryLead.toList) = some suffix := by
    unfold PathBuf.fileName
    rw [hcomponents]
    show (stagedBinaryLead.toList ++ suffix ++ []).dropPrefix? stagedBinaryLead.toList = some suffix
    rw [List.append_nil]
    exact List.dropPrefix?_append_of_beq _ (beq_self_eq_true _)
  -- the checks of the plan in their order
  unfold ObserverServicePlan.validate
  refine bind_eq_ok.2 ⟨(), validateObserverUnitName_generated h, refuse_bind_eq_ok.2 ⟨?_,
    refuse_bind_eq_ok.2 ⟨?_, refuse_bind_eq_ok.2 ⟨?_, bind_eq_ok.2 ⟨suffix,
    transactionSuffix_generated h, refuse_bind_eq_ok.2 ⟨?_, refuse_bind_eq_ok.2 ⟨?_,
    refuse_eq_ok.2 ?_⟩⟩⟩⟩⟩⟩⟩
  · have hservice : "nemord".toList.head? ≠ some '/' := by decide
    have hserviceConfig : "observer.toml".toList.head? ≠ some '/' := by decide
    simp [generatedPlan, hbinary, hconfig, isAbsolute_service h hservice,
      isAbsolute_service h hserviceConfig]
  · simp [generatedPlan, hparent, hsource, h]
  · have hslash : '/' ∉ _ := not_mem_directory h (by decide) (by decide)
    have hdots := contains_dots_eq_false (not_mem_directory h (by decide) (by decide))
    simpa [generatedPlan, hdots] using hslash
  · simp [ObserverServicePlan.hasGeneratedRoles, generatedPlan]
  · simp [generatedPlan, database_ne_production]
  · simp [generatedPlan, hpos, hmax]

end Generated

/-- An id with a letter or a digit in it leaves a safe suffix. -/
theorem suffixOf_safe {runId : String} {c : Char} (hc : c ∈ runId.toList)
    (halnum : c.isAlphanum = true) : isSafeTransactionSuffix (suffixOf runId) = true := by
  have hmem : c ∈ runId.toList.filter Char.isAlphanum := List.mem_filter.2 ⟨hc, halnum⟩
  have hne : suffixOf runId ≠ [] := by
    intro hnil
    rcases List.take_eq_nil_iff.1 hnil with h | h
    · cases h
    · rw [h] at hmem
      cases hmem
  have hall : (suffixOf runId).all Char.isAlphanum = true := by
    rw [List.all_eq_true]
    intro a ha
    exact (List.mem_filter.1 (List.mem_of_mem_take ha)).2
  have hlength : (suffixOf runId).length ≤ 32 := List.length_take_le _ _
  simp [isSafeTransactionSuffix, hne, hall, hlength]

theorem preparedPlan_of_safe {r : ObserverRun}
    (h : isSafeTransactionSuffix (suffixOf r.runId) = true)
    {runtimeMaxUsec : UInt64} (hpos : runtimeMaxUsec ≠ 0)
    (hmax : runtimeMaxUsec ≤ performanceServiceRuntimeMaxUsec) :
    preparedPlan r runtimeMaxUsec =
      .ok (generatedPlan (suffixOf r.runId) (stagedPath stagedBinaryLead (suffixOf r.runId) "")
        (stagedPath stagedConfigLead (suffixOf r.runId) ".toml") runtimeMaxUsec) := by
  have hsuffix : runSuffix r.runId = .ok (suffixOf r.runId) :=
    refuse_bind_eq_ok.2 ⟨by rw [Bool.not_eq_false]; exact h, rfl⟩
  have hpaths : stagedObserverPaths r.runId =
      .ok (stagedPath stagedBinaryLead (suffixOf r.runId) "",
        stagedPath stagedConfigLead (suffixOf r.runId) ".toml") :=
    bind_eq_ok.2 ⟨_, bind_eq_ok.2 ⟨_, hsuffix, rfl⟩,
      bind_eq_ok.2 ⟨_, bind_eq_ok.2 ⟨_, hsuffix, rfl⟩, rfl⟩⟩
  have hne : suffixOf r.runId ≠ [] := by
    intro hnil
    rw [hnil] at h
    cases h
  unfold preparedPlan newWithRuntime
  exact bind_eq_ok.2 ⟨_, hpaths, refuse_bind_eq_ok.2 ⟨hne,
    bind_eq_ok.2 ⟨(), generatedPlan_validate h hpos hmax, rfl⟩⟩⟩

theorem ObserverRun.exists_plan (r : ObserverRun) : ∃ plan, r.Plans plan := by
  have htag : 'c' ∈ r.kind.tag.toList := by cases r.kind <;> decide
  have hc : 'c' ∈ r.runId.toList := by
    rw [runId_eq]
    simp [String.toList_append, htag]
  have hsafe := suffixOf_safe hc (by decide)
  exact ⟨_, performanceServiceRuntimeMaxUsec, preparedPlan_of_safe hsafe (by decide) (by decide)⟩

/-! ## §5 When names differ -/

/-- Two scopes have different names if their order indices differ. The letters that follow tell a
benchmark from a composition where the index has not more than eleven digits, and after the longer
of the two words there is room for none of the digits of the time, after the shorter one for two. -/
def ScopesTold (r r' : CapacityRun) : Prop :=
  let digits := (decimal r.orderIndex.toNat).length
  r.orderIndex ≠ r'.orderIndex ∨
    (r.kind ≠ r'.kind ∧ digits ≤ 11) ∨
    (r.kind = .benchmark ∧ r'.kind = .benchmark ∧
      (decimal r.preparedNs).take (3 - digits) ≠ (decimal r'.preparedNs).take (3 - digits))

/-- Two observers have different names if their checkpoints or their order indices differ. What is
left of the room is for the repetition index, twelve letters and the first digits of the time. -/
def ObserversTold (r r' : ObserverRun) : Prop :=
  let room := 27 - (decimal r.orderIndex.toNat).length
  let repetition := decimal r.repetitionIndex.toNat
  r.kind ≠ r'.kind ∨ r.orderIndex ≠ r'.orderIndex ∨
    repetition.take room ≠ (decimal r'.repetitionIndex.toNat).take room ∨
    (r.repetitionIndex = r'.repetitionIndex ∧
      (decimal r.preparedNs).take (room - repetition.length - 12) ≠
        (decimal r'.preparedNs).take (room - repetition.length - 12))

theorem isDigit_letters {kind : CapacityKind} {x : List Char} :
    ∀ c ∈ (kind.letters ++ x).head?, c.isDigit = false := by
  intro c hc
  cases kind <;> cases hc <;> rfl

theorem isDigit_observerLetters {kind : ObserverKind} {x : List Char} :
    ∀ c ∈ (kind.letters ++ x).head?, c.isDigit = false := by
  intro c hc
  cases kind <;> cases hc <;> rfl

/-- The words of the two kinds differ in their ninth letters. -/
theorem take_words_iff {x y : List Char} {k : ℕ} :
    (CapacityKind.benchmark.letters ++ x).take k = (CapacityKind.composition.letters ++ y).take k ↔
      k ≤ 8 := by
  constructor
  · intro h
    by_contra hk
    have hninth := congrArg (fun l => l[8]?) h
    simp only [List.getElem?_take, show 8 < k by omega, if_true] at hninth
    cases hninth
  · intro hk
    have height : (CapacityKind.benchmark.letters ++ x).take 8 =
        (CapacityKind.composition.letters ++ y).take 8 := rfl
    have htake := congrArg (List.take k) height
    rwa [List.take_take, List.take_take, Nat.min_eq_left hk] at htake

/-- The word of the kind, and what of the time is left behind it. -/
theorem take_letters_iff {kind kind' : CapacityKind} {x y : List Char} {k : ℕ} (hk : k ≤ 19) :
    (kind.letters ++ x).take k = (kind'.letters ++ y).take k ↔
      (kind ≠ kind' → k ≤ 8) ∧
        (kind = .benchmark → kind' = .benchmark → x.take (k - 17) = y.take (k - 17)) := by
  cases kind with
  | benchmark =>
    cases kind' with
    | benchmark =>
      rw [take_append_iff]
      simp [show CapacityKind.benchmark.letters.length = 17 from rfl]
    | composition =>
      rw [take_words_iff]
      simp
  | composition =>
    cases kind' with
    | benchmark =>
      rw [eq_comm, take_words_iff]
      simp
    | composition =>
      -- the word is as long as the room for it
      have hroom : k - CapacityKind.composition.letters.length = 0 := Nat.sub_eq_zero_of_le hk
      rw [take_append_iff, hroom]
      simp

theorem suffix_scopes_iff (r r' : CapacityRun) :
    suffixOf r.runId ≠ suffixOf r'.runId ↔ ScopesTold r r' := by
  have hlead : 32 - "compositionr".toList.length = 20 := rfl
  have hpos := @length_decimal_pos r.orderIndex.toNat
  rw [CapacityRun.suffixOf_runId, CapacityRun.suffixOf_runId, Ne, take_append_iff, hlead,
    take_decimal_iff isDigit_letters isDigit_letters,
    take_decimal_eq_iff (length_decimal_le _) (length_decimal_le _), UInt64.toNat_inj,
    take_letters_iff (by omega)]
  have hdigits : 20 - (decimal r.orderIndex.toNat).length ≤ 8 ↔
      ¬(decimal r.orderIndex.toNat).length ≤ 11 := by
    have := length_decimal_le r.orderIndex
    omega
  have hroom : 20 - (decimal r.orderIndex.toNat).length - 17 =
      3 - (decimal r.orderIndex.toNat).length := by omega
  rw [hdigits, hroom]
  unfold ScopesTold
  tauto

theorem suffix_observers_iff (r r' : ObserverRun) :
    suffixOf r.runId ≠ suffixOf r'.runId ↔ ObserversTold r r' := by
  rw [ObserverRun.suffixOf_runId, ObserverRun.suffixOf_runId]
  by_cases hkind : r.kind = r'.kind
  · have htag : 32 - r'.kind.tag.toList.length - "o".toList.length = 28 := by
      cases r'.kind <;> rfl
    have hletters : r'.kind.letters.length = 12 := by cases r'.kind <;> rfl
    have hdigit : ∀ x : List Char, ∀ c ∈ ("r".toList ++ x).head?, c.isDigit = false := by
      intro x c hc
      cases hc
      rfl
    have hone : 28 - (decimal r.orderIndex.toNat).length - "r".toList.length =
        27 - (decimal r.orderIndex.toNat).length := Nat.sub_right_comm _ _ _
    have hle := length_decimal_le r.orderIndex
    have hle' := length_decimal_le r'.orderIndex
    rw [hkind, Ne, take_append_iff, take_append_iff, htag, take_decimal_iff (hdigit _) (hdigit _),
      take_decimal_eq_iff (by omega) (by omega), UInt64.toNat_inj, take_append_iff, hone,
      take_decimal_iff isDigit_observerLetters isDigit_observerLetters, take_append_iff, hletters,
      UInt64.toNat_inj]
    unfold ObserversTold
    tauto
  · have htags : r.kind.tag.toList.take 32 ≠ r'.kind.tag.toList.take 32 := by
      revert hkind
      cases r.kind <;> cases r'.kind <;> decide
    have hlength : r.kind.tag.toList.length = r'.kind.tag.toList.length := by
      cases r.kind <;> cases r'.kind <;> rfl
    have htold : ObserversTold r r' := .inl hkind
    exact iff_of_true (take_append_ne htags hlength) htold

theorem unitName_ne_iff {lead ending : String} {suffix suffix' : List Char} :
    lead ++ String.ofList suffix ++ ending ≠ lead ++ String.ofList suffix' ++ ending ↔
      suffix ≠ suffix' := by
  rw [Ne, String.append_left_inj, String.append_right_inj, String.ofList_inj]

theorem components_ne_iff {lead ending : String} {suffix suffix' : List Char}
    (h : isSafeTransactionSuffix suffix = true) (h' : isSafeTransactionSuffix suffix' = true)
    (hlead : '/' ∉ lead.toList) (hending : '/' ∉ ending.toList) (hlen : 2 < lead.toList.length) :
    (stagedPath lead suffix ending).components ≠ (stagedPath lead suffix' ending).components ↔
      suffix ≠ suffix' := by
  rw [components_stagedPath h hlead hending hlen, components_stagedPath h' hlead hending hlen]
  simp

/-- **The names of transient units tell runs apart by the fields in front of the cut**: the order
index first, for observers after the checkpoint and before the repetition index. The time in the
experiment id is behind these. -/
theorem run_names_identify_iff :
    (∀ (r r' : CapacityRun) (plan plan' : TransientScopePlan), r.Plans plan → r'.Plans plan' →
      (plan.unitName ≠ plan'.unitName ↔ ScopesTold r r')) ∧
    ∀ (r r' : ObserverRun) (plan plan' : ObserverServicePlan), r.Plans plan → r'.Plans plan' →
      (plan.unitName ≠ plan'.unitName ↔ ObserversTold r r') ∧
      (plan.binary.components ≠ plan'.binary.components ↔ ObserversTold r r') ∧
      (plan.config.components ≠ plan'.config.components ↔ ObserversTold r r') := by
  constructor
  · intro r r' plan plan' hplan hplan'
    rw [hplan.unitName, hplan'.unitName, unitName_ne_iff, suffix_scopes_iff]
  · intro r r' plan plan' hplan hplan'
    obtain ⟨hsafe, hname, hbinary, hconfig⟩ := hplan.names
    obtain ⟨hsafe', hname', hbinary', hconfig'⟩ := hplan'.names
    refine ⟨?_, ?_, ?_⟩
    · rw [hname, hname', unitName_ne_iff, suffix_observers_iff]
    · rw [hbinary, hbinary', components_ne_iff hsafe hsafe' (by decide) (by decide) (by decide),
        suffix_observers_iff]
    · rw [hconfig, hconfig', components_ne_iff hsafe hsafe' (by decide) (by decide) (by decide),
        suffix_observers_iff]

/-- Runs of one experiment. -/
theorem names_within_an_experiment :
    (∃ plan plan',
      (⟨.composition, 1785257503817348284, 0⟩ : CapacityRun).Plans plan ∧
      (⟨.composition, 1785257503817348284, 1⟩ : CapacityRun).Plans plan' ∧
      plan.unitName ≠ plan'.unitName) ∧
    ∃ plan plan',
      (⟨.checkpoint3a, 1785257503817348284, 2, 0⟩ : ObserverRun).Plans plan ∧
      (⟨.checkpoint3a, 1785257503817348284, 4, 1⟩ : ObserverRun).Plans plan' ∧
      plan.binary.components ≠ plan'.binary.components := by
  constructor
  · obtain ⟨plan, hplan⟩ := CapacityRun.exists_plan ⟨.composition, 1785257503817348284, 0⟩
    obtain ⟨plan', hplan'⟩ := CapacityRun.exists_plan ⟨.composition, 1785257503817348284, 1⟩
    exact ⟨plan, plan', hplan, hplan',
      (run_names_identify_iff.1 _ _ _ _ hplan hplan').2 (.inl (by decide))⟩
  · obtain ⟨plan, hplan⟩ := ObserverRun.exists_plan ⟨.checkpoint3a, 1785257503817348284, 2, 0⟩
    obtain ⟨plan', hplan'⟩ := ObserverRun.exists_plan ⟨.checkpoint3a, 1785257503817348284, 4, 1⟩
    exact ⟨plan, plan', hplan, hplan',
      (run_names_identify_iff.2 _ _ _ _ hplan hplan').2.1.2 (.inr (.inl (by decide)))⟩

/-- Two compositions prepared one after the other, and two observers of experiments prepared within
a millisecond. -/
theorem names_of_later_experiments :
    (∃ plan plan',
      (⟨.composition, 1785257503817348284, 0⟩ : CapacityRun).Plans plan ∧
      (⟨.composition, 1785257999999999999, 0⟩ : CapacityRun).Plans plan' ∧
      (⟨.composition, 1785257503817348284, 0⟩ : CapacityRun).experimentId ≠
        (⟨.composition, 1785257999999999999, 0⟩ : CapacityRun).experimentId ∧
      plan.unitName = plan'.unitName) ∧
    ∃ plan plan',
      (⟨.checkpoint3a, 1785257503817348284, 2, 0⟩ : ObserverRun).Plans plan ∧
      (⟨.checkpoint3a, 1785257503817999999, 2, 0⟩ : ObserverRun).Plans plan' ∧
      (⟨.checkpoint3a, 1785257503817348284, 2, 0⟩ : ObserverRun).experimentId ≠
        (⟨.checkpoint3a, 1785257503817999999, 2, 0⟩ : ObserverRun).experimentId ∧
      plan.unitName = plan'.unitName ∧ plan.binary.components = plan'.binary.components ∧
      plan.config.components = plan'.config.components := by
  constructor
  · obtain ⟨plan, hplan⟩ := CapacityRun.exists_plan ⟨.composition, 1785257503817348284, 0⟩
    obtain ⟨plan', hplan'⟩ := CapacityRun.exists_plan ⟨.composition, 1785257999999999999, 0⟩
    have hsuffix : suffixOf (CapacityRun.mk .composition 1785257503817348284 0).runId =
        suffixOf (CapacityRun.mk .composition 1785257999999999999 0).runId := by decide +kernel
    exact ⟨plan, plan', hplan, hplan', by decide +kernel,
      by rw [hplan.unitName, hplan'.unitName, hsuffix]⟩
  · obtain ⟨plan, hplan⟩ := ObserverRun.exists_plan ⟨.checkpoint3a, 1785257503817348284, 2, 0⟩
    obtain ⟨plan', hplan'⟩ := ObserverRun.exists_plan ⟨.checkpoint3a, 1785257503817999999, 2, 0⟩
    have hsuffix : suffixOf (ObserverRun.mk .checkpoint3a 1785257503817348284 2 0).runId =
        suffixOf (ObserverRun.mk .checkpoint3a 1785257503817999999 2 0).runId := by decide +kernel
    obtain ⟨-, hname, hbinary, hconfig⟩ := hplan.names
    obtain ⟨-, hname', hbinary', hconfig'⟩ := hplan'.names
    rw [hsuffix] at hname hbinary hconfig
    exact ⟨plan, plan', hplan, hplan', by decide +kernel, hname.trans hname'.symm,
      by rw [hbinary, hbinary'], by rw [hconfig, hconfig']⟩

end Nemor.Harness.RunNames
