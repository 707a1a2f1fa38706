import Nemor.Lib.Binary64
import Nemor.Lib.Grouping
import Nemor.Performance.Evidence
import Mathlib.Data.List.Sort
import Mathlib.Data.String.Basic

/-!
# The overhead of the observer

The valid runs of a fixed-load experiment come in pairs, one without and one with the observer, and
what was measured is summarised for each side. The pairs are checked before the metrics are looked
at, and a metric is compared as soon as it was measured three times on each side.

- §1: summary statistics
- §2: the runs and what they measured
- §3: the comparison
- §4: the pairs
- §5: the metrics
- §6: when the sides of a metric are the sides of pairs
-/

namespace Nemor.Performance

open Capacity Fallible MachineNumbers

/-! ## §1 Summary statistics -/

/-- What is reported of the values of one side. -/
structure SummaryStatistics where
  count : ℕ
  mean : F64
  median : F64
  minimum : F64
  maximum : F64
  standardDeviation : F64
  p50 : F64
  p95 : F64
  p99 : F64
  deriving DecidableEq

/-- The sum, in the order of the list. -/
def total (values : List F64) : F64 := values.foldl F64.add (.finite 0)

/-- The index is below the length, so nothing is read behind the end. -/
def percentile (sorted : List F64) (share : ℚ) : F64 :=
  match (F64.ofRat (sorted.length - 1)).times (F64.ofRat share) with
  | .finite index => sorted.getD ⌈index⌉.toNat .nan
  | _ => .nan

/-- `summarize`. There has to be a value, and every one finite. -/
def summarize (values : List F64) : Except String SummaryStatistics := do
  refuse (values = [] ∨ values.any (fun value => !value.isFinite) = true)
    "statistics require finite non-empty input"
  let sorted := values.insertionSort fun a b => a.le b = true
  let count := F64.ofRat sorted.length
  let mean := (total sorted).quotient count
  let variance :=
    (total (sorted.map fun value => (value.sub mean).times (value.sub mean))).quotient count
  return {
    count := sorted.length
    mean := mean
    median := percentile sorted (1 / 2)
    minimum := sorted.headD .nan
    maximum := sorted.getLastD .nan
    standardDeviation := variance.sqrt
    p50 := percentile sorted (1 / 2)
    p95 := percentile sorted (95 / 100)
    p99 := percentile sorted (99 / 100) }

/-! ## §2 The runs and what they measured -/

/-- What an observer cost. -/
structure ObserverCost where
  measurementCpuSeconds : F64
  rssMeanBytes : Option F64
  pssMeanBytes : Option F64

/-- The fields of the evidence of a run that a comparison reads. -/
structure MeasuredRun where
  runId : String
  planned : PlannedRun
  valid : Bool
  materialEnvironmentHash : String
  workerManifestHash : String
  generatorId : String
  generatorVersion : UInt32
  workloadIdentity : String
  payloadFingerprintSha256 : String
  workerCpuSeconds : Option F64
  workerMemoryMeanBytes : Option F64
  workerMemoryPeakBytes : Option UInt64
  runnerCpuSeconds : Option F64
  observer : Option ObserverCost

namespace MeasuredRun

variable (run : MeasuredRun)

/-- The side that a run is of. -/
def variant : BenchmarkVariant := run.planned.variant

/-- The repetition that a run is of. -/
def repetition : ℕ := run.planned.repetitionIndex

/-- The metrics of a run, each of which may be missing. -/
def metrics : List (String × Option F64) :=
  [("worker_cpu_seconds", run.workerCpuSeconds),
    ("worker_memory_mean_bytes", run.workerMemoryMeanBytes),
    ("worker_memory_peak_bytes", run.workerMemoryPeakBytes.map F64.ofU64),
    ("benchmark_runner_cpu_seconds", run.runnerCpuSeconds),
    ("observer_cpu_seconds", run.observer.map (·.measurementCpuSeconds)),
    ("observer_rss_mean_bytes", run.observer.bind (·.rssMeanBytes)),
    ("observer_pss_mean_bytes", run.observer.bind (·.pssMeanBytes))]

/-- What a run has measured under a name. -/
def measured (name : String) : Option F64 := (run.metrics.lookup name).join

end MeasuredRun

/-- A value, with the run it is from. -/
structure MetricInput where
  runId : String
  variant : BenchmarkVariant
  value : F64

/-- The values of a run by their names. -/
def MeasuredRun.inputs (run : MeasuredRun) : List (String × MetricInput) :=
  run.metrics.filterMap fun metric =>
    metric.2.map fun value => (metric.1, ⟨run.runId, run.variant, value⟩)

/-- The values of all valid runs by their names. -/
def comparisonMetricInputs (runs : List MeasuredRun) : OrderedMap String (List MetricInput) :=
  OrderedMap.grouped ((runs.filter (·.valid)).flatMap MeasuredRun.inputs)

/-! ## §3 The comparison -/

/-- How many repetitions a comparison needs. -/
def minRepetitions : ℕ := 3

/-- One metric on both sides. -/
structure VariantMetricComparison where
  baseline : SummaryStatistics
  observe : SummaryStatistics
  percentChangeObserveVsBaseline : Option F64
  denominator : String
  direction : String

/-- What is compared. -/
inductive ComparisonPurpose where
  | observerOverhead

/-- The comparison of the two variants. -/
structure ObserverOverheadComparison where
  purpose : ComparisonPurpose
  baselineValidRepetitions : ℕ
  observeValidRepetitions : ℕ
  comparable : Bool
  invalidReason : Option String
  metrics : OrderedMap String VariantMetricComparison
  observerMetrics : OrderedMap String SummaryStatistics
  significanceClaimed : Bool
  capacityGainPercent : EvaluationState

/-- What a metric gives: a comparison of its sides, the side of the observer alone, or nothing. -/
inductive MetricOutcome where
  | compared (comparison : VariantMetricComparison)
  | observerOnly (summary : SummaryStatistics)
  | skipped

/-- The values of a variant. -/
def valuesOfVariant (variant : BenchmarkVariant) (inputs : List MetricInput) : List F64 :=
  (inputs.filter fun input => input.variant = variant).map (·.value)

/-- Compare one metric, if both sides have enough values. -/
def compareMetric (inputs : List MetricInput) : Except String MetricOutcome :=
  let baseline := valuesOfVariant .cachyosBaseline inputs
  let observe := valuesOfVariant .nemorObserve inputs
  if baseline = [] ∧ minRepetitions ≤ observe.length then do
    return .observerOnly (← summarize observe)
  else if baseline.length < minRepetitions ∨ observe.length < minRepetitions then
    .ok .skipped
  else do
    let baselineSummary ← summarize baseline
    let observeSummary ← summarize observe
    let percentChange :=
      if baselineSummary.mean = .finite 0 then none
      else
        some (((observeSummary.mean.sub baselineSummary.mean).quotient baselineSummary.mean).times
          (.finite 100))
    return .compared {
      baseline := baselineSummary
      observe := observeSummary
      percentChangeObserveVsBaseline := percentChange
      denominator := "baseline arithmetic mean"
      direction := "positive means observe is higher" }

/-- The two tables of a comparison. -/
structure MetricTables where
  comparisons : OrderedMap String VariantMetricComparison
  observerMetrics : OrderedMap String SummaryStatistics

/-- Enter the outcome in its table. -/
def MetricTables.record (tables : MetricTables) (name : String) : MetricOutcome → MetricTables
  | .compared comparison =>
    { tables with comparisons := tables.comparisons.insert name comparison }
  | .observerOnly summary =>
    { tables with observerMetrics := tables.observerMetrics.insert name summary }
  | .skipped => tables

/-- Compare every metric. -/
def compareMetrics (metrics : List (String × List MetricInput)) : Except String MetricTables :=
  metrics.foldlM (fun tables metric => do return tables.record metric.1 (← compareMetric metric.2))
    ⟨.empty, .empty⟩

/-- What the runs of a repetition say, under their variants; the last run of a variant counts. -/
def paired {α : Type} (f : MeasuredRun → α) (valid : List MeasuredRun) :
    OrderedMap ℕ (List (BenchmarkVariant × α)) :=
  OrderedMap.grouped (valid.map fun run => (run.repetition, (run.variant, f run)))

/-- Some repetition does not say the same for both variants. -/
def mismatched {α : Type} [DecidableEq α] (pairs : OrderedMap ℕ (List (BenchmarkVariant × α))) :
    Bool :=
  pairs.values.any fun pair =>
    HashMap.collect pair .cachyosBaseline ≠ HashMap.collect pair .nemorObserve

/-- `compare_observer_overhead`. -/
def compareObserverOverhead (runs : List MeasuredRun)
    (metrics : OrderedMap String (List MetricInput)) :
    Except String ObserverOverheadComparison := do
  let valid := runs.filter (·.valid)
  let baselineValidRepetitions := (valid.filter (·.variant = .cachyosBaseline)).length
  let observeValidRepetitions := (valid.filter (·.variant = .nemorObserve)).length
  refuse (baselineValidRepetitions < minRepetitions ∨ observeValidRepetitions < minRepetitions)
    "observer-overhead comparison requires three valid runs per variant"
  refuse ((valid.map (·.materialEnvironmentHash)).toFinset.card ≠ 1 ∨
      (valid.map (·.workerManifestHash)).toFinset.card ≠ 1 ∨
      (valid.map fun run => (run.generatorId, run.generatorVersion)).toFinset.card ≠ 1)
    "material environment, worker manifest, or generator mismatch"
  let pairedSeeds := paired (·.planned.runSeed) valid
  refuse (pairedSeeds.entries.length < minRepetitions ∨
      mismatched pairedSeeds = true ∨
      mismatched (paired (·.workloadIdentity) valid) = true ∨
      mismatched (paired (·.payloadFingerprintSha256) valid) = true)
    "baseline and observe repetitions do not have paired workload identities"
  let tables ← compareMetrics metrics.entries
  return {
    purpose := .observerOverhead
    baselineValidRepetitions := baselineValidRepetitions
    observeValidRepetitions := observeValidRepetitions
    comparable := true
    invalidReason := none
    metrics := tables.comparisons
    observerMetrics := tables.observerMetrics
    significanceClaimed := false
    capacityGainPercent := .notEvaluated }

/-! ## §4 The pairs -/

section Pairs

variable {α : Type} {f : MeasuredRun → α} {valid : List MeasuredRun}

/-- No variant has two runs of a repetition. -/
def Distinct (runs : List MeasuredRun) : Prop :=
  (runs.map fun run => (run.variant, run.repetition)).Nodup

theorem Distinct.eq {runs : List MeasuredRun} (h : Distinct runs) {a b : MeasuredRun}
    (ha : a ∈ runs) (hb : b ∈ runs) (hvariant : a.variant = b.variant)
    (hrepetition : a.repetition = b.repetition) : a = b :=
  List.inj_on_of_nodup_map h ha hb (by rw [hvariant, hrepetition])

theorem Distinct.filter {runs : List MeasuredRun} (h : Distinct runs) (p : MeasuredRun → Bool) :
    Distinct (runs.filter p) :=
  h.sublist (List.filter_sublist.map _)

/-- What a repetition says for a variant is what the run of that variant says. -/
theorem collect_repetition (hdistinct : Distinct valid) {repetition : ℕ}
    {variant : BenchmarkVariant} {v : α} :
    HashMap.collect ((valid.filter fun run => run.repetition = repetition).map
        fun run => (run.variant, f run)) variant = some v ↔
      ∃ run ∈ valid, run.repetition = repetition ∧ run.variant = variant ∧ f run = v := by
  have hkeys : (((valid.filter fun run => run.repetition = repetition).map
      fun run => (run.variant, f run)).map Prod.fst).Nodup := by
    rw [List.map_map]
    apply (List.nodup_map_iff_inj_on (hdistinct.filter _).of_map).2
    intro a ha b hb hvariant
    obtain ⟨ha, harep⟩ := List.mem_filter.1 ha
    obtain ⟨hb, hbrep⟩ := List.mem_filter.1 hb
    have harep := of_decide_eq_true harep
    have hbrep := of_decide_eq_true hbrep
    exact hdistinct.eq ha hb hvariant (harep.trans hbrep.symm)
  rw [HashMap.collect_eq_some_iff hkeys]
  simp [and_assoc]

theorem sides_agree [DecidableEq α] (hdistinct : Distinct valid)
    (h : mismatched (paired f valid) = false) {run : MeasuredRun} (hrun : run ∈ valid) {v : α} :
    (∃ a ∈ valid, a.repetition = run.repetition ∧ a.variant = .cachyosBaseline ∧ f a = v) ↔
      ∃ b ∈ valid, b.repetition = run.repetition ∧ b.variant = .nemorObserve ∧ f b = v := by
  rw [← collect_repetition hdistinct, ← collect_repetition hdistinct]
  have hentry : (run.repetition, (valid.filter fun a => a.repetition = run.repetition).map
      fun a => (a.variant, f a)) ∈ (paired f valid).entries := by
    rw [paired, OrderedMap.mem_grouped, OrderedMap.valuesOf_map]
    refine ⟨?_, rfl⟩
    have hmem : run ∈ valid.filter fun a => a.repetition = run.repetition := by simp [hrun]
    rw [Ne, List.map_eq_nil_iff]
    exact List.ne_nil_of_mem hmem
  unfold mismatched at h
  rw [List.any_eq_false] at h
  have hsides := h _ (List.mem_map_of_mem hentry)
  have heq := not_not.1 (of_decide_eq_false (Bool.eq_false_iff.2 hsides))
  rw [heq]

end Pairs

/-- Two runs that differ in the variant and in nothing that decides the work. -/
structure MeasuredRun.Partner (a b : MeasuredRun) : Prop where
  variants : a.variant = .cachyosBaseline ∧ b.variant = .nemorObserve ∨
    a.variant = .nemorObserve ∧ b.variant = .cachyosBaseline
  repetition : a.repetition = b.repetition
  runSeed : a.planned.runSeed = b.planned.runSeed
  workloadIdentity : a.workloadIdentity = b.workloadIdentity
  payloadFingerprint : a.payloadFingerprintSha256 = b.payloadFingerprintSha256

/-- What the checks of a comparison have let through. -/
structure Paired (valid : List MeasuredRun) : Prop where
  baseline : 3 ≤ (valid.filter (·.variant = .cachyosBaseline)).length
  observe : 3 ≤ (valid.filter (·.variant = .nemorObserve)).length
  seeds : mismatched (paired (·.planned.runSeed) valid) = false
  workloads : mismatched (paired (·.workloadIdentity) valid) = false
  payloads : mismatched (paired (·.payloadFingerprintSha256) valid) = false

/-- A run of one of the two variants has a partner. -/
theorem Paired.exists_partner {valid : List MeasuredRun} (h : Paired valid)
    (hdistinct : Distinct valid) {run : MeasuredRun} (hrun : run ∈ valid)
    (hvariant : run.variant = .cachyosBaseline ∨ run.variant = .nemorObserve) :
    ∃ partner ∈ valid, run.Partner partner := by
  rcases hvariant with hvariant | hvariant
  · obtain ⟨a, ha, hrep, hobserve, hseed⟩ :=
      (sides_agree hdistinct h.seeds hrun).1 ⟨run, hrun, rfl, hvariant, rfl⟩
    obtain ⟨b, hb, hrepb, hobserveb, hworkload⟩ :=
      (sides_agree hdistinct h.workloads hrun).1 ⟨run, hrun, rfl, hvariant, rfl⟩
    obtain ⟨c, hc, hrepc, hobservec, hpayload⟩ :=
      (sides_agree hdistinct h.payloads hrun).1 ⟨run, hrun, rfl, hvariant, rfl⟩
    -- the run of a variant and a repetition is one run
    obtain rfl := hdistinct.eq ha hb (hobserve.trans hobserveb.symm) (hrep.trans hrepb.symm)
    obtain rfl := hdistinct.eq ha hc (hobserve.trans hobservec.symm) (hrep.trans hrepc.symm)
    exact ⟨a, ha, .inl ⟨hvariant, hobserve⟩, hrep.symm, hseed.symm, hworkload.symm, hpayload.symm⟩
  · obtain ⟨a, ha, hrep, hbaseline, hseed⟩ :=
      (sides_agree hdistinct h.seeds hrun).2 ⟨run, hrun, rfl, hvariant, rfl⟩
    obtain ⟨b, hb, hrepb, hbaselineb, hworkload⟩ :=
      (sides_agree hdistinct h.workloads hrun).2 ⟨run, hrun, rfl, hvariant, rfl⟩
    obtain ⟨c, hc, hrepc, hbaselinec, hpayload⟩ :=
      (sides_agree hdistinct h.payloads hrun).2 ⟨run, hrun, rfl, hvariant, rfl⟩
    obtain rfl := hdistinct.eq ha hb (hbaseline.trans hbaselineb.symm) (hrep.trans hrepb.symm)
    obtain rfl := hdistinct.eq ha hc (hbaseline.trans hbaselinec.symm) (hrep.trans hrepc.symm)
    exact ⟨a, ha, .inr ⟨hvariant, hbaseline⟩, hrep.symm, hseed.symm, hworkload.symm, hpayload.symm⟩

/-! ## §5 The metrics -/

/-- The valid runs of a variant that have measured a metric. -/
def sideRuns (runs : List MeasuredRun) (name : String) (variant : BenchmarkVariant) :
    List MeasuredRun :=
  runs.filter fun run => run.valid && run.variant = variant && (run.measured name).isSome

/-- The values of a metric on one side. -/
def sideValues (runs : List MeasuredRun) (name : String) (variant : BenchmarkVariant) : List F64 :=
  (sideRuns runs name variant).filterMap (·.measured name)

variable {runs : List MeasuredRun} {name : String} {variant : BenchmarkVariant}

theorem mem_sideRuns {run : MeasuredRun} :
    run ∈ sideRuns runs name variant ↔
      run ∈ runs ∧ run.valid = true ∧ run.variant = variant ∧
        (run.measured name).isSome = true := by
  simp [sideRuns, and_assoc]

theorem length_sideValues :
    (sideValues runs name variant).length = (sideRuns runs name variant).length := by
  unfold sideValues
  rw [List.filterMap_length_eq_length]
  intro run hrun
  exact (mem_sideRuns.1 hrun).2.2.2

theorem MeasuredRun.valuesOf_inputs (run : MeasuredRun) :
    OrderedMap.valuesOf name run.inputs =
      ((run.measured name).map (MetricInput.mk run.runId run.variant)).toList := by
  have hkeys : (run.metrics.map Prod.fst).Nodup := by simp [metrics]
  exact OrderedMap.valuesOf_present hkeys _ _

/-- The values of a side, as they are picked from the inputs. -/
theorem valuesOfVariant_valuesOf :
    valuesOfVariant variant
        (OrderedMap.valuesOf name ((runs.filter (·.valid)).flatMap MeasuredRun.inputs)) =
      sideValues runs name variant := by
  rw [OrderedMap.valuesOf_flatMap]
  simp only [MeasuredRun.valuesOf_inputs]
  unfold valuesOfVariant sideValues sideRuns
  induction runs with
  | nil => rfl
  | cons run runs ih =>
    cases hvalid : run.valid with
    | false => simpa [hvalid] using ih
    | true =>
      cases hmeasured : run.measured name with
      | none => simpa [hvalid, hmeasured] using ih
      | some value =>
        by_cases hvariant : run.variant = variant
        · simpa [hvalid, hmeasured, hvariant] using ih
        · simpa [hvalid, hmeasured, hvariant] using ih

theorem mem_comparisonMetricInputs {inputs : List MetricInput} :
    (name, inputs) ∈ (comparisonMetricInputs runs).entries ↔
      inputs ≠ [] ∧
        inputs = OrderedMap.valuesOf name ((runs.filter (·.valid)).flatMap MeasuredRun.inputs) :=
  OrderedMap.mem_grouped

/-- When a metric is compared, and what its sides are then. -/
theorem compareMetric_eq_ok {inputs : List MetricInput} {outcome : MetricOutcome}
    (h : compareMetric inputs = .ok outcome) :
    if minRepetitions ≤ (valuesOfVariant .cachyosBaseline inputs).length ∧
        minRepetitions ≤ (valuesOfVariant .nemorObserve inputs).length then
      ∃ comparison, outcome = .compared comparison ∧
        summarize (valuesOfVariant .cachyosBaseline inputs) = .ok comparison.baseline ∧
        summarize (valuesOfVariant .nemorObserve inputs) = .ok comparison.observe
    else ∀ comparison, outcome ≠ .compared comparison := by
  unfold compareMetric at h
  dsimp only at h
  split_ifs at h with honly hfew
  · -- no value without the observer
    have hnot : ¬(minRepetitions ≤ (valuesOfVariant .cachyosBaseline inputs).length ∧
        minRepetitions ≤ (valuesOfVariant .nemorObserve inputs).length) := by
      rw [honly.1]
      rintro ⟨hnil, -⟩
      cases hnil
    rw [if_neg hnot]
    obtain ⟨summary, -, houtcome⟩ := bind_eq_ok.1 h
    obtain rfl := Except.ok.inj houtcome
    intro comparison heq
    cases heq
  · -- too few values on one side
    have hnot : ¬(minRepetitions ≤ (valuesOfVariant .cachyosBaseline inputs).length ∧
        minRepetitions ≤ (valuesOfVariant .nemorObserve inputs).length) := by omega
    rw [if_neg hnot]
    obtain rfl := Except.ok.inj h
    intro comparison heq
    cases heq
  · rw [if_pos (by omega)]
    obtain ⟨baseline, hbaseline, h⟩ := bind_eq_ok.1 h
    obtain ⟨observe, hobserve, h⟩ := bind_eq_ok.1 h
    obtain rfl := Except.ok.inj h
    exact ⟨_, rfl, hbaseline, hobserve⟩

/-- The table of the comparisons has those of the metrics that were compared. -/
theorem mem_compareMetrics {metrics : List (String × List MetricInput)} {tables : MetricTables}
    (hkeys : (metrics.map Prod.fst).Nodup) (h : compareMetrics metrics = .ok tables)
    {comparison : VariantMetricComparison} :
    (name, comparison) ∈ tables.comparisons.entries ↔
      ∃ inputs, (name, inputs) ∈ metrics ∧ compareMetric inputs = .ok (.compared comparison) := by
  induction metrics using List.reverseRecOn generalizing tables name comparison with
  | nil =>
    obtain rfl := Except.ok.inj h
    simp [OrderedMap.empty]
  | append_singleton metrics metric ih =>
    obtain ⟨other, inputs⟩ := metric
    rw [List.map_append, List.nodup_append] at hkeys
    obtain ⟨hbefore, -, hfresh⟩ := hkeys
    -- the last metric has a name of its own, so its entry replaces none
    have hlater : ∀ values, (other, values) ∉ metrics := by
      intro values hmem
      exact hfresh _ (List.mem_map_of_mem hmem) other (by simp) rfl
    unfold compareMetrics at h
    rw [List.foldlM_append] at h
    obtain ⟨before, hfold, h⟩ := bind_eq_ok.1 h
    rw [List.foldlM_cons] at h
    obtain ⟨_, hmap, hlast⟩ := bind_eq_ok.1 h
    obtain rfl := Except.ok.inj hlast
    obtain ⟨outcome, houtcome, hrecord⟩ := bind_eq_ok.1 hmap
    obtain rfl := Except.ok.inj hrecord
    have hstep : (name, comparison) ∈ (before.record other outcome).comparisons.entries ↔
        (name, comparison) ∈ before.comparisons.entries ∨
          name = other ∧ outcome = .compared comparison := by
      have hnot : ∀ comparison, (other, comparison) ∉ before.comparisons.entries := by
        intro comparison hmem
        obtain ⟨values, hvalues, -⟩ := (ih hbefore hfold).1 hmem
        exact hlater values hvalues
      cases outcome with
      | compared found =>
        show (name, comparison) ∈ (before.comparisons.insert other found).entries ↔ _
        rw [OrderedMap.mem_insert]
        grind
      | observerOnly summary => simp [MetricTables.record]
      | skipped => simp [MetricTables.record]
    rw [hstep, ih hbefore hfold]
    simp only [List.mem_append, List.mem_singleton, Prod.mk.injEq]
    grind

/-- A comparison fails if one of its metrics does. -/
theorem compareMetric_of_mem {metrics : List (String × List MetricInput)} {tables : MetricTables}
    (h : compareMetrics metrics = .ok tables) {metric : String × List MetricInput}
    (hmetric : metric ∈ metrics) : ∃ outcome, compareMetric metric.2 = .ok outcome := by
  induction metrics using List.reverseRecOn generalizing tables with
  | nil => cases hmetric
  | append_singleton metrics last ih =>
    unfold compareMetrics at h
    rw [List.foldlM_append] at h
    obtain ⟨before, hfold, h⟩ := bind_eq_ok.1 h
    rw [List.foldlM_cons] at h
    obtain ⟨_, hlast, -⟩ := bind_eq_ok.1 h
    obtain ⟨outcome, houtcome, -⟩ := bind_eq_ok.1 hlast
    rcases List.mem_append.1 hmetric with hmetric | hmetric
    · exact ih hfold hmetric
    · rw [List.mem_singleton.1 hmetric]
      exact ⟨outcome, houtcome⟩

/-! ## §6 When the sides of a metric are the sides of pairs -/

variable {c : ObserverOverheadComparison}

theorem compareObserverOverhead_eq_ok {metrics : OrderedMap String (List MetricInput)}
    (h : compareObserverOverhead runs metrics = .ok c) :
    Paired (runs.filter (·.valid)) ∧
      ∃ tables, compareMetrics metrics.entries = .ok tables ∧ c.metrics = tables.comparisons := by
  unfold compareObserverOverhead at h
  obtain ⟨hcounts, h⟩ := refuse_bind_eq_ok.1 h
  obtain ⟨-, h⟩ := refuse_bind_eq_ok.1 h
  obtain ⟨hpairs, h⟩ := refuse_bind_eq_ok.1 h
  obtain ⟨tables, htables, h⟩ := bind_eq_ok.1 h
  obtain rfl := Except.ok.inj h
  rw [not_or, not_lt, not_lt] at hcounts
  simp only [not_or, Bool.not_eq_true] at hpairs
  obtain ⟨-, hseeds, hworkloads, hpayloads⟩ := hpairs
  exact ⟨⟨hcounts.1, hcounts.2, hseeds, hworkloads, hpayloads⟩, tables, htables, rfl⟩

/-- A reported metric summarises its two sides. -/
theorem summarize_of_mem (h : compareObserverOverhead runs (comparisonMetricInputs runs) = .ok c)
    {comparison : VariantMetricComparison} (hmem : (name, comparison) ∈ c.metrics.entries) :
    minRepetitions ≤ (sideRuns runs name .cachyosBaseline).length ∧
      minRepetitions ≤ (sideRuns runs name .nemorObserve).length ∧
      summarize (sideValues runs name .cachyosBaseline) = .ok comparison.baseline ∧
      summarize (sideValues runs name .nemorObserve) = .ok comparison.observe := by
  obtain ⟨-, tables, htables, hmetrics⟩ := compareObserverOverhead_eq_ok h
  rw [hmetrics, mem_compareMetrics (comparisonMetricInputs runs).nodup_keys htables] at hmem
  obtain ⟨inputs, hinputs, hcompared⟩ := hmem
  obtain ⟨-, rfl⟩ := mem_comparisonMetricInputs.1 hinputs
  have houtcome := compareMetric_eq_ok hcompared
  rw [valuesOfVariant_valuesOf, valuesOfVariant_valuesOf, length_sideValues, length_sideValues]
    at houtcome
  split_ifs at houtcome with hle
  · obtain ⟨_, heq, hbaseline, hobserve⟩ := houtcome
    cases heq
    exact ⟨hle.1, hle.2, hbaseline, hobserve⟩
  · exact absurd rfl (houtcome comparison)

/-- A metric with three values on each side is reported. -/
theorem exists_mem_of_le (h : compareObserverOverhead runs (comparisonMetricInputs runs) = .ok c)
    (hbaseline : minRepetitions ≤ (sideRuns runs name .cachyosBaseline).length)
    (hobserve : minRepetitions ≤ (sideRuns runs name .nemorObserve).length) :
    ∃ comparison, (name, comparison) ∈ c.metrics.entries := by
  obtain ⟨-, tables, htables, hmetrics⟩ := compareObserverOverhead_eq_ok h
  generalize hinputs : OrderedMap.valuesOf name
    ((runs.filter (·.valid)).flatMap MeasuredRun.inputs) = inputs
  have hbaseline' :
      valuesOfVariant .cachyosBaseline inputs = sideValues runs name .cachyosBaseline := by
    rw [← hinputs, valuesOfVariant_valuesOf]
  have hobserve' : valuesOfVariant .nemorObserve inputs = sideValues runs name .nemorObserve := by
    rw [← hinputs, valuesOfVariant_valuesOf]
  have hmem : (name, inputs) ∈ (comparisonMetricInputs runs).entries := by
    refine mem_comparisonMetricInputs.2 ⟨?_, hinputs.symm⟩
    rintro rfl
    rw [← length_sideValues, ← hbaseline'] at hbaseline
    cases hbaseline
  obtain ⟨outcome, houtcome⟩ := compareMetric_of_mem htables hmem
  have hcompared := compareMetric_eq_ok houtcome
  rw [if_pos (by rw [hbaseline', hobserve', length_sideValues, length_sideValues]
                 exact ⟨hbaseline, hobserve⟩)] at hcompared
  obtain ⟨comparison, rfl, -, -⟩ := hcompared
  refine ⟨comparison, ?_⟩
  rw [hmetrics, mem_compareMetrics (comparisonMetricInputs runs).nodup_keys htables]
  exact ⟨inputs, hmem, houtcome⟩

/-- What a comparison of pairs is. -/
structure PairedComparison (runs : List MeasuredRun) (c : ObserverOverheadComparison) : Prop where
  partners : ∀ run ∈ runs, run.valid = true →
    ∃ partner ∈ runs, partner.valid = true ∧ run.Partner partner
  three : ∃ repetitions : List ℕ, repetitions.Nodup ∧ 3 ≤ repetitions.length ∧
    ∀ repetition ∈ repetitions, ∃ a ∈ runs, ∃ b ∈ runs, a.valid = true ∧ b.valid = true ∧
      a.repetition = repetition ∧ a.Partner b
  metrics : ∀ name comparison, (name, comparison) ∈ c.metrics.entries →
    summarize (sideValues runs name .cachyosBaseline) = .ok comparison.baseline ∧
    summarize (sideValues runs name .nemorObserve) = .ok comparison.observe ∧
    ∀ repetition, repetition ∈ (sideRuns runs name .cachyosBaseline).map (·.repetition) ↔
      repetition ∈ (sideRuns runs name .nemorObserve).map (·.repetition)

/-- No valid run is of a third variant, and a metric that is there three times on each side is there
for both runs of a pair or for none. -/
structure MeasuredInPairs (runs : List MeasuredRun) : Prop where
  variants : ∀ run ∈ runs, run.valid = true →
    run.variant = .cachyosBaseline ∨ run.variant = .nemorObserve
  together : ∀ name, minRepetitions ≤ (sideRuns runs name .cachyosBaseline).length →
    minRepetitions ≤ (sideRuns runs name .nemorObserve).length →
    ∀ a ∈ runs, ∀ b ∈ runs, a.valid = true → b.valid = true → a.Partner b →
      (a.measured name).isSome = (b.measured name).isSome

theorem three_pairs (hdistinct : Distinct runs) (h : Paired (runs.filter (·.valid))) :
    ∃ repetitions : List ℕ, repetitions.Nodup ∧ 3 ≤ repetitions.length ∧
      ∀ repetition ∈ repetitions, ∃ a ∈ runs, ∃ b ∈ runs, a.valid = true ∧ b.valid = true ∧
        a.repetition = repetition ∧ a.Partner b := by
  have hvalid := hdistinct.filter (·.valid)
  refine ⟨((runs.filter (·.valid)).filter (·.variant = .cachyosBaseline)).map (·.repetition),
    ?_, ?_, ?_⟩
  · apply (List.nodup_map_iff_inj_on (hvalid.filter _).of_map).2
    intro a ha b hb hrepetition
    obtain ⟨ha, havariant⟩ := List.mem_filter.1 ha
    obtain ⟨hb, hbvariant⟩ := List.mem_filter.1 hb
    exact hvalid.eq ha hb ((of_decide_eq_true havariant).trans (of_decide_eq_true hbvariant).symm)
      hrepetition
  · rw [List.length_map]
    exact h.baseline
  · intro repetition hrepetition
    obtain ⟨a, ha, rfl⟩ := List.mem_map.1 hrepetition
    obtain ⟨ha, hvariant⟩ := List.mem_filter.1 ha
    obtain ⟨b, hb, hpartner⟩ := h.exists_partner hvalid ha (.inl (of_decide_eq_true hvariant))
    obtain ⟨ha, hvalida⟩ := List.mem_filter.1 ha
    obtain ⟨hb, hvalidb⟩ := List.mem_filter.1 hb
    exact ⟨a, ha, b, hb, hvalida, hvalidb, rfl, hpartner⟩

/-- Whether a valid run has measured a metric can be seen from the repetitions of its side. -/
theorem mem_repetitions_iff (hdistinct : Distinct runs) {run : MeasuredRun} (hrun : run ∈ runs)
    (hvalid : run.valid = true) (hvariant : run.variant = variant) :
    run.repetition ∈ (sideRuns runs name variant).map (·.repetition) ↔
      (run.measured name).isSome = true := by
  rw [List.mem_map]
  constructor
  · rintro ⟨other, hother, hrepetition⟩
    obtain ⟨hmem, -, hside, hmeasured⟩ := mem_sideRuns.1 hother
    obtain rfl := hdistinct.eq hmem hrun (hside.trans hvariant.symm) hrepetition
    exact hmeasured
  · intro hmeasured
    exact ⟨run, mem_sideRuns.2 ⟨hrun, hvalid, hvariant, hmeasured⟩, rfl⟩

/-- **When the comparison of the overhead is a comparison of pairs.** -/
theorem compareObserverOverhead_paired_iff (hdistinct : Distinct runs)
    (h : compareObserverOverhead runs (comparisonMetricInputs runs) = .ok c) :
    PairedComparison runs c ↔ MeasuredInPairs runs := by
  obtain ⟨hpaired, -⟩ := compareObserverOverhead_eq_ok h
  constructor
  · intro hp
    constructor
    · intro run hrun hvalid
      obtain ⟨partner, -, -, hpartner⟩ := hp.partners run hrun hvalid
      exact hpartner.variants.imp And.left And.left
    · intro name hbaseline hobserve a ha b hb hvalida hvalidb hpartner
      obtain ⟨comparison, hmem⟩ := exists_mem_of_le h hbaseline hobserve
      obtain ⟨-, -, hsame⟩ := hp.metrics name comparison hmem
      rw [Bool.eq_iff_iff]
      rcases hpartner.variants with ⟨hvarianta, hvariantb⟩ | ⟨hvarianta, hvariantb⟩
      · rw [← mem_repetitions_iff hdistinct ha hvalida hvarianta, hsame, hpartner.repetition,
          mem_repetitions_iff hdistinct hb hvalidb hvariantb]
      · rw [← mem_repetitions_iff hdistinct ha hvalida hvarianta, ← hsame, hpartner.repetition,
          mem_repetitions_iff hdistinct hb hvalidb hvariantb]
  · intro hm
    have hpartners : ∀ run ∈ runs, run.valid = true →
        ∃ partner ∈ runs, partner.valid = true ∧ run.Partner partner := by
      intro run hrun hvalid
      obtain ⟨partner, hmem, hpartner⟩ := hpaired.exists_partner (hdistinct.filter _)
        (List.mem_filter.2 ⟨hrun, hvalid⟩) (hm.variants run hrun hvalid)
      obtain ⟨hmem, hvalid'⟩ := List.mem_filter.1 hmem
      exact ⟨partner, hmem, hvalid', hpartner⟩
    refine ⟨hpartners, three_pairs hdistinct hpaired, ?_⟩
    intro name comparison hmem
    obtain ⟨hbaseline, hobserve, hsummary, hsummary'⟩ := summarize_of_mem h hmem
    refine ⟨hsummary, hsummary', ?_⟩
    -- a run of one side has its partner on the other one
    have hacross : ∀ variant other, ∀ run ∈ sideRuns runs name variant,
        (∀ partner, run.Partner partner → partner.variant = other) →
        run.repetition ∈ (sideRuns runs name other).map (·.repetition) := by
      intro variant other run hrun hother
      obtain ⟨hrun, hvalid, -, hmeasured⟩ := mem_sideRuns.1 hrun
      obtain ⟨partner, hpmem, hpvalid, hpartner⟩ := hpartners run hrun hvalid
      rw [hm.together name hbaseline hobserve run hrun partner hpmem hvalid hpvalid hpartner]
        at hmeasured
      rw [hpartner.repetition, mem_repetitions_iff hdistinct hpmem hpvalid (hother _ hpartner)]
      exact hmeasured
    intro repetition
    constructor
    · intro hrepetition
      obtain ⟨run, hrun, rfl⟩ := List.mem_map.1 hrepetition
      refine hacross _ _ run hrun fun partner hpartner => ?_
      rcases hpartner.variants with ⟨-, hside⟩ | ⟨hside, -⟩
      · exact hside
      · rw [(mem_sideRuns.1 hrun).2.2.1] at hside
        cases hside
    · intro hrepetition
      obtain ⟨run, hrun, rfl⟩ := List.mem_map.1 hrepetition
      refine hacross _ _ run hrun fun partner hpartner => ?_
      rcases hpartner.variants with ⟨hside, -⟩ | ⟨-, hside⟩
      · rw [(mem_sideRuns.1 hrun).2.2.1] at hside
        cases hside
      · exact hside

/-- A valid run that has measured at most the time of the runner. -/
def timedRun (variant : BenchmarkVariant) (repetition : ℕ) (runnerCpuSeconds : Option F64) :
    MeasuredRun where
  runId := "run"
  planned := {
    orderIndex := 0
    variant := variant
    repetitionIndex := repetition
    runSeed := 7
    state := .completed }
  valid := true
  materialEnvironmentHash := "e"
  workerManifestHash := "m"
  generatorId := compressibleGeneratorId
  generatorVersion := 1
  workloadIdentity := "w"
  payloadFingerprintSha256 := "p"
  workerCpuSeconds := none
  workerMemoryMeanBytes := none
  workerMemoryPeakBytes := none
  runnerCpuSeconds := runnerCpuSeconds
  observer := none

/-- Three repetitions, each of both variants. -/
def timedRuns : List MeasuredRun :=
  [0, 1, 2].flatMap fun repetition =>
    [timedRun .cachyosBaseline repetition (some (.finite 1)),
      timedRun .nemorObserve repetition (some (.finite 1))]

theorem three_pairs_compared :
    ∃ c, compareObserverOverhead timedRuns (comparisonMetricInputs timedRuns) = .ok c ∧
      PairedComparison timedRuns c := by
  have hok : (compareObserverOverhead timedRuns (comparisonMetricInputs timedRuns)).isOk =
      true := by decide +kernel
  obtain ⟨c, hc⟩ := exists_of_isOk hok
  have hdistinct : Distinct timedRuns := by
    unfold Distinct
    decide
  have hmetrics : ∀ run ∈ timedRuns,
      run.metrics = (timedRun .cachyosBaseline 0 (some (.finite 1))).metrics := by
    simp [timedRuns]
    exact ⟨rfl, rfl, rfl, rfl, rfl⟩
  refine ⟨c, hc, (compareObserverOverhead_paired_iff hdistinct hc).2 ⟨by decide, ?_⟩⟩
  intro name _ _ a ha b hb _ _ _
  rw [MeasuredRun.measured, MeasuredRun.measured, hmetrics a ha, hmetrics b hb]

/-- Four pairs of runs; the time of the runner is missing in the first repetition without the
observer and in the second one with it. -/
def gappedRuns : List MeasuredRun :=
  [timedRun .cachyosBaseline 0 none, timedRun .nemorObserve 0 (some (.finite 2)),
    timedRun .cachyosBaseline 1 (some (.finite 1)), timedRun .nemorObserve 1 none,
    timedRun .cachyosBaseline 2 (some (.finite 1)), timedRun .nemorObserve 2 (some (.finite 2)),
    timedRun .cachyosBaseline 3 (some (.finite 1)), timedRun .nemorObserve 3 (some (.finite 2))]

theorem sides_of_different_repetitions :
    Distinct gappedRuns ∧
      ∃ c, compareObserverOverhead gappedRuns (comparisonMetricInputs gappedRuns) = .ok c ∧
        ¬PairedComparison gappedRuns c := by
  have hok : (compareObserverOverhead gappedRuns (comparisonMetricInputs gappedRuns)).isOk =
      true := by decide +kernel
  obtain ⟨c, hc⟩ := exists_of_isOk hok
  refine ⟨by unfold Distinct; decide, c, hc, ?_⟩
  intro hp
  have hmem : ∃ comparison, ("benchmark_runner_cpu_seconds", comparison) ∈ c.metrics.entries :=
    exists_mem_of_le hc (by decide +kernel) (by decide +kernel)
  obtain ⟨comparison, hmem⟩ := hmem
  obtain ⟨-, -, hsame⟩ := hp.metrics _ _ hmem
  have hzero := hsame 0
  revert hzero
  decide +kernel

end Nemor.Performance
