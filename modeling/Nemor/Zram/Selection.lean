import Mathlib.Data.List.Dedup
import Nemor.Common.Config
import Nemor.Lib.Binary64
import Nemor.Lib.Extremum
import Nemor.Lib.Median
import Nemor.Zram.Backend

/-!
# Selection of a compression algorithm

Benchmark results are aggregated to one piece of evidence for each algorithm, and a profile
selects an algorithm by the evidence. The aggregation keeps what makes a result valid, counts
results and takes medians; the selection filters by the configured budgets and takes an extremum.
§4 compares the selection with keeping the algorithm that the device has.
-/

namespace Nemor.Zram

open MachineNumbers Extremum
open Common (CompressionConfig)

/-! ## §1 Benchmark results -/

/-- What was compressed. -/
inductive DatasetKind where
  | highlyCompressible
  | mediumCompressible
  | deterministicIncompressible
  deriving DecidableEq

/-- One benchmark of one algorithm. -/
structure BenchmarkResult where
  algorithm : String
  dataset : DatasetKind
  inputBytes : UInt64
  compressedBytes : UInt64
  memoryUsedBytes : UInt64
  cpuTimeNs : UInt64
  wallTimeNs : UInt64
  writeThroughputBytesSec : Option F64
  readThroughputBytesSec : Option F64
  logicalRatio : Option F64
  effectiveRatio : Option F64
  realIsolatedDevice : Bool
  rounds : UInt32
  error : Option String

/-- The benchmark was made on a device of its own, and has measured something. -/
def BenchmarkResult.valid (r : BenchmarkResult) : Bool :=
  r.error.isNone && r.realIsolatedDevice && decide (3 ≤ r.rounds) && decide (0 < r.inputBytes) &&
    decide (0 < r.wallTimeNs) && r.logicalRatio.any F64.isFinite &&
    r.effectiveRatio.any F64.isFinite

/-- What is known of an algorithm. -/
structure BenchmarkEvidence where
  algorithm : String
  medianWriteThroughputBytesSec : Option F64
  medianEffectiveRatio : Option F64
  medianCpuTimeNs : Option UInt64
  cpuOverheadPercent : Option F64
  datasets : ℕ
  real : Bool

/-- The number, if it is one. -/
def finiteValue : F64 → Option ℚ
  | .finite q => some q
  | _ => none

/-- The median of the finite values. -/
def medianF64 (values : List F64) : Option F64 :=
  (Median.median id (values.filterMap finiteValue)).map .finite

/-- The median of integers. -/
def medianU64 (values : List UInt64) : Option UInt64 := Median.median UInt64.toNat values

/-- The results of an algorithm that count. -/
def validOf (results : List BenchmarkResult) (algorithm : String) : List BenchmarkResult :=
  results.filter fun item => decide (item.algorithm = algorithm) && item.valid

/-- One piece of evidence; nothing measures the overhead. -/
def evidenceOf (results : List BenchmarkResult) (algorithm : String) : BenchmarkEvidence :=
  let valid := validOf results algorithm
  { algorithm
    medianWriteThroughputBytesSec :=
      medianF64 (valid.filterMap BenchmarkResult.writeThroughputBytesSec)
    medianEffectiveRatio := medianF64 (valid.filterMap BenchmarkResult.effectiveRatio)
    medianCpuTimeNs := medianU64 (valid.map BenchmarkResult.cpuTimeNs)
    cpuOverheadPercent := none
    datasets := valid.length
    real := valid.all BenchmarkResult.realIsolatedDevice }

/-- The evidence of each algorithm, by name. -/
def aggregate (results : List BenchmarkResult) : List BenchmarkEvidence :=
  let algorithms := ((results.map BenchmarkResult.algorithm).insertionSort (· ≤ ·)).dedup
  algorithms.filterMap fun algorithm =>
    if validOf results algorithm = [] then none else some (evidenceOf results algorithm)

/-! ## §2 Profiles -/

/-- What zram is used for. -/
inductive ZramProfile where
  | safe
  | gaming
  | capacity
  deriving DecidableEq

/-- The fields of the context that the selection reads. -/
structure ProfileContext where
  requested : ZramProfile
  device : DeviceInventory
  benchmarks : List BenchmarkEvidence

/-- Evidence that may be used: measured, of an algorithm the device has, and not over the budget
    where there is an overhead. -/
def eligible (context : ProfileContext) (config : CompressionConfig) (item : BenchmarkEvidence) :
    Bool :=
  item.real && decide (3 ≤ item.datasets) &&
    decide (item.algorithm ∈ context.device.availableAlgorithms) && item.medianCpuTimeNs.isSome &&
    item.cpuOverheadPercent.all fun value =>
      value.isFinite && F64.le (.finite 0) value && value.le config.maxCpuOverheadPercent

/-- The least time first, and of equal ones the least name. -/
def cpuOrder : BenchmarkEvidence → BenchmarkEvidence → Ordering :=
  compareLex (compareOn BenchmarkEvidence.medianCpuTimeNs) (compareOn BenchmarkEvidence.algorithm)

/-- IEEE comparison, without an answer for what is not a number. -/
def partialCmp (a b : F64) : Option Ordering :=
  if a.lt b then some .lt else if b.lt a then some .gt else if a.le b then some .eq else none

/-- `Option::partial_cmp`. -/
def partialCmpOption : Option F64 → Option F64 → Option Ordering
  | none, none => some .eq
  | none, some _ => some .lt
  | some _, none => some .gt
  | some a, some b => partialCmp a b

/-- The least ratio first, and of equal ones the greatest name. -/
def ratioOrder (left right : BenchmarkEvidence) : Ordering :=
  ((partialCmpOption left.medianEffectiveRatio right.medianEffectiveRatio).getD .eq).then
    (compare right.algorithm left.algorithm)

/-- The ratio of the device's algorithm, 1 where there is none. -/
def currentRatio (context : ProfileContext) : F64 :=
  ((context.benchmarks.find? fun item =>
    decide (some item.algorithm = context.device.currentAlgorithm)).bind
      BenchmarkEvidence.medianEffectiveRatio).getD (.finite 1)

/-- The ratio that an improvement has to reach. -/
def requiredRatio (context : ProfileContext) (config : CompressionConfig) : F64 :=
  (currentRatio context).times
    ((F64.finite 1).add (config.minCapacityGainPercent.quotient (.finite 100)))

/-- `select_algorithm`. -/
def selectAlgorithm (context : ProfileContext) (config : CompressionConfig) : Option String :=
  let current := context.device.currentAlgorithm
  let valid := context.benchmarks.filter (eligible context config)
  match context.requested with
  | .safe => current
  | .gaming =>
    if valid = [] then current
    else
      (minBy cpuOrder (valid.filter fun item => item.medianWriteThroughputBytesSec.isSome)).map
        BenchmarkEvidence.algorithm
  | .capacity =>
    if valid = [] then current
    else
      ((maxBy ratioOrder (valid.filter fun item =>
        item.medianEffectiveRatio.any (requiredRatio context config).le)).map
          BenchmarkEvidence.algorithm).or current

/-! ## §3 Aggregated evidence -/

section Aggregate

variable {results : List BenchmarkResult} {e : BenchmarkEvidence}

theorem mem_validOf {algorithm : String} {item : BenchmarkResult} :
    item ∈ validOf results algorithm ↔
      item ∈ results ∧ item.algorithm = algorithm ∧ item.valid = true := by
  simp [validOf]

theorem mem_aggregate :
    e ∈ aggregate results ↔ ∃ a, validOf results a ≠ [] ∧ evidenceOf results a = e := by
  simp only [aggregate, List.mem_filterMap, List.mem_dedup, List.mem_insertionSort,
    List.mem_map]
  constructor
  · rintro ⟨a, -, h⟩
    obtain ⟨hne, h⟩ := Option.ite_none_left_eq_some.1 h
    exact ⟨a, hne, Option.some.inj h⟩
  · rintro ⟨a, hne, rfl⟩
    obtain ⟨item, hitem⟩ := List.exists_mem_of_ne_nil _ hne
    obtain ⟨hmem, hname, -⟩ := mem_validOf.1 hitem
    exact ⟨a, ⟨item, hmem, hname⟩, if_neg hne⟩

/-- Only results of a real device are valid. -/
theorem real_evidenceOf (results : List BenchmarkResult) (a : String) :
    (evidenceOf results a).real = true := by
  rw [evidenceOf, List.all_eq_true]
  intro item hitem
  have hvalid := (mem_validOf.1 hitem).2.2
  simp only [BenchmarkResult.valid, Bool.and_eq_true] at hvalid
  exact hvalid.1.1.1.1.1.2

theorem cpuTime_evidenceOf {a : String} (hne : validOf results a ≠ []) :
    (evidenceOf results a).medianCpuTimeNs.isSome = true := by
  exact Median.median_isSome _ fun hnil => hne (List.map_eq_nil_iff.1 hnil)

end Aggregate

/-- There are enough valid results of an algorithm that the device has. -/
def Qualifies (device : DeviceInventory) (results : List BenchmarkResult) (a : String) : Prop :=
  a ∈ device.availableAlgorithms ∧ 3 ≤ (validOf results a).length

/-- The selection for aggregated results. -/
def contextOf (requested : ZramProfile) (device : DeviceInventory)
    (results : List BenchmarkResult) : ProfileContext :=
  { requested, device, benchmarks := aggregate results }

section Eligible

variable {requested : ZramProfile} {device : DeviceInventory} {results : List BenchmarkResult}
  {config : CompressionConfig}

theorem mem_eligible {e : BenchmarkEvidence} :
    e ∈ (aggregate results).filter (eligible (contextOf requested device results) config) ↔
      ∃ a, Qualifies device results a ∧ evidenceOf results a = e := by
  rw [List.mem_filter, mem_aggregate]
  constructor
  · rintro ⟨⟨a, -, rfl⟩, h⟩
    simp only [eligible, Bool.and_eq_true, decide_eq_true_eq] at h
    exact ⟨a, ⟨h.1.1.2, h.1.1.1.2⟩, rfl⟩
  · rintro ⟨a, ⟨havailable, hcount⟩, rfl⟩
    have hne : validOf results a ≠ [] := by
      rintro hnil
      rw [hnil] at hcount
      simp at hcount
    refine ⟨⟨a, hne, rfl⟩, ?_⟩
    simp only [eligible, Bool.and_eq_true, decide_eq_true_eq]
    exact ⟨⟨⟨⟨real_evidenceOf results a, hcount⟩, havailable⟩, cpuTime_evidenceOf hne⟩, rfl⟩

end Eligible

/-! ## §4 What the selection finds -/

section Orders

instance : Std.TransCmp cpuOrder := by
  unfold cpuOrder
  infer_instance

theorem algorithm_of_cpuOrder (x y : BenchmarkEvidence) (h : cpuOrder x y = .eq) :
    x.algorithm = y.algorithm :=
  Std.LawfulEqOrd.eq_of_compare (Ordering.then_eq_eq.1 h).2

/-- The ratio as the selection sees it, if it is a number. -/
def ratioKey (e : BenchmarkEvidence) : Option ℚ := e.medianEffectiveRatio.bind finiteValue

/-- The order of the ratios where they are numbers. -/
def finiteRatioOrder : BenchmarkEvidence → BenchmarkEvidence → Ordering :=
  compareLex (compareOn ratioKey) fun x y => compareOn BenchmarkEvidence.algorithm y x

instance : Std.TransCmp finiteRatioOrder := by
  unfold finiteRatioOrder
  infer_instance

theorem algorithm_of_finiteRatioOrder (x y : BenchmarkEvidence)
    (h : finiteRatioOrder x y = .eq) : x.algorithm = y.algorithm :=
  (Std.LawfulEqOrd.eq_of_compare (Ordering.then_eq_eq.1 h).2).symm

theorem partialCmp_finite (p q : ℚ) : partialCmp (.finite p) (.finite q) = some (compare p q) := by
  unfold partialCmp
  simp only [F64.lt, F64.le, decide_eq_true_eq]
  rcases lt_trichotomy p q with h | rfl | h
  · rw [if_pos h, compare_lt_iff_lt.2 h]
  · simp
  · rw [if_neg h.not_gt, if_pos h, compare_gt_iff_gt.2 h]

theorem exists_finite_of_medianF64 {values : List F64} {r : F64} (h : medianF64 values = some r) :
    ∃ q, r = .finite q := by
  obtain ⟨q, -, rfl⟩ := Option.map_eq_some_iff.1 h
  exact ⟨q, rfl⟩

/-- Of aggregated evidence the two orders are the same. -/
theorem ratioOrder_evidenceOf (results : List BenchmarkResult) (a b : String) :
    ratioOrder (evidenceOf results a) (evidenceOf results b) =
      finiteRatioOrder (evidenceOf results a) (evidenceOf results b) := by
  have hfinite : ∀ c r, (evidenceOf results c).medianEffectiveRatio = some r →
      ∃ q, r = .finite q := fun _ _ => exists_finite_of_medianF64
  unfold ratioOrder finiteRatioOrder compareLex compareOn ratioKey
  congr 1
  cases ha : (evidenceOf results a).medianEffectiveRatio with
  | none =>
    cases hb : (evidenceOf results b).medianEffectiveRatio with
    | none => rfl
    | some s =>
      obtain ⟨q, rfl⟩ := hfinite b s hb
      rfl
  | some r =>
    obtain ⟨p, rfl⟩ := hfinite a r ha
    cases hb : (evidenceOf results b).medianEffectiveRatio with
    | none => rfl
    | some s =>
      obtain ⟨q, rfl⟩ := hfinite b s hb
      simp only [partialCmpOption, partialCmp_finite]
      rfl

end Orders

section Extrema

variable {results : List BenchmarkResult} {candidates : List BenchmarkEvidence} {P : String → Prop}

/-- The least of the evidence of some algorithms. -/
theorem map_minBy_evidenceOf (hmem : ∀ e, e ∈ candidates ↔ ∃ a, P a ∧ evidenceOf results a = e)
    {c : String} :
    (minBy cpuOrder candidates).map BenchmarkEvidence.algorithm = some c ↔
      P c ∧ ∀ a, P a → (cpuOrder (evidenceOf results c) (evidenceOf results a)).isLE = true := by
  rw [map_minBy_eq_some algorithm_of_cpuOrder]
  constructor
  · rintro ⟨e, he, rfl, hleast⟩
    obtain ⟨c, hc, rfl⟩ := (hmem e).1 he
    exact ⟨hc, fun a ha => hleast _ ((hmem _).2 ⟨a, ha, rfl⟩)⟩
  · rintro ⟨hc, hleast⟩
    refine ⟨evidenceOf results c, (hmem _).2 ⟨c, hc, rfl⟩, rfl, fun e he => ?_⟩
    obtain ⟨a, ha, rfl⟩ := (hmem e).1 he
    exact hleast a ha

/-- The greatest of the evidence of some algorithms. -/
theorem map_maxBy_evidenceOf (hmem : ∀ e, e ∈ candidates ↔ ∃ a, P a ∧ evidenceOf results a = e)
    {c : String} :
    (maxBy ratioOrder candidates).map BenchmarkEvidence.algorithm = some c ↔
      P c ∧ ∀ a, P a → (ratioOrder (evidenceOf results a) (evidenceOf results c)).isLE = true := by
  have hsame : maxBy ratioOrder candidates = maxBy finiteRatioOrder candidates := by
    apply maxBy_congr
    intro x hx y hy
    obtain ⟨a, -, rfl⟩ := (hmem x).1 hx
    obtain ⟨b, -, rfl⟩ := (hmem y).1 hy
    exact ratioOrder_evidenceOf results a b
  rw [hsame, map_maxBy_eq_some algorithm_of_finiteRatioOrder]
  constructor
  · rintro ⟨e, he, rfl, hgreatest⟩
    obtain ⟨c, hc, rfl⟩ := (hmem e).1 he
    refine ⟨hc, fun a ha => ?_⟩
    rw [ratioOrder_evidenceOf]
    exact hgreatest _ ((hmem _).2 ⟨a, ha, rfl⟩)
  · rintro ⟨hc, hgreatest⟩
    refine ⟨evidenceOf results c, (hmem _).2 ⟨c, hc, rfl⟩, rfl, fun e he => ?_⟩
    obtain ⟨a, ha, rfl⟩ := (hmem e).1 he
    rw [← ratioOrder_evidenceOf]
    exact hgreatest a ha

theorem eq_nil_iff (hmem : ∀ e, e ∈ candidates ↔ ∃ a, P a ∧ evidenceOf results a = e) :
    candidates = [] ↔ ∀ a, ¬ P a := by
  rw [List.eq_nil_iff_forall_not_mem]
  constructor
  · intro h a ha
    exact h _ ((hmem _).2 ⟨a, ha, rfl⟩)
  · intro h e he
    obtain ⟨a, ha, -⟩ := (hmem e).1 he
    exact h a ha

end Extrema

/-! ## §5 Keeping the current algorithm -/

section Keeping

variable (device : DeviceInventory) (results : List BenchmarkResult) (config : CompressionConfig)

/-- A throughput was measured. -/
def Fast (a : String) : Prop :=
  Qualifies device results a ∧
    (evidenceOf results a).medianWriteThroughputBytesSec.isSome = true

/-- The ratio reaches the one that is required. -/
def Gains (a : String) : Prop :=
  Qualifies device results a ∧ (evidenceOf results a).medianEffectiveRatio.any
    (requiredRatio (contextOf .capacity device results) config).le = true

/-- The current algorithm comes first by the measurements themselves, or nothing can replace it.
    For gaming it must be among the measured ones if any is. -/
def KeepsCurrent : ZramProfile → Prop
  | .safe => True
  | .gaming =>
    (∀ a, ¬ Qualifies device results a) ∨
      (device.currentAlgorithm = none ∧ ∀ a, ¬ Fast device results a) ∨
      ∃ c, device.currentAlgorithm = some c ∧ Fast device results c ∧
        ∀ a, Fast device results a →
          (cpuOrder (evidenceOf results c) (evidenceOf results a)).isLE = true
  | .capacity =>
    (∀ a, ¬ Gains device results config a) ∨
      ∃ c, device.currentAlgorithm = some c ∧ Gains device results config c ∧
        ∀ a, Gains device results config a →
          (ratioOrder (evidenceOf results a) (evidenceOf results c)).isLE = true

theorem mem_fast {e : BenchmarkEvidence} :
    e ∈ ((aggregate results).filter (eligible (contextOf .gaming device results) config)).filter
        (fun item => item.medianWriteThroughputBytesSec.isSome) ↔
      ∃ a, Fast device results a ∧ evidenceOf results a = e := by
  rw [List.mem_filter, mem_eligible]
  constructor
  · rintro ⟨⟨a, hqualifies, rfl⟩, hfast⟩
    exact ⟨a, ⟨hqualifies, hfast⟩, rfl⟩
  · rintro ⟨a, ⟨hqualifies, hfast⟩, rfl⟩
    exact ⟨⟨a, hqualifies, rfl⟩, hfast⟩

theorem mem_gains {e : BenchmarkEvidence} :
    e ∈ ((aggregate results).filter (eligible (contextOf .capacity device results) config)).filter
        (fun item => item.medianEffectiveRatio.any
          (requiredRatio (contextOf .capacity device results) config).le) ↔
      ∃ a, Gains device results config a ∧ evidenceOf results a = e := by
  rw [List.mem_filter, mem_eligible]
  constructor
  · rintro ⟨⟨a, hqualifies, rfl⟩, hgains⟩
    exact ⟨a, ⟨hqualifies, hgains⟩, rfl⟩
  · rintro ⟨a, ⟨hqualifies, hgains⟩, rfl⟩
    exact ⟨⟨a, hqualifies, rfl⟩, hgains⟩

theorem select_gaming :
    selectAlgorithm (contextOf .gaming device results) config = device.currentAlgorithm ↔
      KeepsCurrent device results config .gaming := by
  have hnil := eq_nil_iff fun e => @mem_eligible .gaming device results config e
  have hfast := fun e => @mem_fast device results config e
  unfold selectAlgorithm KeepsCurrent
  dsimp only [contextOf] at hnil hfast ⊢
  split
  · next hempty => exact iff_of_true rfl (.inl (hnil.1 hempty))
  · next hsome =>
    rw [or_iff_right fun hnone => hsome (hnil.2 hnone)]
    cases hcurrent : device.currentAlgorithm with
    | none =>
      rw [Option.map_eq_none_iff, minBy_eq_none, eq_nil_iff hfast]
      simp
    | some c =>
      rw [map_minBy_evidenceOf hfast]
      simp

theorem select_capacity :
    selectAlgorithm (contextOf .capacity device results) config = device.currentAlgorithm ↔
      KeepsCurrent device results config .capacity := by
  have hnil := eq_nil_iff fun e => @mem_eligible .capacity device results config e
  have hgains := fun e => @mem_gains device results config e
  unfold selectAlgorithm KeepsCurrent
  dsimp only [contextOf] at hnil hgains ⊢
  split
  · next hempty =>
    exact iff_of_true rfl (.inl fun a ha => hnil.1 hempty a ha.1)
  · have hmax := fun c => @map_maxBy_evidenceOf results _ (Gains device results config) hgains c
    cases hfound : maxBy ratioOrder _ with
    | none =>
      refine iff_of_true rfl (.inl ?_)
      exact (eq_nil_iff hgains).1 (maxBy_eq_none.1 hfound)
    | some m =>
      rw [hfound] at hmax
      obtain ⟨hm, hgreatest⟩ := (hmax m.algorithm).1 rfl
      constructor
      · intro heq
        exact .inr ⟨m.algorithm, heq.symm, hm, hgreatest⟩
      · rintro (hnone | ⟨c, hcurrent, hc⟩)
        · exact absurd hm (hnone m.algorithm)
        · rw [hcurrent]
          exact (hmax c).2 hc

end Keeping

/-! ## §6 Justified selections -/

/-- What would justify another algorithm: results of a real device for three kinds of data, an
    overhead that was measured and is within the budget, and for capacity a ratio that improves
    on the measured one of the current algorithm. -/
structure Measured (requested : ZramProfile) (device : DeviceInventory)
    (results : List BenchmarkResult) (config : CompressionConfig) (a : String) : Prop where
  available : a ∈ device.availableAlgorithms
  kinds : 3 ≤ ((validOf results a).map BenchmarkResult.dataset).dedup.length
  overhead : ∃ e ∈ aggregate results, e.algorithm = a ∧ ∃ value, e.cpuOverheadPercent = some value ∧
    F64.le (.finite 0) value = true ∧ value.le config.maxCpuOverheadPercent = true
  gain : requested = .capacity → ∃ c base ratio, device.currentAlgorithm = some c ∧
    (evidenceOf results c).medianEffectiveRatio = some base ∧
    (evidenceOf results a).medianEffectiveRatio = some ratio ∧
    (base.times ((F64.finite 1).add
      (config.minCapacityGainPercent.quotient (.finite 100)))).le ratio = true

/-- A device with an algorithm is told one, and another one only if it was measured. -/
structure Justified (requested : ZramProfile) (device : DeviceInventory)
    (results : List BenchmarkResult) (config : CompressionConfig) (selected : Option String) :
    Prop where
  kept : device.currentAlgorithm.isSome = true → selected.isSome = true
  measured : ∀ a, selected = some a →
    some a = device.currentAlgorithm ∨ Measured requested device results config a

section Justification

variable {requested : ZramProfile} {device : DeviceInventory} {results : List BenchmarkResult}
  {config : CompressionConfig}

/-- The aggregation measures no overhead. -/
theorem not_measured (a : String) : ¬ Measured requested device results config a := by
  intro h
  obtain ⟨e, he, -, value, hvalue, -⟩ := h.overhead
  obtain ⟨b, -, rfl⟩ := mem_aggregate.1 he
  cases hvalue

theorem justified_iff {selected : Option String} :
    Justified requested device results config selected ↔ selected = device.currentAlgorithm := by
  constructor
  · intro h
    cases hselected : selected with
    | none =>
      cases hcurrent : device.currentAlgorithm with
      | none => rfl
      | some c =>
        have hkept := h.kept (by rw [hcurrent]; rfl)
        rw [hselected] at hkept
        cases hkept
    | some a =>
      rcases h.measured a hselected with hsame | hmeasured
      · exact hsame
      · exact absurd hmeasured (not_measured a)
  · rintro rfl
    exact ⟨id, fun a ha => .inl ha.symm⟩

/-- **Selection.** For aggregated results the selection is justified exactly when the algorithm
    that the device has also comes out of the measurements. -/
theorem selectAlgorithm_justified_iff (requested : ZramProfile) (device : DeviceInventory)
    (results : List BenchmarkResult) (config : CompressionConfig) :
    Justified requested device results config
        (selectAlgorithm (contextOf requested device results) config) ↔
      KeepsCurrent device results config requested := by
  rw [justified_iff]
  cases requested with
  | safe => exact iff_of_true rfl trivial
  | gaming => exact select_gaming device results config
  | capacity => exact select_capacity device results config

end Justification

/-- Three valid results of an algorithm, all of one kind of data. -/
def threeResults (algorithm : String) (throughput : Option F64) : List BenchmarkResult :=
  List.replicate 3
    { algorithm
      dataset := .highlyCompressible
      inputBytes := 4096
      compressedBytes := 1024
      memoryUsedBytes := 2048
      cpuTimeNs := 1000
      wallTimeNs := 2000
      writeThroughputBytesSec := throughput
      readThroughputBytesSec := none
      logicalRatio := some (.finite 4)
      effectiveRatio := some (.finite 2)
      realIsolatedDevice := true
      rounds := 3
      error := none }

/-- A device with `lz4`. -/
def lz4Device : DeviceInventory where
  name := "zram0"
  activeSwap := true
  priority := some 100
  disksize := some 8589934592
  initstate := some true
  currentAlgorithm := some "lz4"
  availableAlgorithms := ["lz4", "zstd"]
  ownership := .nemorOwned

/-- For capacity three results of one kind of data replace an algorithm that was never measured;
    for gaming results without a throughput leave the device without an algorithm. -/
theorem selection_unjustified :
    selectAlgorithm (contextOf .capacity lz4Device (threeResults "zstd" none))
        Common.shippedConfig.compression = some "zstd" ∧
    ¬ Justified .capacity lz4Device (threeResults "zstd" none) Common.shippedConfig.compression
      (selectAlgorithm (contextOf .capacity lz4Device (threeResults "zstd" none))
        Common.shippedConfig.compression) ∧
    ¬ Justified .gaming lz4Device (threeResults "zstd" none) Common.shippedConfig.compression
      (selectAlgorithm (contextOf .gaming lz4Device (threeResults "zstd" none))
        Common.shippedConfig.compression) := by
  have hcapacity : selectAlgorithm (contextOf .capacity lz4Device (threeResults "zstd" none))
      Common.shippedConfig.compression = some "zstd" := by
    decide +kernel
  have hgaming : selectAlgorithm (contextOf .gaming lz4Device (threeResults "zstd" none))
      Common.shippedConfig.compression = none := by
    decide +kernel
  rw [justified_iff, justified_iff, hcapacity, hgaming]
  decide

end Nemor.Zram
