import Mathlib.Algebra.Order.Field.Basic
import Mathlib.Data.List.MinMax
import Mathlib.Data.Rat.Cast.Order
import Mathlib.Tactic.Linarith
import Mathlib.Tactic.Positivity
import Mathlib.Tactic.Ring
import Nemor.Capacity.Evidence
import Nemor.Lib.MachineNumbers
import Nemor.Lib.Median

/-!
# Evaluating a capacity benchmark

Each run gives an interval for the capacity it has measured: at least its highest sustainable
level, below its first unsustainable one. `evaluate` pairs the runs of three repetitions,
bounds the gain of each pair by rounding outwards and takes medians of the bounds. §3 shows
that a definite verdict is right for all capacities inside these intervals.
-/

namespace Nemor.Capacity

open MachineNumbers

/-! ## §1 Boundaries of a run -/

/-- How many levels the full ladder has. -/
def levelCount : ℕ := 10

/-- The gain that a comparison aims at. -/
def favorableCapacityTargetPercent : Int64 := 30

/-- The version of an evaluation. -/
def capacityEvaluationVersion : UInt32 := 2

/-- Why a run has ended where it did. -/
inductive CapacityRunStopClassification where
  | safeCeilingReached
  | unsustainableHealth
  | incomplete
  | invalid
  deriving DecidableEq

/-- What a run says about the capacity: more than one load, less than another. -/
structure CapacityRunBoundary where
  highestSustainableBytes : Option UInt64
  firstUnsustainableBytes : Option UInt64
  safeSearchCeilingBytes : UInt64
  boundaryObserved : Bool
  rightCensored : Bool
  completedLevelCount : ℕ
  stopClassification : CapacityRunStopClassification
  validForCapacityEvaluation : Bool

/-- The loads of the levels with a classification, in order. -/
def CapacityCompositionRunEvidence.loadsOf (run : CapacityCompositionRunEvidence)
    (c : CompositionLevelClassification) : List UInt64 :=
  (run.levels.filter fun level => decide (level.classification = c)).map
    CapacityCompositionLevelEvidence.targetTouchedBytes

/-- Every level of the full ladder was sustainable. -/
def CapacityCompositionRunEvidence.allSustainable (run : CapacityCompositionRunEvidence) : Bool :=
  run.levels.length == levelCount &&
    run.levels.all fun level => decide (level.classification = .sustainable)

/-- The bounds are the largest load that was sustained and the first that was not. -/
def boundary (run : CapacityCompositionRunEvidence) (ceiling : UInt64) : CapacityRunBoundary :=
  let highest := (run.loadsOf .sustainable).argmax UInt64.toNat
  let firstUnsustainable := (run.loadsOf .unsustainableHealth).head?
  { highestSustainableBytes := highest
    firstUnsustainableBytes := firstUnsustainable
    safeSearchCeilingBytes := ceiling
    boundaryObserved := firstUnsustainable.isSome
    rightCensored := run.allSustainable
    completedLevelCount := run.levels.length
    stopClassification :=
      if run.allSustainable then .safeCeilingReached
      else if firstUnsustainable.isSome then .unsustainableHealth
      else .invalid
    validForCapacityEvaluation := run.allSustainable || firstUnsustainable.isSome }

/-! ## §2 Medians, percentages and the verdict -/

/-- The median of loads, if there are any. -/
def medianU64 (values : List UInt64) : Option UInt64 := Median.median UInt64.toNat values

/-- The median of percentages. -/
def medianI64 (values : List Int64) : Option Int64 := Median.median Int64.toInt values

/-- `i64::try_from(value).ok()`. -/
def tryFromInt (value : ℤ) : Option Int64 :=
  if -2 ^ 63 ≤ value ∧ value < 2 ^ 63 then some (Int64.ofInt value) else none

/-- `i128::checked_mul(100)`. -/
def checkedPercent (numerator : ℤ) : Option ℤ :=
  if -2 ^ 127 ≤ numerator * 100 ∧ numerator * 100 < 2 ^ 127 then some (numerator * 100) else none

/-- A percentage, rounded down. -/
def percentFloor (numerator : ℤ) (denominator : UInt64) : Option Int64 :=
  if denominator.toNat = 0 then none
  else do
    let scaled ← checkedPercent numerator
    tryFromInt (scaled / denominator.toNat)

/-- A percentage, rounded up. -/
def percentCeil (numerator : ℤ) (denominator : UInt64) : Option Int64 :=
  if denominator.toNat = 0 then none
  else do
    let scaled ← checkedPercent numerator
    tryFromInt (-((-scaled) / denominator.toNat))

/-- The gain of one repetition, from below and from above. -/
structure CapacityPairEvaluation where
  repetitionIndex : ℕ
  baselineLowerBoundBytes : UInt64
  baselineUpperBoundBytes : Option UInt64
  baselineCensored : Bool
  capacityLowerBoundBytes : UInt64
  capacityUpperBoundBytes : Option UInt64
  capacityCensored : Bool
  demonstratedDeltaBytes : Int64
  conservativeGainLowerBoundPercent : Option Int64
  possibleGainUpperBoundPercent : Option Int64
  valid : Bool

/-- What the comparison can say. -/
inductive CapacityEvaluationState where
  | notEvaluated
  | complete
  | censored
  | incomplete
  | invalid
  deriving DecidableEq

/-- Whether the target is met, as far as the bounds decide it. -/
inductive CapacityTargetStatus where
  | notSpecified
  | definitivelyMet
  | definitivelyNotMet
  | indeterminate
  deriving DecidableEq

/-- The verdict of a comparison and what it rests on. -/
structure CapacityEvaluation where
  version : UInt32
  state : CapacityEvaluationState
  pairs : List CapacityPairEvaluation
  medianBaselineDemonstratedBytes : Option UInt64
  medianCapacityDemonstratedBytes : Option UInt64
  medianPairedDemonstratedDeltaBytes : Option Int64
  demonstratedCapacityGainPercent : Option Int64
  conservativeGainLowerBoundPercent : Option Int64
  possibleGainUpperBoundPercent : Option Int64
  targetPercent : Option Int64
  targetSource : String
  targetStatus : CapacityTargetStatus
  statisticalLimitation : String

/-- The first run of a variant and repetition. -/
def findRun (runs : List CapacityCompositionRunEvidence) (variant : BenchmarkVariant)
    (repetition : ℕ) : Option CapacityCompositionRunEvidence :=
  runs.find? fun run => decide (run.variant = variant) && decide (run.repetitionIndex = repetition)

/-- The evaluation of two boundaries. -/
def pairEvaluation (repetition : ℕ) (b c : CapacityRunBoundary) : CapacityPairEvaluation :=
  let bl := b.highestSustainableBytes.getD 0
  let cl := c.highestSustainableBytes.getD 0
  { repetitionIndex := repetition
    baselineLowerBoundBytes := bl
    baselineUpperBoundBytes := b.firstUnsustainableBytes
    baselineCensored := b.rightCensored
    capacityLowerBoundBytes := cl
    capacityUpperBoundBytes := c.firstUnsustainableBytes
    capacityCensored := c.rightCensored
    demonstratedDeltaBytes :=
      (tryFromNat cl.toNat).getD Int64.maxValue - (tryFromNat bl.toNat).getD Int64.maxValue
    conservativeGainLowerBoundPercent := b.firstUnsustainableBytes.bind fun baselineUpper =>
      percentFloor ((cl.toNat : ℤ) - baselineUpper.toNat) baselineUpper
    possibleGainUpperBoundPercent := c.firstUnsustainableBytes.bind fun capacityUpper =>
      percentCeil ((capacityUpper.toNat : ℤ) - bl.toNat) bl
    valid := b.validForCapacityEvaluation && c.validForCapacityEvaluation }

/-- The pair of a repetition, if both of its runs are there. -/
def pairOf (runs : List CapacityCompositionRunEvidence) (ceiling : UInt64) (repetition : ℕ) :
    Option CapacityPairEvaluation := do
  let b ← findRun runs .cachyosBaseline repetition
  let c ← findRun runs .nemorCapacity repetition
  return pairEvaluation repetition (boundary b ceiling) (boundary c ceiling)

/-- The median of a bound over the pairs, when all three have it. -/
def medianBound (pairs : List CapacityPairEvaluation)
    (bound : CapacityPairEvaluation → Option Int64) : Option Int64 :=
  let values := pairs.filterMap bound
  if values.length = 3 then medianI64 values else none

/-- All three pairs are there and usable. -/
def allValid (pairs : List CapacityPairEvaluation) : Bool :=
  pairs.length == 3 && pairs.all CapacityPairEvaluation.valid

/-- Met when even the lower bound reaches the target, not met when the upper one does not. -/
def targetStatus (conservative possible : Option Int64) : CapacityTargetStatus :=
  if conservative.any fun value => decide (favorableCapacityTargetPercent ≤ value) then
    .definitivelyMet
  else if possible.any fun value => decide (value < favorableCapacityTargetPercent) then
    .definitivelyNotMet
  else .indeterminate

/-- `evaluate`, with the boundaries it is computed from. -/
def evaluate (composition : CapacityCompositionExecutionEvidence) (ceiling : UInt64) :
    List CapacityRunBoundary × CapacityEvaluation :=
  let boundaries := composition.runs.map fun run => boundary run ceiling
  let pairs := (List.range 3).filterMap (pairOf composition.runs ceiling)
  let censored := allValid pairs && pairs.any fun p => p.baselineCensored || p.capacityCensored
  let baseline := medianU64 (pairs.map CapacityPairEvaluation.baselineLowerBoundBytes)
  let capacity := medianU64 (pairs.map CapacityPairEvaluation.capacityLowerBoundBytes)
  let conservative :=
    if allValid pairs then
      medianBound pairs CapacityPairEvaluation.conservativeGainLowerBoundPercent
    else none
  let possible :=
    if allValid pairs then medianBound pairs CapacityPairEvaluation.possibleGainUpperBoundPercent
    else none
  (boundaries,
    { version := capacityEvaluationVersion
      state :=
        if !allValid pairs then .invalid else if censored then .censored else .complete
      pairs := pairs
      medianBaselineDemonstratedBytes := baseline
      medianCapacityDemonstratedBytes := capacity
      medianPairedDemonstratedDeltaBytes :=
        medianI64 (pairs.map CapacityPairEvaluation.demonstratedDeltaBytes)
      -- a plain division, which rounds towards zero, and a cast that wraps
      demonstratedCapacityGainPercent :=
        match baseline, capacity with
        | some b, some c =>
          if 0 < b.toNat ∧ censored = false then
            some (Int64.ofInt ((((c.toNat : ℤ) - b.toNat) * 100).tdiv b.toNat))
          else none
        | _, _ => none
      conservativeGainLowerBoundPercent := conservative
      possibleGainUpperBoundPercent := possible
      targetPercent := some favorableCapacityTargetPercent
      targetSource := "NEMOR_PROJECT_MASTER favorable capacity gain at least 30%"
      targetStatus := targetStatus conservative possible
      statisticalLimitation := "three matched pairs; no broad statistical significance" })

/-! ## §3 Soundness of the verdict -/

/-- The gain of a capacity over a baseline, in percent. -/
def gain (baseline capacity : ℚ) : ℚ := (capacity - baseline) / baseline * 100

/-- A capacity that a run does not contradict. -/
structure CapacityCompositionRunEvidence.Admits (run : CapacityCompositionRunEvidence) (cap : ℚ) :
    Prop where
  positive : 0 < cap
  sustained : ∀ load ∈ run.loadsOf .sustainable, (load.toNat : ℚ) ≤ cap
  unsustained : ∀ load, (run.loadsOf .unsustainableHealth).head? = some load → cap < load.toNat

/-- Hidden capacities of all variants and repetitions that no run contradicts. -/
def Consistent (runs : List CapacityCompositionRunEvidence) (cap : BenchmarkVariant → ℕ → ℚ) :
    Prop :=
  ∀ run ∈ runs, run.Admits (cap run.variant run.repetitionIndex)

theorem findRun_some {runs : List CapacityCompositionRunEvidence} {variant : BenchmarkVariant}
    {repetition : ℕ} {run : CapacityCompositionRunEvidence}
    (h : findRun runs variant repetition = some run) :
    run ∈ runs ∧ run.variant = variant ∧ run.repetitionIndex = repetition := by
  have hp := List.find?_some h
  simp only [Bool.and_eq_true, decide_eq_true_eq] at hp
  exact ⟨List.mem_of_find?_eq_some h, hp.1, hp.2⟩

theorem Consistent.found {runs : List CapacityCompositionRunEvidence}
    {cap : BenchmarkVariant → ℕ → ℚ} (h : Consistent runs cap) {variant : BenchmarkVariant}
    {repetition : ℕ} {run : CapacityCompositionRunEvidence}
    (hrun : findRun runs variant repetition = some run) : run.Admits (cap variant repetition) := by
  obtain ⟨hmem, rfl, rfl⟩ := findRun_some hrun
  exact h run hmem

/-- The highest sustainable level, or nothing, is a lower bound. -/
theorem CapacityCompositionRunEvidence.Admits.lower {run : CapacityCompositionRunEvidence} {cap : ℚ}
    (h : run.Admits cap) (ceiling : UInt64) :
    (((boundary run ceiling).highestSustainableBytes.getD 0).toNat : ℚ) ≤ cap := by
  show ((((run.loadsOf .sustainable).argmax UInt64.toNat).getD 0).toNat : ℚ) ≤ cap
  cases hmax : (run.loadsOf .sustainable).argmax UInt64.toNat with
  | none => simpa using h.positive.le
  | some load => exact h.sustained load (List.argmax_mem hmax)

/-! ### Rounding -/

theorem toInt_of_tryFromInt {q : ℤ} {v : Int64} (h : tryFromInt q = some v) : v.toInt = q := by
  unfold tryFromInt at h
  split at h
  · next hrange =>
    cases h
    exact Int64.toInt_ofInt_of_le (by omega) (by omega)
  · cases h

theorem checkedPercent_eq {numerator scaled : ℤ} (h : checkedPercent numerator = some scaled) :
    scaled = numerator * 100 := by
  unfold checkedPercent at h
  split at h
  · cases h
    rfl
  · cases h

/-- Rounding down gives a lower bound of the percentage. -/
theorem percentFloor_le {numerator : ℤ} {denominator : UInt64} {v : Int64}
    (h : percentFloor numerator denominator = some v) :
    (v.toInt : ℚ) ≤ numerator / denominator.toNat * 100 := by
  unfold percentFloor at h
  split at h
  · cases h
  · next hzero =>
    obtain ⟨scaled, hscaled, hv⟩ := Option.bind_eq_some_iff.1 h
    have hpos : (0 : ℚ) < denominator.toNat := by exact_mod_cast Nat.pos_of_ne_zero hzero
    have hfloor : scaled / denominator.toNat * denominator.toNat ≤ scaled :=
      Int.ediv_mul_le _ (by exact_mod_cast hzero)
    rw [← toInt_of_tryFromInt hv, checkedPercent_eq hscaled] at hfloor
    have hcast : (v.toInt : ℚ) * denominator.toNat ≤ numerator * 100 := by exact_mod_cast hfloor
    calc (v.toInt : ℚ) ≤ numerator * 100 / denominator.toNat := (le_div_iff₀ hpos).2 hcast
      _ = numerator / denominator.toNat * 100 := by ring

/-- Rounding up gives an upper bound of the percentage. -/
theorem le_percentCeil {numerator : ℤ} {denominator : UInt64} {v : Int64}
    (h : percentCeil numerator denominator = some v) :
    (numerator : ℚ) / denominator.toNat * 100 ≤ v.toInt := by
  unfold percentCeil at h
  split at h
  · cases h
  · next hzero =>
    obtain ⟨scaled, hscaled, hv⟩ := Option.bind_eq_some_iff.1 h
    have hpos : (0 : ℚ) < denominator.toNat := by exact_mod_cast Nat.pos_of_ne_zero hzero
    have hfloor : -scaled / denominator.toNat * denominator.toNat ≤ -scaled :=
      Int.ediv_mul_le _ (by exact_mod_cast hzero)
    have hneg : -scaled / denominator.toNat = -v.toInt := by
      rw [toInt_of_tryFromInt hv, neg_neg]
    rw [hneg, checkedPercent_eq hscaled] at hfloor
    have hceil : numerator * 100 ≤ v.toInt * denominator.toNat := by linarith
    have hcast : (numerator : ℚ) * 100 ≤ v.toInt * denominator.toNat := by exact_mod_cast hceil
    calc (numerator : ℚ) / denominator.toNat * 100 = numerator * 100 / denominator.toNat := by ring
      _ ≤ v.toInt := (div_le_iff₀ hpos).2 hcast

/-- The denominator of a percentage is not zero. -/
theorem percentCeil_pos {numerator : ℤ} {denominator : UInt64} {v : Int64}
    (h : percentCeil numerator denominator = some v) : (0 : ℚ) < denominator.toNat := by
  unfold percentCeil at h
  split at h
  · cases h
  · next hzero => exact_mod_cast Nat.pos_of_ne_zero hzero

/-! ### One pair -/

/-- A larger capacity over a smaller baseline gains more. -/
theorem gain_mono {b b' c c' : ℚ} (hb' : 0 < b') (hb : b' ≤ b) (hc0 : 0 ≤ c) (hc : c ≤ c') :
    gain b c ≤ gain b' c' := by
  have hratio : c / b ≤ c' / b' := div_le_div₀ (hc0.trans hc) hc hb' hb
  have hsub : (c - b) / b = c / b - 1 := by
    rw [sub_div, div_self (hb'.trans_le hb).ne']
  have hsub' : (c' - b') / b' = c' / b' - 1 := by
    rw [sub_div, div_self hb'.ne']
  unfold gain
  rw [hsub, hsub']
  linarith

section Pair

variable {runs : List CapacityCompositionRunEvidence} {cap : BenchmarkVariant → ℕ → ℚ}
  {ceiling : UInt64} {repetition : ℕ} {p : CapacityPairEvaluation} {v : Int64}

theorem pairOf_some (h : pairOf runs ceiling repetition = some p) :
    ∃ b c, findRun runs .cachyosBaseline repetition = some b ∧
      findRun runs .nemorCapacity repetition = some c ∧
      p = pairEvaluation repetition (boundary b ceiling) (boundary c ceiling) := by
  obtain ⟨b, hb, h⟩ := Option.bind_eq_some_iff.1 h
  obtain ⟨c, hc, h⟩ := Option.bind_eq_some_iff.1 h
  cases h
  exact ⟨b, c, hb, hc, rfl⟩

/-- The conservative bound of a pair is below its true gain. -/
theorem conservative_le_gain (hcons : Consistent runs cap)
    (h : pairOf runs ceiling repetition = some p)
    (hv : p.conservativeGainLowerBoundPercent = some v) :
    (v.toInt : ℚ) ≤ gain (cap .cachyosBaseline repetition) (cap .nemorCapacity repetition) := by
  obtain ⟨b, c, hb, hc, rfl⟩ := pairOf_some h
  obtain ⟨upper, hupper, hfloor⟩ := Option.bind_eq_some_iff.1 hv
  have hbase := hcons.found hb
  have hlower := (hcons.found hc).lower ceiling
  have hbound := percentFloor_le hfloor
  push_cast at hbound
  refine hbound.trans ?_
  exact gain_mono hbase.positive (hbase.unsustained upper hupper).le (by positivity) hlower

/-- The possible bound of a pair is above its true gain. -/
theorem gain_le_possible (hcons : Consistent runs cap)
    (h : pairOf runs ceiling repetition = some p)
    (hv : p.possibleGainUpperBoundPercent = some v) :
    gain (cap .cachyosBaseline repetition) (cap .nemorCapacity repetition) ≤ v.toInt := by
  obtain ⟨b, c, hb, hc, rfl⟩ := pairOf_some h
  obtain ⟨upper, hupper, hceil⟩ := Option.bind_eq_some_iff.1 hv
  have hcapacity := hcons.found hc
  have hlower := (hcons.found hb).lower ceiling
  have hbound := le_percentCeil hceil
  push_cast at hbound
  refine le_trans ?_ hbound
  exact gain_mono (percentCeil_pos hceil) hlower hcapacity.positive.le
    (hcapacity.unsustained upper hupper).le

end Pair

/-! ### The median of three pairs -/

/-- The true gains of the three repetitions. -/
def trueGains (cap : BenchmarkVariant → ℕ → ℚ) : List ℚ :=
  (List.range 3).map fun r => gain (cap .cachyosBaseline r) (cap .nemorCapacity r)

section Verdict

variable {runs : List CapacityCompositionRunEvidence} {cap : BenchmarkVariant → ℕ → ℚ}
  {ceiling : UInt64} {v : Int64}

/-- When a bound has a median, each repetition has a pair with this bound. -/
theorem medianBound_some {bound : CapacityPairEvaluation → Option Int64}
    (h : medianBound ((List.range 3).filterMap (pairOf runs ceiling)) bound = some v) :
    ∃ values, medianI64 values = some v ∧ values.length = 3 ∧
      List.Forall₂ (fun r value => (pairOf runs ceiling r).bind bound = some value)
        (List.range 3) values := by
  unfold medianBound at h
  rw [List.filterMap_filterMap] at h
  dsimp only at h
  split at h
  · next hlen =>
    refine ⟨_, h, hlen, ?_⟩
    apply Median.forall₂_filterMap
    rw [hlen, List.length_range]
  · cases h

theorem median_trueGains (cap : BenchmarkVariant → ℕ → ℚ) :
    ∃ m, Median.median id (trueGains cap) = some m :=
  Option.isSome_iff_exists.1 (Median.median_isSome id (by simp [trueGains]))

/-- A median of lower bounds that reaches the target is reached by the true median. -/
theorem le_trueMedian {t : ℤ} (hcons : Consistent runs cap)
    (h : medianBound ((List.range 3).filterMap (pairOf runs ceiling))
      CapacityPairEvaluation.conservativeGainLowerBoundPercent = some v) (ht : t ≤ v.toInt) :
    ∃ m, Median.median id (trueGains cap) = some m ∧ (t : ℚ) ≤ m := by
  obtain ⟨values, hmedian, hlen, hvalues⟩ := medianBound_some h
  obtain ⟨m, hm⟩ := median_trueGains cap
  refine ⟨m, hm, ?_⟩
  have hcount := (Median.le_median_iff Int64.toInt hmedian t).1 ht
  apply (Median.le_median_iff id hm t).2
  -- a true gain below the target has its lower bound below it
  have hbelow : (trueGains cap).countP (fun g => decide (id g < (t : ℚ))) ≤
      values.countP fun value => decide (value.toInt < t) := by
    apply Median.countP_le_of_forall₂
    rw [trueGains, List.forall₂_map_left_iff]
    refine hvalues.imp ?_
    intro r value hvalue hlt
    obtain ⟨p, hp, hbound⟩ := Option.bind_eq_some_iff.1 hvalue
    have hle := conservative_le_gain hcons hp hbound
    simp only [id, decide_eq_true_eq] at hlt ⊢
    exact_mod_cast hle.trans_lt hlt
  have hgains : (trueGains cap).length = 3 := by simp [trueGains]
  omega

/-- A median of upper bounds below the target is above the true median. -/
theorem trueMedian_lt {t : ℤ} (hcons : Consistent runs cap)
    (h : medianBound ((List.range 3).filterMap (pairOf runs ceiling))
      CapacityPairEvaluation.possibleGainUpperBoundPercent = some v) (ht : v.toInt < t) :
    ∃ m, Median.median id (trueGains cap) = some m ∧ m < (t : ℚ) := by
  obtain ⟨values, hmedian, hlen, hvalues⟩ := medianBound_some h
  obtain ⟨m, hm⟩ := median_trueGains cap
  refine ⟨m, hm, not_le.1 fun hle => ?_⟩
  have hcount := (Median.le_median_iff id hm (t : ℚ)).1 hle
  apply not_le.2 ht
  apply (Median.le_median_iff Int64.toInt hmedian t).2
  -- an upper bound below the target has its true gain below it
  have hbelow : values.countP (fun value => decide (value.toInt < t)) ≤
      (trueGains cap).countP fun g => decide (id g < (t : ℚ)) := by
    apply Median.countP_le_of_forall₂
    rw [trueGains, List.forall₂_map_right_iff]
    refine hvalues.flip.imp ?_
    intro value r hvalue hlt
    obtain ⟨p, hp, hbound⟩ := Option.bind_eq_some_iff.1 hvalue
    have hle := gain_le_possible hcons hp hbound
    simp only [id, decide_eq_true_eq] at hlt ⊢
    exact hle.trans_lt (by exact_mod_cast hlt)
  have hgains : (trueGains cap).length = 3 := by simp [trueGains]
  omega

end Verdict

theorem targetStatus_met {conservative possible : Option Int64}
    (h : targetStatus conservative possible = .definitivelyMet) :
    ∃ v, conservative = some v ∧ favorableCapacityTargetPercent.toInt ≤ v.toInt := by
  unfold targetStatus at h
  split at h
  · next hmet =>
    obtain ⟨v, hv, hle⟩ := (Option.any_eq_true ..).1 hmet
    exact ⟨v, hv, Int64.le_iff_toInt_le.1 (of_decide_eq_true hle)⟩
  · split at h <;> cases h

theorem targetStatus_notMet {conservative possible : Option Int64}
    (h : targetStatus conservative possible = .definitivelyNotMet) :
    ∃ v, possible = some v ∧ v.toInt < favorableCapacityTargetPercent.toInt := by
  unfold targetStatus at h
  split at h
  · cases h
  · split at h
    · next hnot =>
      obtain ⟨v, hv, hlt⟩ := (Option.any_eq_true ..).1 hnot
      exact ⟨v, hv, Int64.lt_iff_toInt_lt.1 (of_decide_eq_true hlt)⟩
    · cases h

/-- **Soundness of the verdict.** For every evidence and all capacities that no run contradicts:
    a target reported as definitively met is met by the median of the true paired gains, and
    one reported as definitively not met is missed by it. -/
theorem evaluate_verdict_sound (composition : CapacityCompositionExecutionEvidence)
    (ceiling : UInt64) (cap : BenchmarkVariant → ℕ → ℚ) (hcons : Consistent composition.runs cap) :
    ((evaluate composition ceiling).2.targetStatus = .definitivelyMet →
        ∃ m, Median.median id (trueGains cap) = some m ∧
          (favorableCapacityTargetPercent.toInt : ℚ) ≤ m) ∧
      ((evaluate composition ceiling).2.targetStatus = .definitivelyNotMet →
        ∃ m, Median.median id (trueGains cap) = some m ∧
          m < (favorableCapacityTargetPercent.toInt : ℚ)) := by
  constructor
  · intro hstatus
    obtain ⟨v, hv, hle⟩ := targetStatus_met hstatus
    exact le_trueMedian hcons (Option.ite_none_right_eq_some.1 hv).2 hle
  · intro hstatus
    obtain ⟨v, hv, hlt⟩ := targetStatus_notMet hstatus
    exact trueMedian_lt hcons (Option.ite_none_right_eq_some.1 hv).2 hlt

/-! ### A small experiment -/

/-- Evidence of a target of which nothing is known. -/
def blankTarget : CompositionTargetEvidence :=
  let progress : CapacityExternalTargetProgress :=
    { protocolVersion := 1, targetSessionId := "", nonce := "", state := .ready, sequence := 0
      heartbeatMonotonicNs := 0, hotCycles := 0, warmCycles := 0, hotPagesTouched := 0
      warmPagesTouched := 0, coldCycles := 0, controlledRefaults := 0, hotFingerprint := ""
      warmFingerprint := "", coldFingerprint := "" }
  { version := compositionTargetEvidenceVersion
    transactionId := "", sessionId := "", descriptorHash := "", pid := 0
    startTicks := 0, ranges := ⟨⟨0, 0⟩, ⟨0, 0⟩, ⟨0, 0⟩⟩, before := progress, after := progress
    hotProgress := false, warmProgress := false, coldInactiveBeforeAction := true
    fingerprintsValid := true, descriptorConsumedOnce := false, validatorInvoked := false
    noDamonDamosMutation := true, directShadowGates := (false, false, false, false)
    requiredDamosGatesPassed := false, appliedBytes := 0, onlyColdReclaimed := true
    cleanupPassed := true
    validatorReportLifecycle :=
      { version := 1, reportPath := none, rawSha256 := none, canonicalSemanticSha256 := none
        metadata := none, validatorExitStatus := none, explicitPathMode := false
        legacyGlobalAbsentBefore := true, legacyGlobalAbsentAfter := true
        validatorStateAbsent := true, classification := .baselineNoReport } }

/-- A level with a load and a classification. -/
def levelAt (index : ℕ) (load : UInt64) (classification : CompositionLevelClassification) :
    CapacityCompositionLevelEvidence where
  version := compositionLevelEvidenceVersion
  runOrder := 0
  levelIndex := index
  variant := .cachyosBaseline
  targetTouchedBytes := load
  requestedDeltaBytes := 0
  actualTouchedBytes := load
  pressureIntegrityIdentity := ""
  pressureHeartbeat := true
  pressureWorkerAlive := true
  cgroupMembership := true
  memoryMaxVerified := true
  memoryCurrentBytes := none
  memoryPeakBytes := none
  hostPsiFullAvg10 := none
  cgroupPsiFullAvg10 := none
  majorFaultDelta := none
  swapInDelta := none
  swapOutDelta := none
  blockWriteDelta := none
  oom := 0
  oomKill := 0
  watchdogTriggered := false
  target := blankTarget
  classification := classification
  cleanupPassed := true
  structuralRestorePassed := true

/-- The cleanup of a scope that was gone, or could not be read. -/
def scopeCleanup (clean : Bool) : CompositionScopeCleanupEvidence where
  frozenUnitName := ""
  frozenObjectPath := ""
  frozenControlGroup := ""
  workerPid := 10
  workerStartTicks := 100
  workerAbsent := true
  preStopStateReadable := clean
  preStopUnitPresent := false
  preStopActiveState := none
  preStopSubState := none
  preStopCgroupMemberCount := some 0
  ownershipExact := clean
  stopAction := if clean then .alreadyAbsent else .stopFailed
  stopJobResult := none
  noSuchUnitTyped := false
  postErrorReconciliationAttempted := false
  finalStateReadable := clean
  finalActiveState := none
  finalSubState := none
  finalCgroupMemberCount := some 0
  cgroupAbsentOrZeroMembers := true
  unitRemoved := clean
  removalWaitMs := 0
  classification := if clean then .clean else .stateUnreadable
  failureReason := if clean then none else some "StateUnreadable"

/-- A run with the given levels whose scope was cleaned up or not. -/
def runOf (orderIndex : ℕ) (variant : BenchmarkVariant) (repetition : ℕ) (clean : Bool)
    (levels : List CapacityCompositionLevelEvidence) : CapacityCompositionRunEvidence where
  version := compositionRunEvidenceVersion
  orderIndex := orderIndex
  variant := variant
  repetitionIndex := repetition
  seed := 1
  state := if clean then .completedCompositionFrameworkValidation else .invalidRun
  levels := levels
  scopeCleanup := scopeCleanup clean
  pressureScopeCleanupPassed := clean
  structuralRestorePassed := true
  reason := if clean then "" else "composition run mandatory evidence failed"

/-- The evidence of six runs. -/
def compositionOf (clean : Bool) (runs : List CapacityCompositionRunEvidence) :
    CapacityCompositionExecutionEvidence where
  schemaVersion := compositionExecutionSchemaVersion
  experimentId := "capacity-benchmark-1"
  sourceCommit := ""
  state := if clean then .completedCompositionFrameworkValidation else .invalidRun
  reason := ""
  runs := runs
  plannedRuns := 6
  completedRuns := if clean then 6 else 5
  plannedLevels := 60
  completedLevels := 60
  invocationCount := 1
  searchComplete := false
  capacityEvaluation := .notEvaluated
  effectivenessEvaluation := .notEvaluated
  productionActivationAuthorized := false
  cleanupPassed := clean
  structuralRestorePassed := clean
  payloadSha256 := ""

/-- Baselines between 100 and 110 bytes, capacities between 150 and 160. -/
def gainedExperiment : CapacityCompositionExecutionEvidence :=
  compositionOf true <| (List.range 3).flatMap fun r =>
    [runOf (2 * r) .cachyosBaseline r true
        [levelAt 0 100 .sustainable, levelAt 1 110 .unsustainableHealth],
      runOf (2 * r + 1) .nemorCapacity r true
        [levelAt 0 150 .sustainable, levelAt 1 160 .unsustainableHealth]]

/-- A run with one level on each side of a capacity does not contradict it. -/
theorem runOf_admits (orderIndex : ℕ) (variant : BenchmarkVariant) (repetition : ℕ) (clean : Bool)
    {low high : UInt64} {cap : ℚ} (hpos : 0 < cap) (hlow : (low.toNat : ℚ) ≤ cap)
    (hhigh : cap < high.toNat) :
    (runOf orderIndex variant repetition clean
      [levelAt 0 low .sustainable, levelAt 1 high .unsustainableHealth]).Admits cap where
  positive := hpos
  sustained load hload := by
    simp only [CapacityCompositionRunEvidence.loadsOf, runOf, levelAt, List.filter_cons,
      decide_true, reduceCtorEq, decide_false, Bool.false_eq_true, if_true, if_false,
      List.filter_nil, List.map_cons, List.map_nil, List.mem_singleton] at hload
    rw [hload]
    exact hlow
  unsustained load hload := by
    simp only [CapacityCompositionRunEvidence.loadsOf, runOf, levelAt, List.filter_cons,
      decide_true, reduceCtorEq, decide_false, Bool.false_eq_true, if_true, if_false,
      List.filter_nil, List.map_cons, List.map_nil, List.head?_cons, Option.some.injEq] at hload
    rw [← hload]
    exact hhigh

/-- A gain of at least 36 percent, whatever the capacities are; here 105 and 155 bytes. -/
theorem evaluate_verdict_met :
    (evaluate gainedExperiment 1000).2.targetStatus = .definitivelyMet ∧
      ∃ m, Median.median id
          (trueGains fun variant _ => if variant = .nemorCapacity then 155 else 105) = some m ∧
        (favorableCapacityTargetPercent.toInt : ℚ) ≤ m := by
  have hmet : (evaluate gainedExperiment 1000).2.targetStatus = .definitivelyMet := by
    decide +kernel
  refine ⟨hmet, (evaluate_verdict_sound gainedExperiment 1000
    (fun variant _ => if variant = .nemorCapacity then 155 else 105) ?_).1 hmet⟩
  intro run hrun
  obtain ⟨r, -, hrun⟩ := List.mem_flatMap.1 hrun
  rcases List.mem_cons.1 hrun with rfl | hrun
  · show (runOf (2 * r) .cachyosBaseline r true _).Admits (105 : ℚ)
    exact runOf_admits _ _ _ _ (by decide +kernel) (by decide +kernel) (by decide +kernel)
  · obtain rfl := List.mem_singleton.1 hrun
    show (runOf (2 * r + 1) .nemorCapacity r true _).Admits (155 : ℚ)
    exact runOf_admits _ _ _ _ (by decide +kernel) (by decide +kernel) (by decide +kernel)

end Nemor.Capacity
