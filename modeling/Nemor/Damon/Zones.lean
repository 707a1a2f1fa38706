import Mathlib.Data.Finset.Basic
import Nemor.Damon.Windows
import Nemor.Lib.Fallible
import Nemor.Lib.Interval
import Nemor.Lib.MachineNumbers

/-!
# DAMON: bytes by zone

`analyzeZones` measures how the regions of every window meet the hot, the warm and the cold zone.
The sum over the zones of one region is a plain addition, everything else saturates. Disjoint
zones keep that addition inside the size of the region, and disjoint regions keep the sums of a
window inside the address space, so that nothing in a window saturates and the bytes outside the
zones are what is left.
-/

namespace Nemor.Damon

open MachineNumbers U64 Fallible

/-! ## §1 Ranges and zones -/

/-- A half-open range of addresses. -/
structure AddressRange where
  start : UInt64
  end_ : UInt64
  deriving DecidableEq

namespace AddressRange

/-- How many bytes two ranges share. -/
def overlap (a b : AddressRange) : UInt64 :=
  saturatingSub (min a.end_ b.end_) (max a.start b.start)

/-- The addresses in the range. -/
def bytes (r : AddressRange) : Finset ℕ := Finset.Ico r.start.toNat r.end_.toNat

/-- The overlap is what two ranges share. -/
theorem toNat_overlap (a b : AddressRange) :
    (a.overlap b).toNat = (a.bytes ∩ b.bytes).card := by
  simp [overlap, bytes, Finset.Ico_inter_Ico, toNat_min, toNat_max]

theorem card_bytes (r : AddressRange) :
    r.bytes.card = (saturatingSub r.end_ r.start).toNat := by
  simp [bytes]

end AddressRange

/-- The addresses of a region. -/
def TraceRegion.range (region : TraceRegion) : AddressRange := ⟨region.start, region.end_⟩

/-- Something for each of the three zones. -/
structure PerZone (α : Type) where
  hot : α
  warm : α
  cold : α

namespace PerZone

variable {α β γ : Type}

/-- The three values, hot first. -/
def toList (z : PerZone α) : List α := [z.hot, z.warm, z.cold]

/-- Apply a function in each zone. -/
def map (f : α → β) (z : PerZone α) : PerZone β := ⟨f z.hot, f z.warm, f z.cold⟩

/-- Combine two values in each zone. -/
def zipWith (f : α → β → γ) (z : PerZone α) (y : PerZone β) : PerZone γ :=
  ⟨f z.hot y.hot, f z.warm y.warm, f z.cold y.cold⟩

/-- The same value in each zone. -/
def all (x : α) : PerZone α := ⟨x, x, x⟩

end PerZone

/-! ## §2 Monitoring attributes -/

/-- Why the analysis can stop. -/
inductive Panic where
  | overflow
  | divisionByZero
  deriving DecidableEq

/-- The attributes of a monitoring session. -/
structure MonitoringAttrs where
  operation : String
  sampleUs : UInt64
  aggrUs : UInt64
  updateUs : UInt64
  minRegions : UInt32
  maxRegions : UInt32
  deriving DecidableEq

namespace MonitoringAttrs

/-- Only sessions on virtual addresses, with intervals in order. -/
def validate (attrs : MonitoringAttrs) : Except String Unit :=
  if attrs.operation ≠ "vaddr" then .error "Phase 7 owned sessions require vaddr"
  else if attrs.sampleUs < 100 ∨ attrs.aggrUs < attrs.sampleUs ∨ attrs.updateUs < attrs.aggrUs then
    .error "intervals must satisfy 100 <= sample <= aggregation <= update"
  else if attrs.minRegions = 0 ∨ attrs.maxRegions < attrs.minRegions ∨
      100000 < attrs.maxRegions then
    .error "region bounds are invalid"
  else .ok ()

/-- How many samples an aggregation has. The division fails without a sampling interval. -/
def expectedSamples (attrs : MonitoringAttrs) : Except Panic UInt64 :=
  if attrs.sampleUs = 0 then .error .divisionByZero else .ok (attrs.aggrUs / attrs.sampleUs)

/-- Attributes that were validated have a number of samples. -/
theorem sampleUs_ne_zero {attrs : MonitoringAttrs} (h : attrs.validate = .ok ()) :
    attrs.sampleUs ≠ 0 := by
  intro hzero
  unfold validate at h
  split_ifs at h with h1 h2
  simp [hzero] at h2

end MonitoringAttrs

/-! ## §3 Accumulators -/

/-- The order of `f64::total_cmp`, read off the bits. -/
def totalKey (x : Float) : ℤ :=
  let bits := x.toBits.toInt64
  (bits ^^^ ((bits >>> 63).toUInt64 >>> 1).toInt64).toInt

/-- Accesses for each expected sample, at most one. -/
def normalizedRatio (accesses expected : UInt64) : Float :=
  if expected = 0 then 0.0
  else
    let ratio := accesses.toFloat / expected.toFloat
    if ratio < 0.0 then 0.0 else if 1.0 < ratio then 1.0 else ratio

/-- The value at a percentile of a sorted list. -/
def percentile (values : List Float) (percentile : ℕ) : Float :=
  values.getD ((values.length - 1) * percentile / 100) 0.0

/-- The lower median. -/
def medianU64 (values : List UInt64) : UInt64 :=
  (Interval.sortByKey UInt64.toNat values).getD ((values.length - 1) / 2) 0

/-- How much a region counts in a zone: little if most of it lies outside. -/
def qualityWeight (overlap regionSize : UInt64) : Float :=
  overlap.toFloat * overlap.toFloat / regionSize.toFloat

/-- `0.0` where there is nothing to divide by. -/
def quotient (a b : Float) : Float := if b == 0.0 then 0.0 else a / b

/-- What is reported of a zone. -/
structure ZoneStatistics where
  windowsObserved : UInt64
  regionSamples : UInt64
  overlapSampleBytes : UInt64
  snapshotOverlapBytesMedian : UInt64
  normalizedRatioMean : Float
  normalizedRatioP25 : Float
  normalizedRatioP50 : Float
  normalizedRatioP75 : Float
  normalizedRatioP95 : Float
  ageMean : Float
  confidence : String

/-- What is summed up of a zone over all windows. -/
structure ZoneAccumulator where
  weightedRatio : Float
  weightedAge : Float
  qualityWeight : Float
  overlapBytes : UInt64
  samples : UInt64
  windowRatios : List Float
  snapshots : List UInt64

namespace ZoneAccumulator

/-- Nothing has been seen yet. -/
def default : ZoneAccumulator := ⟨0.0, 0.0, 0.0, 0, 0, [], []⟩

/-- Count a region that the zone shares bytes with. -/
def push (acc : ZoneAccumulator) (overlap regionSize : UInt64) (ratio : Float) (age : UInt64) :
    ZoneAccumulator :=
  if overlap = 0 ∨ regionSize = 0 then acc
  else
    let weight := Damon.qualityWeight overlap regionSize
    { acc with
      weightedRatio := acc.weightedRatio + ratio * weight
      weightedAge := acc.weightedAge + age.toFloat * weight
      overlapBytes := saturatingAdd acc.overlapBytes overlap
      qualityWeight := acc.qualityWeight + weight
      samples := saturatingAdd acc.samples 1 }

/-- The statistics of the zone at the end. -/
def finish (acc : ZoneAccumulator) (windows : ℕ) : ZoneStatistics :=
  let windowRatios := Interval.sortByKey totalKey acc.windowRatios
  { windowsObserved := .ofNat windows
    regionSamples := acc.samples
    overlapSampleBytes := acc.overlapBytes
    snapshotOverlapBytesMedian := medianU64 acc.snapshots
    normalizedRatioMean := quotient acc.weightedRatio acc.qualityWeight
    normalizedRatioP25 := percentile windowRatios 25
    normalizedRatioP50 := percentile windowRatios 50
    normalizedRatioP75 := percentile windowRatios 75
    normalizedRatioP95 := percentile windowRatios 95
    ageMean := quotient acc.weightedAge acc.qualityWeight
    confidence := if 5 ≤ windows ∧ 5 ≤ acc.samples then "bounded" else "low" }

end ZoneAccumulator

/-- What is summed up of a zone in one window. -/
structure WindowAccumulator where
  weightedRatio : Float
  qualityWeight : Float
  rawAccesses : UInt64
  regions : UInt64

namespace WindowAccumulator

/-- No region of the window has been seen yet. -/
def default : WindowAccumulator := ⟨0.0, 0.0, 0, 0⟩

/-- Count a region in the sums of one window. -/
def push (acc : WindowAccumulator) (overlap regionSize : UInt64) (ratio : Float)
    (rawAccesses : UInt64) : WindowAccumulator :=
  if overlap = 0 ∨ regionSize = 0 then acc
  else
    let weight := Damon.qualityWeight overlap regionSize
    { weightedRatio := acc.weightedRatio + ratio * weight
      qualityWeight := acc.qualityWeight + weight
      rawAccesses := saturatingAdd acc.rawAccesses rawAccesses
      regions := saturatingAdd acc.regions 1 }

/-- The weighted mean of the window. -/
def ratio (acc : WindowAccumulator) : Float := quotient acc.weightedRatio acc.qualityWeight

end WindowAccumulator

/-! ## §4 The analysis -/

/-- What is reported of a zone in one window. -/
structure WindowZoneDiagnostic where
  windowIndex : UInt64
  regionCount : UInt64
  observedBytes : UInt64
  targetOverlapBytes : UInt64
  outsideRequestedBytes : UInt64
  hotOverlapBytes : UInt64
  warmOverlapBytes : UInt64
  coldOverlapBytes : UInt64
  hotNormalizedRatio : Float
  warmNormalizedRatio : Float
  coldNormalizedRatio : Float
  hotRawAccesses : UInt64
  warmRawAccesses : UInt64
  coldRawAccesses : UInt64
  hotOverlappingRegions : UInt64
  warmOverlappingRegions : UInt64
  coldOverlappingRegions : UInt64
  expectedSamplesPerRegion : UInt64

/-- The report of an analysis. -/
structure SignalEvidence where
  hot : ZoneStatistics
  warm : ZoneStatistics
  cold : ZoneStatistics
  otherRegionSamples : UInt64
  regionSampleBytes : UInt64
  snapshotObservedBytesMedian : UInt64
  requestedTargetBytes : UInt64
  observedTargetBytesPerSnapshot : UInt64
  outsideRequestedBytes : UInt64
  outsideRequestedRatio : Float
  targetIsolated : Bool
  windowDiagnostics : List WindowZoneDiagnostic
  hotColdMargin : Float
  warmColdMargin : Float
  hotColdDistinguished : Bool
  warmCoherent : Bool
  accepted : Bool
  reasons : List String

/-- What is kept over the windows. -/
structure Analysis where
  acc : PerZone ZoneAccumulator
  other : UInt64
  regionSampleBytes : UInt64
  footprints : List UInt64
  targetFootprints : List UInt64
  outsideFootprints : List UInt64
  windowDiagnostics : List WindowZoneDiagnostic

/-- What is kept over the regions of one window. -/
structure WindowScan where
  footprint : UInt64
  snapshot : PerZone UInt64
  window : PerZone WindowAccumulator

/-- Before the first window. -/
def Analysis.start : Analysis := ⟨.all .default, 0, 0, [], [], [], []⟩

/-- Before the first region of a window. -/
def WindowScan.start : WindowScan := ⟨0, .all 0, .all .default⟩

/-- One region, once its overlaps are known and how many bytes they are together. -/
def Analysis.record (analysis : Analysis) (region : TraceRegion) (size : UInt64) (ratio : Float)
    (overlap : PerZone UInt64) (touched : UInt64) : Analysis :=
  { analysis with
    acc := analysis.acc.zipWith (fun acc o => acc.push o size ratio region.age) overlap
    other := if touched = 0 then saturatingAdd analysis.other 1 else analysis.other
    regionSampleBytes := saturatingAdd analysis.regionSampleBytes size }

/-- Count a region in the sums of its window. -/
def WindowScan.record (scan : WindowScan) (region : TraceRegion) (size : UInt64) (ratio : Float)
    (overlap : PerZone UInt64) : WindowScan where
  footprint := saturatingAdd scan.footprint size
  snapshot := scan.snapshot.zipWith saturatingAdd overlap
  window := scan.window.zipWith (fun acc o => acc.push o size ratio region.nrAccesses) overlap

/-- `a + b`, which must fit. -/
def plus (a b : UInt64) : Except Panic UInt64 :=
  match U64.add a b with
  | some sum => .ok sum
  | none => .error .overflow

/-- One turn of the inner loop. -/
def scanRegion (attrs : MonitoringAttrs) (zones : PerZone AddressRange)
    (state : Analysis × WindowScan) (region : TraceRegion) :
    Except Panic (Analysis × WindowScan) := do
  let size := saturatingSub region.end_ region.start
  let expected ← attrs.expectedSamples
  let ratio := normalizedRatio region.nrAccesses expected
  let overlap := zones.map region.range.overlap
  let hotAndWarm ← plus overlap.hot overlap.warm
  let touched ← plus hotAndWarm overlap.cold
  return (state.1.record region size ratio overlap touched,
    state.2.record region size ratio overlap)

/-- What is reported of a window when its regions were scanned. -/
def diagnostic (index regionCount : ℕ) (scan : WindowScan) (target outside expected : UInt64) :
    WindowZoneDiagnostic where
  windowIndex := .ofNat index
  regionCount := .ofNat regionCount
  observedBytes := scan.footprint
  targetOverlapBytes := target
  outsideRequestedBytes := outside
  hotOverlapBytes := scan.snapshot.hot
  warmOverlapBytes := scan.snapshot.warm
  coldOverlapBytes := scan.snapshot.cold
  hotNormalizedRatio := scan.window.hot.ratio
  warmNormalizedRatio := scan.window.warm.ratio
  coldNormalizedRatio := scan.window.cold.ratio
  hotRawAccesses := scan.window.hot.rawAccesses
  warmRawAccesses := scan.window.warm.rawAccesses
  coldRawAccesses := scan.window.cold.rawAccesses
  hotOverlappingRegions := scan.window.hot.regions
  warmOverlappingRegions := scan.window.warm.regions
  coldOverlappingRegions := scan.window.cold.regions
  expectedSamplesPerRegion := expected

/-- The end of a window. -/
def Analysis.close (analysis : Analysis) (window : List TraceRegion × ℕ) (scan : WindowScan)
    (expected : UInt64) : Analysis :=
  let target :=
    saturatingAdd (saturatingAdd scan.snapshot.hot scan.snapshot.warm) scan.snapshot.cold
  let outside := saturatingSub scan.footprint target
  { analysis with
    acc := (analysis.acc.zipWith (fun acc w =>
      { acc with windowRatios := acc.windowRatios ++ [w.ratio] }) scan.window).zipWith
        (fun acc s => { acc with snapshots := acc.snapshots ++ [s] }) scan.snapshot
    footprints := analysis.footprints ++ [scan.footprint]
    targetFootprints := analysis.targetFootprints ++ [target]
    outsideFootprints := analysis.outsideFootprints ++ [outside]
    windowDiagnostics := analysis.windowDiagnostics ++
      [diagnostic window.2 window.1.length scan target outside expected] }

/-- One turn of the outer loop. -/
def scanWindow (attrs : MonitoringAttrs) (zones : PerZone AddressRange) (analysis : Analysis)
    (window : List TraceRegion × ℕ) : Except Panic Analysis := do
  let (analysis, scan) ← window.1.foldlM (scanRegion attrs zones) (analysis, .start)
  let expected ← attrs.expectedSamples
  return analysis.close window scan expected

/-- The evidence of an analysis that went over all windows. -/
def conclude (windows : ℕ) (requestedTargetBytes : UInt64) (analysis : Analysis) :
    SignalEvidence :=
  let hot := analysis.acc.hot.finish windows
  let warm := analysis.acc.warm.finish windows
  let cold := analysis.acc.cold.finish windows
  let snapshotObservedBytesMedian := medianU64 analysis.footprints
  let observedTargetBytesPerSnapshot := medianU64 analysis.targetFootprints
  let outsideRequestedBytes := medianU64 analysis.outsideFootprints
  let outsideRequestedRatio :=
    if snapshotObservedBytesMedian = 0 then 0.0
    else outsideRequestedBytes.toFloat / snapshotObservedBytesMedian.toFloat
  let targetIsolated := 0 < observedTargetBytesPerSnapshot && outsideRequestedRatio ≤ 0.50
  let hotColdMargin := hot.normalizedRatioP50 - cold.normalizedRatioP50
  let warmColdMargin := warm.normalizedRatioMean - cold.normalizedRatioMean
  let enoughWindows : Bool := 3 ≤ windows
  let allOverlap : Bool :=
    0 < hot.regionSamples && 0 < warm.regionSamples && 0 < cold.regionSamples
  let hotColdDistinguished : Bool :=
    0.10 ≤ hotColdMargin && cold.normalizedRatioMean + 0.10 < hot.normalizedRatioMean
  let warmCoherent : Bool :=
    0.02 ≤ warmColdMargin && warm.normalizedRatioMean < hot.normalizedRatioMean
  let reasons :=
    refusals
      [(!enoughWindows, "missing_aggregation_windows"),
        (!allOverlap, "missing_zone_overlap"),
        (!targetIsolated, "target_regions_not_isolated"),
        (!hotColdDistinguished, "hot_not_distinguished_from_cold"),
        (!warmCoherent, "warm_not_coherent")]
  { hot
    warm
    cold
    otherRegionSamples := analysis.other
    regionSampleBytes := analysis.regionSampleBytes
    snapshotObservedBytesMedian
    requestedTargetBytes
    observedTargetBytesPerSnapshot
    outsideRequestedBytes
    outsideRequestedRatio
    targetIsolated
    windowDiagnostics := analysis.windowDiagnostics
    hotColdMargin
    warmColdMargin
    hotColdDistinguished
    warmCoherent
    accepted := reasons.isEmpty
    reasons }

/-- `analyze_zones`. -/
def analyzeZones (windows : List (List TraceRegion)) (attrs : MonitoringAttrs)
    (hot warm cold : AddressRange) : Except Panic SignalEvidence := do
  let zones : PerZone AddressRange := ⟨hot, warm, cold⟩
  let requestedTargetBytes := zones.toList.foldl
    (fun sum range => saturatingAdd sum (saturatingSub range.end_ range.start)) 0
  let analysis ← windows.zipIdx.foldlM (scanWindow attrs zones) .start
  return conclude windows.length requestedTargetBytes analysis

/-! ## §5 Disjoint ranges -/

/-- No two regions share an address. -/
def DisjointRegions (window : List TraceRegion) : Prop :=
  window.Pairwise fun a b => Disjoint a.range.bytes b.range.bytes

/-- No two zones share an address. -/
def DisjointZones (zones : PerZone AddressRange) : Prop :=
  zones.toList.Pairwise fun a b => Disjoint a.bytes b.bytes

section Bytes

variable {zones : PerZone AddressRange} {region : TraceRegion} {window : List TraceRegion}

/-- The bytes of the regions of a window. -/
def observed (window : List TraceRegion) : ℕ :=
  (window.map fun region => region.range.bytes.card).sum

/-- The bytes that the regions of a window share with a range. -/
def shared (window : List TraceRegion) (range : AddressRange) : ℕ :=
  (window.map fun region => (region.range.bytes ∩ range.bytes).card).sum

@[simp] theorem observed_nil : observed [] = 0 := rfl

@[simp] theorem shared_nil (range : AddressRange) : shared [] range = 0 := rfl

@[simp] theorem observed_concat :
    observed (window ++ [region]) = observed window + region.range.bytes.card := by
  simp [observed]

@[simp] theorem shared_concat (range : AddressRange) :
    shared (window ++ [region]) range =
      shared window range + (region.range.bytes ∩ range.bytes).card := by
  simp [shared]

/-- One region has at least the bytes that it shares with the zones. -/
theorem shared_le_card (hzones : DisjointZones zones) (region : TraceRegion) :
    (region.range.bytes ∩ zones.hot.bytes).card + (region.range.bytes ∩ zones.warm.bytes).card +
      (region.range.bytes ∩ zones.cold.bytes).card ≤ region.range.bytes.card := by
  have hparts : zones.toList.Pairwise fun a b =>
      Disjoint (region.range.bytes ∩ a.bytes) (region.range.bytes ∩ b.bytes) :=
    hzones.imp fun h => h.mono Finset.inter_subset_right Finset.inter_subset_right
  have hsum := Interval.sum_card_le hparts fun _ _ => Finset.inter_subset_left
  simpa [PerZone.toList, Nat.add_assoc] using hsum

theorem shared_le_observed (hzones : DisjointZones zones) (window : List TraceRegion) :
    shared window zones.hot + shared window zones.warm + shared window zones.cold ≤
      observed window := by
  induction window using List.reverseRecOn with
  | nil => simp
  | append_singleton rest region ih =>
    have hregion := shared_le_card hzones region
    simp only [shared_concat, observed_concat]
    omega

/-- Disjoint regions have at most as many bytes as there are addresses. -/
theorem observed_lt (hregions : DisjointRegions window) : observed window < 2 ^ 64 := by
  have hsubset : ∀ region ∈ window, region.range.bytes ⊆ Finset.Ico 0 (2 ^ 64 - 1) := by
    intro region _
    have hend := region.range.end_.toNat_lt
    exact Finset.Ico_subset_Ico (Nat.zero_le _) (by omega)
  have hsum := Interval.sum_card_le hregions hsubset
  rw [Nat.card_Ico] at hsum
  simp only [observed]
  omega

end Bytes

/-! ## §6 The loops -/

section Scan

variable {attrs : MonitoringAttrs} {zones : PerZone AddressRange} {expected : UInt64}

theorem plus_of_lt {a b : UInt64} (h : a.toNat + b.toNat < 2 ^ 64) :
    ∃ c, plus a b = .ok c ∧ c.toNat = a.toNat + b.toNat := by
  have hadd : U64.add a b = some (.ofNat (a.toNat + b.toNat)) := if_pos h
  exact ⟨_, by simp [plus, hadd], (add_eq_some h).1 hadd⟩

/-- **The sum over the zones of a region fits**: a region is scanned without an overflow. -/
theorem scanRegion_ok (hexpected : attrs.expectedSamples = .ok expected)
    (hzones : DisjointZones zones) (state : Analysis × WindowScan) (region : TraceRegion) :
    ∃ analysis ratio, scanRegion attrs zones state region =
        .ok (analysis, state.2.record region (saturatingSub region.end_ region.start) ratio
          (zones.map region.range.overlap)) ∧
      analysis.windowDiagnostics = state.1.windowDiagnostics := by
  have hle := shared_le_card hzones region
  -- the size of a region is a machine number itself
  have hsize : region.range.bytes.card < 2 ^ 64 := by
    rw [AddressRange.card_bytes]
    exact UInt64.toNat_lt _
  simp only [← AddressRange.toNat_overlap] at hle
  obtain ⟨hotAndWarm, hplus, htoNat⟩ := @plus_of_lt (region.range.overlap zones.hot)
    (region.range.overlap zones.warm) (by omega)
  obtain ⟨touched, hplus', -⟩ := @plus_of_lt hotAndWarm (region.range.overlap zones.cold)
    (by omega)
  have hscan : scanRegion attrs zones state region =
      .ok (state.1.record region (saturatingSub region.end_ region.start)
          (normalizedRatio region.nrAccesses expected) (zones.map region.range.overlap) touched,
        state.2.record region (saturatingSub region.end_ region.start)
          (normalizedRatio region.nrAccesses expected) (zones.map region.range.overlap)) := by
    simp only [scanRegion, hexpected, PerZone.map, hplus, hplus', bind, Except.bind, pure,
      Except.pure]
  exact ⟨_, _, hscan, rfl⟩

/-- What a scan has counted when nothing has reached the bound of the type. -/
structure WindowScan.Counts (scan : WindowScan) (zones : PerZone AddressRange)
    (window : List TraceRegion) : Prop where
  footprint : scan.footprint.toNat = observed window
  hot : scan.snapshot.hot.toNat = shared window zones.hot
  warm : scan.snapshot.warm.toNat = shared window zones.warm
  cold : scan.snapshot.cold.toNat = shared window zones.cold

/-- **One region more**: no sum of the window saturates. -/
theorem WindowScan.Counts.record {scan : WindowScan} {window : List TraceRegion}
    {region : TraceRegion} (h : scan.Counts zones window) (hzones : DisjointZones zones)
    (hroom : observed (window ++ [region]) < 2 ^ 64) (ratio : Float) :
    (scan.record region (saturatingSub region.end_ region.start) ratio
      (zones.map region.range.overlap)).Counts zones (window ++ [region]) := by
  have hshared := shared_le_observed hzones (window ++ [region])
  have hsize : region.range.bytes.card = (saturatingSub region.end_ region.start).toNat :=
    region.range.card_bytes
  simp only [shared_concat, observed_concat] at hshared hroom
  constructor
  · rw [WindowScan.record, toNat_saturatingAdd, h.footprint, observed_concat, ← hsize]
    omega
  · simp only [WindowScan.record, PerZone.zipWith, PerZone.map, toNat_saturatingAdd, h.hot,
      AddressRange.toNat_overlap, shared_concat]
    omega
  · simp only [WindowScan.record, PerZone.zipWith, PerZone.map, toNat_saturatingAdd, h.warm,
      AddressRange.toNat_overlap, shared_concat]
    omega
  · simp only [WindowScan.record, PerZone.zipWith, PerZone.map, toNat_saturatingAdd, h.cold,
      AddressRange.toNat_overlap, shared_concat]
    omega

/-- The regions of a window, scanned one after the other. -/
theorem scanRegions_ok (hexpected : attrs.expectedSamples = .ok expected)
    (hzones : DisjointZones zones) (done window : List TraceRegion)
    (hregions : DisjointRegions (done ++ window)) (state : Analysis × WindowScan)
    (hcounts : state.2.Counts zones done) :
    ∃ analysis scan, window.foldlM (scanRegion attrs zones) state = .ok (analysis, scan) ∧
      analysis.windowDiagnostics = state.1.windowDiagnostics ∧
      scan.Counts zones (done ++ window) := by
  induction window generalizing done state with
  | nil => exact ⟨state.1, state.2, rfl, rfl, by simpa using hcounts⟩
  | cons region rest ih =>
    obtain ⟨next, ratio, hscan, hnext⟩ := scanRegion_ok hexpected hzones state region
    have happend : done ++ region :: rest = (done ++ [region]) ++ rest := by simp
    rw [happend] at hregions ⊢
    have hroom : observed (done ++ [region]) < 2 ^ 64 :=
      observed_lt (List.pairwise_append.1 hregions).1
    obtain ⟨analysis, scan, hrest, hdiagnostics, hscanned⟩ :=
      ih (done ++ [region]) hregions (next, _) (hcounts.record hzones hroom ratio)
    refine ⟨analysis, scan, ?_, hdiagnostics.trans hnext, hscanned⟩
    rw [List.foldlM_cons, hscan]
    exact hrest

end Scan

/-! ## §7 The accounts of a window -/

/-- What is reported of a window adds up. -/
structure Accounts (zones : PerZone AddressRange) (window : List TraceRegion)
    (reported : WindowZoneDiagnostic) : Prop where
  observed : reported.observedBytes.toNat = observed window
  hot : reported.hotOverlapBytes.toNat = shared window zones.hot
  warm : reported.warmOverlapBytes.toNat = shared window zones.warm
  cold : reported.coldOverlapBytes.toNat = shared window zones.cold
  within : reported.hotOverlapBytes.toNat + reported.warmOverlapBytes.toNat +
    reported.coldOverlapBytes.toNat ≤ reported.observedBytes.toNat
  target : reported.targetOverlapBytes.toNat = reported.hotOverlapBytes.toNat +
    reported.warmOverlapBytes.toNat + reported.coldOverlapBytes.toNat
  conserved : reported.targetOverlapBytes.toNat + reported.outsideRequestedBytes.toNat =
    reported.observedBytes.toNat

section Windows

variable {attrs : MonitoringAttrs} {zones : PerZone AddressRange} {expected : UInt64}

/-- **Counted bytes are conserved**: the target is inside the footprint, so that subtracting it
    gives the bytes outside. -/
theorem WindowScan.Counts.accounts {scan : WindowScan} {window : List TraceRegion}
    (h : scan.Counts zones window) (hzones : DisjointZones zones) (index regionCount : ℕ)
    (expected : UInt64) :
    let target :=
      saturatingAdd (saturatingAdd scan.snapshot.hot scan.snapshot.warm) scan.snapshot.cold
    Accounts zones window (diagnostic index regionCount scan target
      (saturatingSub scan.footprint target) expected) := by
  have hshared := shared_le_observed hzones window
  have hlt := scan.footprint.toNat_lt
  rw [← h.footprint, ← h.hot, ← h.warm, ← h.cold] at hshared
  constructor
  · exact h.footprint
  · exact h.hot
  · exact h.warm
  · exact h.cold
  · exact hshared
  · simp only [diagnostic, toNat_saturatingAdd]
    omega
  · simp only [diagnostic, toNat_saturatingAdd, toNat_saturatingSub]
    omega

theorem scanWindow_ok (hexpected : attrs.expectedSamples = .ok expected)
    (hzones : DisjointZones zones) {window : List TraceRegion}
    (hregions : DisjointRegions window) (analysis : Analysis) (index : ℕ) :
    ∃ analysis' reported, scanWindow attrs zones analysis (window, index) = .ok analysis' ∧
      analysis'.windowDiagnostics = analysis.windowDiagnostics ++ [reported] ∧
      Accounts zones window reported := by
  have hstart : WindowScan.start.Counts zones [] := ⟨rfl, rfl, rfl, rfl⟩
  obtain ⟨scanned, scan, hscan, hdiagnostics, hcounts⟩ :=
    scanRegions_ok hexpected hzones [] window hregions (analysis, .start) hstart
  have hclose : scanWindow attrs zones analysis (window, index) =
      .ok (scanned.close (window, index) scan expected) := by
    simp only [scanWindow, hscan, hexpected, bind, Except.bind, pure, Except.pure]
  refine ⟨_, _, hclose, ?_, hcounts.accounts hzones index window.length expected⟩
  simp only [Analysis.close, hdiagnostics]

/-- The windows, scanned one after the other. -/
theorem scanWindows_ok (hexpected : attrs.expectedSamples = .ok expected)
    (hzones : DisjointZones zones) {windows : List (List TraceRegion)}
    (hregions : ∀ window ∈ windows, DisjointRegions window) (analysis : Analysis) (index : ℕ) :
    ∃ analysis' reported,
      (windows.zipIdx index).foldlM (scanWindow attrs zones) analysis = .ok analysis' ∧
      analysis'.windowDiagnostics = analysis.windowDiagnostics ++ reported ∧
      List.Forall₂ (Accounts zones) windows reported := by
  induction windows generalizing analysis index with
  | nil => exact ⟨analysis, [], rfl, by simp, .nil⟩
  | cons window rest ih =>
    obtain ⟨next, reported, hnext, hdiagnostic, haccounts⟩ :=
      scanWindow_ok hexpected hzones (hregions window (by simp)) analysis index
    obtain ⟨last, others, hlast, hdiagnostics, hothers⟩ :=
      ih (fun w hw => hregions w (by simp [hw])) next (index + 1)
    refine ⟨last, reported :: others, ?_, ?_, .cons haccounts hothers⟩
    · rw [List.zipIdx_cons, List.foldlM_cons, hnext]
      exact hlast
    · rw [hdiagnostics, hdiagnostic, List.append_assoc, List.singleton_append]

/-- Without a sampling interval every window fails, on the division. -/
theorem scanWindow_divisionByZero (hsample : attrs.sampleUs = 0) (analysis : Analysis)
    (window : List TraceRegion × ℕ) :
    scanWindow attrs zones analysis window = .error .divisionByZero := by
  have hexpected : attrs.expectedSamples = .error .divisionByZero := if_pos hsample
  obtain ⟨regions, index⟩ := window
  cases regions with
  | nil => simp [scanWindow, hexpected, bind, Except.bind, pure, Except.pure]
  | cons region rest =>
    have hregion : ∀ state, scanRegion attrs zones state region = .error .divisionByZero := by
      intro state
      simp [scanRegion, hexpected, bind, Except.bind]
    simp only [scanWindow, List.foldlM_cons, hregion, bind, Except.bind]

end Windows

/-- **Zone accounting conserves bytes**: over windows of disjoint regions and disjoint zones no
    addition overflows, and every window is reported with the bytes it has, the bytes it
    shares with each zone, and what is left of them outside. -/
theorem analyzeZones_accounts (windows : List (List TraceRegion)) (attrs : MonitoringAttrs)
    (hot warm cold : AddressRange) (hregions : ∀ window ∈ windows, DisjointRegions window)
    (hzones : DisjointZones ⟨hot, warm, cold⟩) :
    analyzeZones windows attrs hot warm cold ≠ .error .overflow ∧
    (attrs.sampleUs ≠ 0 → ∃ evidence, analyzeZones windows attrs hot warm cold = .ok evidence ∧
      List.Forall₂ (Accounts ⟨hot, warm, cold⟩) windows evidence.windowDiagnostics) := by
  by_cases hsample : attrs.sampleUs = 0
  · -- the first window stops the analysis before anything is added
    refine ⟨?_, fun h => absurd hsample h⟩
    cases windows with
    | nil => simp [analyzeZones, pure, Except.pure, bind, Except.bind]
    | cons window rest =>
      simp [analyzeZones, List.zipIdx_cons, scanWindow_divisionByZero hsample, bind, Except.bind]
  · have hexpected : attrs.expectedSamples = .ok (attrs.aggrUs / attrs.sampleUs) :=
      if_neg hsample
    obtain ⟨analysis, reported, hfold, hdiagnostics, haccounts⟩ :=
      scanWindows_ok hexpected hzones hregions .start 0
    have hresult : analyzeZones windows attrs hot warm cold = .ok (conclude windows.length
        ([hot, warm, cold].foldl
          (fun sum range => saturatingAdd sum (saturatingSub range.end_ range.start)) 0)
        analysis) := by
      simp only [analyzeZones, hfold, PerZone.toList, bind, Except.bind, pure, Except.pure]
    refine ⟨by simp [hresult], fun _ => ⟨_, hresult, ?_⟩⟩
    simpa [conclude, hdiagnostics, Analysis.start] using haccounts

/-- The attributes of a validation run. -/
def validationAttrs : MonitoringAttrs where
  operation := "vaddr"
  sampleUs := 25000
  aggrUs := 500000
  updateUs := 10000000
  minRegions := 10
  maxRegions := 1000

theorem analyzeZones_accounts_validation :
    ∃ evidence, analyzeZones [[regionAt 2 0, regionAt 2 6], []] validationAttrs
        ⟨0, 2⟩ ⟨2, 7⟩ ⟨7, 9⟩ = .ok evidence ∧
      List.Forall₂ (Accounts ⟨⟨0, 2⟩, ⟨2, 7⟩, ⟨7, 9⟩⟩) [[regionAt 2 0, regionAt 2 6], []]
        evidence.windowDiagnostics := by
  apply (analyzeZones_accounts _ _ _ _ _ _ _).2
  · exact MonitoringAttrs.sampleUs_ne_zero (by decide)
  · intro window hwindow
    simp only [List.mem_cons, List.not_mem_nil, or_false] at hwindow
    rcases hwindow with rfl | rfl
    · simp only [DisjointRegions, List.pairwise_cons]
      decide
    · exact .nil
  · simp only [DisjointZones, PerZone.toList, List.pairwise_cons]
    decide

end Nemor.Damon
