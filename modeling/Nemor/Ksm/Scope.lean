import Nemor.Ksm.Smaps
import Nemor.Lib.Fallible
import Nemor.Lib.Interval

/-!
# KSM: the base-page check of an address range

`verifyBasePageScope` sweeps over the parts of the areas inside one range and asks for base pages
everywhere. Its loop is an instance of the general sweep, so what it decides is a statement
about sets of addresses.
-/

namespace Nemor.Ksm

open MachineNumbers U64 Fallible

/-- The addresses of the areas. -/
def mapped (areas : List SmapsArea) : Set ℕ := {x | ∃ area ∈ areas, x ∈ area.bytes}

/-! ## §1 The base-page check -/

/-- The part of an area inside the range, with what the check looks at. -/
structure SmapsRangeOverlap where
  vmaStart : UInt64
  vmaEnd : UInt64
  overlapStart : UInt64
  overlapEnd : UInt64
  overlapBytes : UInt64
  kernelPageSizeBytes : Option UInt64
  mmuPageSizeBytes : Option UInt64
  anonHugePagesBytes : Option UInt64
  thpEligible : Option Bool
  vmFlags : List String
  deriving DecidableEq

namespace SmapsRangeOverlap

/-- The ends of the overlap, as numbers. -/
def lo (o : SmapsRangeOverlap) : ℕ := o.overlapStart.toNat

/-- Where the overlap ends. -/
def hi (o : SmapsRangeOverlap) : ℕ := o.overlapEnd.toNat

/-- The area has a flag. -/
def hasFlag (flag : String) (o : SmapsRangeOverlap) : Bool := o.vmFlags.contains flag

/-- Both page sizes of the area are this one. -/
def hasPageSize (pageSize : UInt64) (o : SmapsRangeOverlap) : Bool :=
  o.kernelPageSizeBytes == some pageSize && o.mmuPageSizeBytes == some pageSize

/-- Nothing of the area is huge. -/
def hasNoHugeBytes (o : SmapsRangeOverlap) : Bool := o.anonHugePagesBytes == some 0

end SmapsRangeOverlap

/-- What was found of a range. -/
structure BasePageScopeEvidence where
  range : AddressRange
  hostPageSize : UInt64
  startAligned : Bool
  endAligned : Bool
  lengthAligned : Bool
  coveredBytes : UInt64
  fullCoverage : Bool
  noHugepage : Bool
  nonMergeable : Bool
  basePageSizes : Bool
  anonHugePagesZero : Bool
  overlaps : List SmapsRangeOverlap
  passed : Bool
  failureReasons : List String
  deriving DecidableEq

/-- What a range has of an area. -/
def overlapWith (range : AddressRange) (area : SmapsArea) : Option SmapsRangeOverlap :=
  let start := max area.range.start range.start
  let end_ := min area.range.end_ range.end_
  if start < end_ then
    some
      { vmaStart := area.range.start
        vmaEnd := area.range.end_
        overlapStart := start
        overlapEnd := end_
        overlapBytes := end_ - start
        kernelPageSizeBytes := area.kernelPageSizeBytes
        mmuPageSizeBytes := area.mmuPageSizeBytes
        anonHugePagesBytes := area.anonHugePagesBytes
        thpEligible := area.thpEligible
        vmFlags := area.vmFlags }
  else none

/-- The overlaps, in the order of their starts. -/
def overlapsOf (areas : List SmapsArea) (range : AddressRange) : List SmapsRangeOverlap :=
  Interval.sortByKey SmapsRangeOverlap.lo (areas.filterMap (overlapWith range))

/-- The cursor and the covered bytes after the loop over the overlaps. -/
def coverLoop (cursor coveredBytes : UInt64) : List SmapsRangeOverlap → UInt64 × UInt64
  | [] => (cursor, coveredBytes)
  | overlap :: rest =>
    if cursor < overlap.overlapStart then (cursor, coveredBytes)
    else
      let newlyCoveredStart := max cursor overlap.overlapStart
      if newlyCoveredStart < overlap.overlapEnd then
        coverLoop overlap.overlapEnd
          (saturatingAdd coveredBytes (overlap.overlapEnd - newlyCoveredStart)) rest
      else coverLoop cursor coveredBytes rest

/-- `n % size == 0`, for a size that is one. -/
def aligned (size n : UInt64) : Bool := 0 < size && n % size == 0

/-- A list of overlaps that is not empty, each with the property. -/
def everyOverlap (overlaps : List SmapsRangeOverlap) (p : SmapsRangeOverlap → Bool) : Bool :=
  !overlaps.isEmpty && overlaps.all p

/-- `verify_base_page_scope`. -/
def verifyBasePageScope (smaps : String) (range : AddressRange) (hostPageSize : UInt64)
    (requireNonMergeable : Bool) : BasePageScopeEvidence :=
  let overlaps := overlapsOf (parseSmapsAreas smaps) range
  let startAligned := aligned hostPageSize range.start
  let endAligned := aligned hostPageSize range.end_
  let lengthAligned := aligned hostPageSize range.len
  let (cursor, coveredBytes) := coverLoop range.start 0 overlaps
  let fullCoverage := range.isValid && range.end_ ≤ cursor && coveredBytes == range.len
  let noHugepage := everyOverlap overlaps fun o => o.hasFlag "nh"
  let nonMergeable := everyOverlap overlaps fun o => !o.hasFlag "mg"
  let basePageSizes := everyOverlap overlaps fun o => o.hasPageSize hostPageSize
  let anonHugePagesZero := everyOverlap overlaps fun o => o.hasNoHugeBytes
  let failureReasons :=
    refusals
      [(!(startAligned && endAligned && lengthAligned), "owned_range_not_page_aligned"),
        (!fullCoverage, "smaps_range_coverage_gap"),
        (!basePageSizes, "base_page_size_mismatch"),
        (!anonHugePagesZero, "anon_huge_pages_nonzero_or_missing"),
        (!noHugepage, "nohugepage_flag_missing"),
        (requireNonMergeable && !nonMergeable, "mergeable_before_audit")]
  { range
    hostPageSize
    startAligned
    endAligned
    lengthAligned
    coveredBytes
    fullCoverage
    noHugepage
    nonMergeable
    basePageSizes
    anonHugePagesZero
    overlaps
    passed := failureReasons.isEmpty
    failureReasons }

/-! ## §2 What the sweep over the overlaps decides -/

section Coverage

variable {areas : List SmapsArea} {range : AddressRange}

theorem mem_overlapsOf {overlap : SmapsRangeOverlap} :
    overlap ∈ overlapsOf areas range ↔ ∃ area ∈ areas, overlapWith range area = some overlap := by
  simp [overlapsOf]

/-- An area has an overlap when it shares an address with the range, and the overlap is what
    they share. -/
theorem overlapWith_eq_some {area : SmapsArea} {overlap : SmapsRangeOverlap}
    (h : overlapWith range area = some overlap) :
    area.Overlaps range ∧
      overlap.lo = max area.range.start.toNat range.start.toNat ∧
      overlap.hi = min area.range.end_.toNat range.end_.toNat := by
  unfold overlapWith at h
  dsimp only at h
  split at h
  · next hlt =>
    rw [UInt64.lt_iff_toNat_lt, toNat_max, toNat_min] at hlt
    cases h
    exact ⟨SmapsArea.overlaps_iff.2 hlt, toNat_max _ _, toNat_min _ _⟩
  · cases h

section Attributes

variable {area : SmapsArea} {overlap : SmapsRangeOverlap}
  (h : overlapWith range area = some overlap)
include h

/-- The overlap carries the attributes of its area. -/
theorem overlapWith_attributes : overlap.kernelPageSizeBytes = area.kernelPageSizeBytes ∧
    overlap.mmuPageSizeBytes = area.mmuPageSizeBytes ∧
    overlap.anonHugePagesBytes = area.anonHugePagesBytes ∧ overlap.vmFlags = area.vmFlags := by
  unfold overlapWith at h
  dsimp only at h
  split at h
  · cases h
    exact ⟨rfl, rfl, rfl, rfl⟩
  · cases h

theorem hasPageSize_iff {pageSize : UInt64} : overlap.hasPageSize pageSize = true ↔
    area.kernelPageSizeBytes = some pageSize ∧ area.mmuPageSizeBytes = some pageSize := by
  obtain ⟨hkernel, hmmu, -, -⟩ := overlapWith_attributes h
  simp [SmapsRangeOverlap.hasPageSize, hkernel, hmmu]

theorem hasNoHugeBytes_iff : overlap.hasNoHugeBytes = true ↔
    area.anonHugePagesBytes = some 0 := by
  obtain ⟨-, -, hanon, -⟩ := overlapWith_attributes h
  simp [SmapsRangeOverlap.hasNoHugeBytes, hanon]

theorem hasFlag_iff {flag : String} : overlap.hasFlag flag = true ↔ flag ∈ area.vmFlags := by
  obtain ⟨-, -, -, hflags⟩ := overlapWith_attributes h
  simp [SmapsRangeOverlap.hasFlag, hflags]

theorem not_hasFlag_iff {flag : String} :
    (!overlap.hasFlag flag) = true ↔ flag ∉ area.vmFlags := by
  rw [Bool.not_eq_true', ← Bool.not_eq_true, hasFlag_iff h]

end Attributes

theorem overlapWith_of_overlaps {area : SmapsArea} (h : area.Overlaps range) :
    ∃ overlap, overlapWith range area = some overlap := by
  have hlt : max area.range.start range.start < min area.range.end_ range.end_ := by
    rw [UInt64.lt_iff_toNat_lt, toNat_max, toNat_min]
    exact SmapsArea.overlaps_iff.1 h
  exact ⟨_, if_pos hlt⟩

/-- The overlaps cover what the areas cover of the range. -/
theorem union_overlapsOf :
    Interval.union SmapsRangeOverlap.lo SmapsRangeOverlap.hi (overlapsOf areas range) =
      mapped areas ∩ range.bytes := by
  ext x
  constructor
  · rintro ⟨overlap, hmem, hx⟩
    obtain ⟨area, harea, hoverlap⟩ := mem_overlapsOf.1 hmem
    obtain ⟨-, hlo, hhi⟩ := overlapWith_eq_some hoverlap
    rw [hlo, hhi, ← Set.Ico_inter_Ico] at hx
    exact ⟨⟨area, harea, hx.1⟩, hx.2⟩
  · rintro ⟨⟨area, harea, hx⟩, hrange⟩
    have hoverlaps : area.Overlaps range := ⟨x, hx, hrange⟩
    obtain ⟨overlap, hoverlap⟩ := overlapWith_of_overlaps hoverlaps
    obtain ⟨-, hlo, hhi⟩ := overlapWith_eq_some hoverlap
    refine ⟨overlap, mem_overlapsOf.2 ⟨area, harea, hoverlap⟩, ?_⟩
    rw [hlo, hhi, ← Set.Ico_inter_Ico]
    exact ⟨hx, hrange⟩

theorem overlapsOf_sorted : (overlapsOf areas range).Pairwise fun a b => a.lo ≤ b.lo :=
  Interval.sortByKey_sorted _ _

/-- **The loop is the sweep**, and it counts what the cursor moves over. -/
theorem coverLoop_eq {start cursor coveredBytes : UInt64} (l : List SmapsRangeOverlap)
    (hcursor : start.toNat ≤ cursor.toNat)
    (hcovered : coveredBytes.toNat = cursor.toNat - start.toNat) :
    (coverLoop cursor coveredBytes l).1.toNat =
        Interval.sweep SmapsRangeOverlap.lo SmapsRangeOverlap.hi cursor.toNat l ∧
      (coverLoop cursor coveredBytes l).2.toNat =
        (coverLoop cursor coveredBytes l).1.toNat - start.toNat := by
  induction l generalizing cursor coveredBytes with
  | nil => exact ⟨rfl, hcovered⟩
  | cons overlap rest ih =>
    by_cases hgap : cursor < overlap.overlapStart
    · have hlo : cursor.toNat < overlap.lo := UInt64.lt_iff_toNat_lt.1 hgap
      simp [coverLoop, Interval.sweep, hgap, hlo, hcovered]
    · have hlo : ¬ cursor.toNat < overlap.lo := fun h => hgap (UInt64.lt_iff_toNat_lt.2 h)
      -- the area starts at the cursor or before it
      have hmax : max cursor overlap.overlapStart = cursor := by
        rw [← UInt64.toNat_inj, toNat_max]
        exact Nat.max_eq_left (Nat.not_lt.1 hlo)
      rw [coverLoop, Interval.sweep, if_neg hgap, if_neg hlo, hmax]
      by_cases hmore : cursor < overlap.overlapEnd
      · have hhi : cursor.toNat < overlap.hi := UInt64.lt_iff_toNat_lt.1 hmore
        have hend : overlap.hi < 2 ^ 64 := overlap.overlapEnd.toNat_lt
        have hsub : (overlap.overlapEnd - cursor).toNat = overlap.hi - cursor.toNat :=
          UInt64.toNat_sub_of_le _ _ (UInt64.le_iff_toNat_le.2 hhi.le)
        simp only [hmore, if_true, Nat.max_eq_right hhi.le]
        apply ih
        · exact hcursor.trans hhi.le
        · -- the new bytes lie between the old cursor and the new one
          have hnew : overlap.overlapEnd.toNat = overlap.hi := rfl
          rw [toNat_saturatingAdd, hsub]
          omega
      · -- an area that is behind the cursor already moves nothing
        have hhi : overlap.hi ≤ cursor.toNat :=
          Nat.not_lt.1 fun h => hmore (UInt64.lt_iff_toNat_lt.2 h)
        simp only [hmore, if_false, Nat.max_eq_left hhi]
        exact ih hcursor hcovered

/-- The loop has reached the end, and counted the length, exactly when the range is covered. -/
theorem coverLoop_complete (hvalid : range.isValid = true) :
    range.end_ ≤ (coverLoop range.start 0 (overlapsOf areas range)).1 ∧
      (coverLoop range.start 0 (overlapsOf areas range)).2 = range.len ↔
      range.bytes ⊆ mapped areas := by
  rw [AddressRange.isValid_iff] at hvalid
  obtain ⟨hcursor, hcovered⟩ := coverLoop_eq (overlapsOf areas range) (le_refl range.start.toNat)
    (show (0 : UInt64).toNat = range.start.toNat - range.start.toNat by simp)
  have hbelow : (coverLoop range.start 0 (overlapsOf areas range)).1.toNat ≤ range.end_.toNat := by
    rw [hcursor]
    apply Interval.sweep_le _ _ hvalid.le
    intro overlap hoverlap
    obtain ⟨area, -, harea⟩ := mem_overlapsOf.1 hoverlap
    rw [(overlapWith_eq_some harea).2.2]
    exact Nat.min_le_right _ _
  have hsweep : range.end_.toNat ≤ (coverLoop range.start 0 (overlapsOf areas range)).1.toNat ↔
      range.bytes ⊆ mapped areas ∩ range.bytes := by
    rw [hcursor, ← union_overlapsOf]
    exact Interval.le_sweep_iff _ _ overlapsOf_sorted
  rw [Set.subset_inter_iff, and_iff_left (Set.Subset.refl range.bytes)] at hsweep
  rw [← hsweep, UInt64.le_iff_toNat_le, ← UInt64.toNat_inj, hcovered, AddressRange.len,
    toNat_saturatingSub]
  omega

/-- Over a range that is covered there are overlaps, so a property of all is one of each area
    that overlaps. -/
theorem everyOverlap_iff (hvalid : range.isValid = true) (hcover : range.bytes ⊆ mapped areas)
    {p : SmapsRangeOverlap → Bool} {q : SmapsArea → Prop}
    (hpq : ∀ area overlap, overlapWith range area = some overlap → (p overlap = true ↔ q area)) :
    everyOverlap (overlapsOf areas range) p = true ↔
      ∀ area ∈ areas, area.Overlaps range → q area := by
  have hne : overlapsOf areas range ≠ [] := by
    have hstart : range.start.toNat ∈ range.bytes :=
      ⟨le_refl _, AddressRange.isValid_iff.1 hvalid⟩
    obtain ⟨area, harea, hx⟩ := hcover hstart
    have hoverlaps : area.Overlaps range := ⟨_, hx, hstart⟩
    obtain ⟨overlap, hoverlap⟩ := overlapWith_of_overlaps hoverlaps
    exact List.ne_nil_of_mem (mem_overlapsOf.2 ⟨area, harea, hoverlap⟩)
  simp only [everyOverlap, Bool.and_eq_true, Bool.not_eq_true', List.isEmpty_eq_false_iff, ne_eq,
    hne, not_false_eq_true, true_and, List.all_eq_true, mem_overlapsOf]
  constructor
  · intro h area harea hoverlaps
    obtain ⟨overlap, hoverlap⟩ := overlapWith_of_overlaps hoverlaps
    exact (hpq area overlap hoverlap).1 (h overlap ⟨area, harea, hoverlap⟩)
  · rintro h overlap ⟨area, harea, hoverlap⟩
    exact (hpq area overlap hoverlap).2 (h area harea (overlapWith_eq_some hoverlap).1)

end Coverage

/-! ## §3 What the base-page check decides -/

/-- The range begins and ends at a page. -/
def PageAligned (range : AddressRange) (pageSize : UInt64) : Prop :=
  0 < pageSize.toNat ∧ pageSize.toNat ∣ range.start.toNat ∧ pageSize.toNat ∣ range.end_.toNat

/-- The area is made of base pages, and stays so. -/
structure BasePages (area : SmapsArea) (pageSize : UInt64) : Prop where
  kernel : area.kernelPageSizeBytes = some pageSize
  mmu : area.mmuPageSizeBytes = some pageSize
  noHugeBytes : area.anonHugePagesBytes = some 0
  noHugepage : "nh" ∈ area.vmFlags

theorem aligned_iff {size n : UInt64} :
    aligned size n = true ↔ 0 < size.toNat ∧ size.toNat ∣ n.toNat := by
  simp [aligned, UInt64.lt_iff_toNat_lt, ← UInt64.toNat_inj, Nat.dvd_iff_mod_eq_zero]

theorem aligned_range_iff {range : AddressRange} {size : UInt64} :
    (aligned size range.start && aligned size range.end_ && aligned size range.len) = true ↔
      PageAligned range size := by
  simp only [Bool.and_eq_true, aligned_iff, PageAligned, AddressRange.len, toNat_saturatingSub]
  constructor
  · rintro ⟨⟨hstart, hend⟩, -⟩
    exact ⟨hstart.1, hstart.2, hend.2⟩
  · rintro ⟨hpos, hstart, hend⟩
    exact ⟨⟨⟨hpos, hstart⟩, hpos, hend⟩, hpos, Nat.dvd_sub hend hstart⟩

theorem fullCoverage_iff (smaps : String) (range : AddressRange) (pageSize : UInt64)
    (requireNonMergeable : Bool) :
    (verifyBasePageScope smaps range pageSize requireNonMergeable).fullCoverage = true ↔
      range.isValid = true ∧ range.bytes ⊆ mapped (parseSmapsAreas smaps) := by
  simp only [verifyBasePageScope, Bool.and_eq_true, decide_eq_true_eq, beq_iff_eq, and_assoc]
  exact and_congr_right fun hvalid => coverLoop_complete hvalid

/-- The list of reasons is empty when each check holds. -/
theorem passed_iff (smaps : String) (range : AddressRange) (pageSize : UInt64)
    (requireNonMergeable : Bool) :
    (verifyBasePageScope smaps range pageSize requireNonMergeable).passed = true ↔
      PageAligned range pageSize ∧
        (verifyBasePageScope smaps range pageSize requireNonMergeable).fullCoverage = true ∧
        let overlaps := overlapsOf (parseSmapsAreas smaps) range
        everyOverlap overlaps (fun o => o.hasPageSize pageSize) = true ∧
        everyOverlap overlaps (fun o => o.hasNoHugeBytes) = true ∧
        everyOverlap overlaps (fun o => o.hasFlag "nh") = true ∧
        (requireNonMergeable = true →
          everyOverlap overlaps (fun o => !o.hasFlag "mg") = true) := by
  rw [← aligned_range_iff]
  simp only [verifyBasePageScope, List.isEmpty_iff, refusals_eq_nil, List.mem_cons,
    List.not_mem_nil, or_false, forall_eq_or_imp, forall_eq, Bool.not_eq_false']
  cases requireNonMergeable <;> simp

/-- **The base-page check is exact**: it reports full coverage for the ranges that have an
    address and whose addresses are all mapped, and passes those that moreover are aligned and
    overlap areas of base pages only, none of them mergeable if that is asked for. -/
theorem verifyBasePageScope_exact (smaps : String) (range : AddressRange) (pageSize : UInt64)
    (requireNonMergeable : Bool) :
    ((verifyBasePageScope smaps range pageSize requireNonMergeable).fullCoverage = true ↔
      range.isValid = true ∧ range.bytes ⊆ mapped (parseSmapsAreas smaps)) ∧
    ((verifyBasePageScope smaps range pageSize requireNonMergeable).passed = true ↔
      PageAligned range pageSize ∧
      (range.isValid = true ∧ range.bytes ⊆ mapped (parseSmapsAreas smaps)) ∧
      ∀ area ∈ parseSmapsAreas smaps, area.Overlaps range →
        BasePages area pageSize ∧ (requireNonMergeable = true → "mg" ∉ area.vmFlags)) := by
  have hcoverage := fullCoverage_iff smaps range pageSize requireNonMergeable
  refine ⟨hcoverage, ?_⟩
  rw [← hcoverage]
  rw [passed_iff]
  refine and_congr_right fun _ => and_congr_right fun hfull => ?_
  obtain ⟨hvalid, hcover⟩ := hcoverage.1 hfull
  -- each of the four checks is one of the areas that overlap
  dsimp only
  rw [everyOverlap_iff hvalid hcover fun area overlap h => hasPageSize_iff h,
    everyOverlap_iff hvalid hcover fun area overlap h => hasNoHugeBytes_iff h,
    everyOverlap_iff hvalid hcover fun area overlap h => hasFlag_iff h,
    everyOverlap_iff hvalid hcover fun area overlap h => not_hasFlag_iff h]
  constructor
  · rintro ⟨hs, ha, hn, hm⟩ area harea hoverlaps
    obtain ⟨hkernel, hmmu⟩ := hs area harea hoverlaps
    exact ⟨⟨hkernel, hmmu, ha area harea hoverlaps, hn area harea hoverlaps⟩,
      fun hrequire => hm hrequire area harea hoverlaps⟩
  · intro h
    exact ⟨fun area harea ho => ⟨(h area harea ho).1.kernel, (h area harea ho).1.mmu⟩,
      fun area harea ho => (h area harea ho).1.noHugeBytes,
      fun area harea ho => (h area harea ho).1.noHugepage,
      fun hrequire area harea ho => (h area harea ho).2 hrequire⟩

/-- Two pages that may be merged, and are base pages otherwise. -/
def mergeableArea : String :=
  "1000-3000 rw-p 00000000 00:00 0\nKernelPageSize: 4 kB\nMMUPageSize: 4 kB\n" ++
    "AnonHugePages: 0 kB\nVmFlags: rd wr nh mg\n"

theorem parse_mergeableArea : parseSmapsAreas mergeableArea =
    [({ SmapsArea.blank ⟨0x1000, 0x3000⟩ with
      kernelPageSizeBytes := some 4096
      mmuPageSizeBytes := some 4096
      anonHugePagesBytes := some 0 }).withFlags ["rd", "wr", "nh", "mg"]] := by
  decide +kernel

/-- An empty range is not reported as covered although it has no address that is not mapped, and
    a range of a mergeable area passes unless it is asked not to be mergeable. -/
theorem verifyBasePageScope_limits :
    ((verifyBasePageScope mergeableArea ⟨0x2000, 0x2000⟩ 4096 true).fullCoverage = false ∧
      AddressRange.bytes ⟨0x2000, 0x2000⟩ ⊆ mapped (parseSmapsAreas mergeableArea)) ∧
    (verifyBasePageScope mergeableArea ⟨0x1000, 0x3000⟩ 4096 false).passed = true ∧
    ∃ area ∈ parseSmapsAreas mergeableArea, area.Overlaps ⟨0x1000, 0x3000⟩ ∧
      "mg" ∈ area.vmFlags := by
  simp only [verifyBasePageScope, parse_mergeableArea, SmapsArea.overlaps_iff]
  refine ⟨⟨by decide +kernel, by simp [AddressRange.bytes]⟩, by decide +kernel, ?_⟩
  decide +kernel

end Nemor.Ksm
