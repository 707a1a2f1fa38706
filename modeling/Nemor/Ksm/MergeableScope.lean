import Mathlib.Algebra.Order.BigOperators.Group.List
import Mathlib.Algebra.Order.Group.Nat
import Mathlib.Order.CompletePartialOrder
import Mathlib.Order.Interval.Set.Disjoint
import Nemor.Ksm.Scope

/-!
# KSM: the check that exactly one range is mergeable

`verifyExactMergeableScope` sweeps four times over the areas that meet a range and adds up the
mergeable bytes outside the duplicate range. Over areas that are disjoint, and have an address
each, the four sweeps agree with each other and the sum cannot overflow. A header with an empty
range is an area to the sweep as well: inside the range it fails a check that no byte fails.
-/

namespace Nemor.Ksm

open MachineNumbers U64

/-! ## §1 The check -/

/-- The loop over the areas that are relevant to a range, in the order of their starts. -/
def coverWith (requested : AddressRange) (predicate : SmapsArea → Bool) :
    UInt64 → List SmapsArea → Bool
  | _, [] => false
  | cursor, area :: rest =>
    if cursor < area.range.start || !predicate area then false
    else
      let cursor := max cursor (min area.range.end_ requested.end_)
      if cursor = requested.end_ then true else coverWith requested predicate cursor rest

/-- The area has an address of the range. -/
def isRelevant (requested : AddressRange) (area : SmapsArea) : Bool :=
  requested.start < area.range.end_ && area.range.start < requested.end_

/-- The relevant areas by their addresses. -/
def relevantAreas (requested : AddressRange) (areas : List SmapsArea) : List SmapsArea :=
  Interval.sortByKey (fun area => area.range.start.toNat) (areas.filter (isRelevant requested))

/-- The areas cover the range without a gap, and each has the property. -/
def fullyCoveredWith (requested : AddressRange) (areas : List SmapsArea)
    (predicate : SmapsArea → Bool) : Bool :=
  if requested.isValid then
    coverWith requested predicate requested.start (relevantAreas requested areas)
  else false

/-- What was found of the two ranges. -/
structure MergeableScopeEvidence where
  duplicateFullyMergeable : Bool
  duplicateFullyNohugepage : Bool
  controlFullyNonMergeable : Bool
  controlFullyNohugepage : Bool
  unexpectedMergeableBytes : UInt64
  passed : Bool
  deriving DecidableEq

/-- The bytes of an area outside the duplicate range. -/
def bytesOutside (duplicate : AddressRange) (area : SmapsArea) : UInt64 :=
  saturatingSub area.range.len
    (saturatingSub (min area.range.end_ duplicate.end_) (max area.range.start duplicate.start))

/-- `none` is the overflow of the sum. -/
def verifyExactMergeableScope (smaps : String) (duplicate control : AddressRange) :
    Option MergeableScopeEvidence := do
  let areas := parseSmapsAreas smaps
  let duplicateFullyMergeable := fullyCoveredWith duplicate areas fun area => area.mergeable
  let duplicateFullyNohugepage := fullyCoveredWith duplicate areas fun area => area.noHugepage
  let controlFullyNonMergeable := fullyCoveredWith control areas fun area => !area.mergeable
  let controlFullyNohugepage := fullyCoveredWith control areas fun area => area.noHugepage
  let unexpectedMergeableBytes ←
    U64.sum ((areas.filter fun area => area.mergeable).map (bytesOutside duplicate))
  return {
    duplicateFullyMergeable
    duplicateFullyNohugepage
    controlFullyNonMergeable
    controlFullyNohugepage
    unexpectedMergeableBytes
    passed := duplicateFullyMergeable && duplicateFullyNohugepage && controlFullyNonMergeable &&
      controlFullyNohugepage && unexpectedMergeableBytes == 0 }

/-! ## §2 Disjoint areas -/

/-- The areas have an address each, and none in common. -/
structure Apart (areas : List SmapsArea) : Prop where
  valid : ∀ area ∈ areas, area.range.isValid = true
  disjoint : areas.Pairwise fun a b => Disjoint a.bytes b.bytes

section Apart

variable {areas : List SmapsArea} (h : Apart areas) {requested : AddressRange}
include h

theorem Apart.lt {area : SmapsArea} (harea : area ∈ areas) :
    area.range.start.toNat < area.range.end_.toNat :=
  AddressRange.isValid_iff.1 (h.valid area harea)

/-- Areas that share an address are the same. -/
theorem Apart.eq_of_mem {a b : SmapsArea} (ha : a ∈ areas) (hb : b ∈ areas) {x : ℕ}
    (hxa : x ∈ a.bytes) (hxb : x ∈ b.bytes) : a = b := by
  by_contra hne
  have : Std.Symm fun a b : SmapsArea => Disjoint a.bytes b.bytes := ⟨fun _ _ hd => hd.symm⟩
  exact Set.disjoint_left.1 (h.disjoint.forall ha hb hne) hxa hxb

/-- The relevant areas are those that overlap the range. -/
theorem Apart.mem_relevantAreas (hrequested : requested.isValid = true) {area : SmapsArea} :
    area ∈ relevantAreas requested areas ↔ area ∈ areas ∧ area.Overlaps requested := by
  simp only [relevantAreas, Interval.mem_sortByKey, List.mem_filter, isRelevant, Bool.and_eq_true,
    decide_eq_true_eq, UInt64.lt_iff_toNat_lt, SmapsArea.overlaps_iff]
  refine and_congr_right fun harea => ?_
  have hlt := h.lt harea
  have hvalid := AddressRange.isValid_iff.1 hrequested
  omega

/-- In the order of their starts, each area ends before the next one starts. -/
theorem Apart.relevantAreas_apart : (relevantAreas requested areas).Pairwise fun a b =>
    a.range.end_.toNat ≤ b.range.start.toNat := by
  have hsorted := Interval.sortByKey_sorted (fun area : SmapsArea => area.range.start.toNat)
    (areas.filter (isRelevant requested))
  have hperm := Interval.sortByKey_perm (fun area : SmapsArea => area.range.start.toNat)
    (areas.filter (isRelevant requested))
  have hdisjoint : (relevantAreas requested areas).Pairwise fun a b =>
      Disjoint a.bytes b.bytes :=
    (hperm.symm.pairwise_iff fun {_ _} hd => hd.symm).1 (h.disjoint.filter _)
  refine List.Pairwise.imp_of_mem ?_ (hsorted.and hdisjoint)
  rintro a b ha hb ⟨hle, hd⟩
  by_contra hlt
  have hb' : b ∈ areas := (List.mem_filter.1 ((Interval.mem_sortByKey _).1 hb)).1
  -- the start of the second would be an address of both
  exact Set.disjoint_left.1 hd ⟨hle, Nat.not_le.1 hlt⟩ ⟨le_refl _, h.lt hb'⟩

omit h in
theorem coverWith_eq (predicate : SmapsArea → Bool) (cursor : UInt64) (l : List SmapsArea) :
    coverWith requested predicate cursor l =
      Interval.sweepAll (fun a : SmapsArea => a.range.start.toNat) (fun a => a.range.end_.toNat)
        requested.end_.toNat predicate cursor.toNat l := by
  induction l generalizing cursor with
  | nil => rfl
  | cons area rest ih =>
    simp only [coverWith, Interval.sweepAll, UInt64.lt_iff_toNat_lt, ← UInt64.toNat_inj, toNat_max,
      toNat_min, ih]

/-- **The sweep with a property**: it finds that the range is mapped, and that each area that
    overlaps it has the property. -/
theorem Apart.fullyCoveredWith_iff (hrequested : requested.isValid = true)
    (predicate : SmapsArea → Bool) :
    fullyCoveredWith requested areas predicate = true ↔ requested.bytes ⊆ mapped areas ∧
      ∀ area ∈ areas, area.Overlaps requested → predicate area = true := by
  have hmem : ∀ area, area ∈ relevantAreas requested areas ↔
      area ∈ areas ∧ area.Overlaps requested := fun _ => h.mem_relevantAreas hrequested
  have hoverlap : ∀ area ∈ relevantAreas requested areas,
      max area.range.start.toNat requested.start.toNat <
        min area.range.end_.toNat requested.end_.toNat :=
    fun area harea => SmapsArea.overlaps_iff.1 ((hmem area).1 harea).2
  rw [fullyCoveredWith, if_pos hrequested, coverWith_eq, Interval.sweepAll_iff _ _
    h.relevantAreas_apart]
  · refine and_congr ⟨fun hcover x hx => ?_, fun hcover x hx => ?_⟩ ?_
    · obtain ⟨area, harea, hxa⟩ := hcover hx
      exact ⟨area, ((hmem area).1 harea).1, hxa⟩
    · obtain ⟨area, harea, hxa⟩ := hcover hx
      exact ⟨area, (hmem area).2 ⟨harea, x, hxa, hx⟩, hxa⟩
    · simp only [hmem, and_imp]
  · exact fun area harea => h.lt ((hmem area).1 harea).1
  · intro area harea
    have := hoverlap area harea
    omega
  · intro area harea
    have := hoverlap area harea
    omega
  · exact AddressRange.isValid_iff.1 hrequested

omit h in
theorem toNat_bytesOutside (duplicate : AddressRange) (area : SmapsArea) :
    (bytesOutside duplicate area).toNat = (area.range.end_.toNat - area.range.start.toNat) -
      (min area.range.end_.toNat duplicate.end_.toNat -
        max area.range.start.toNat duplicate.start.toNat) := by
  simp only [bytesOutside, AddressRange.len, toNat_saturatingSub, toNat_min, toNat_max]

/-- No byte is outside when the area lies in the range. -/
theorem Apart.bytesOutside_eq_zero {duplicate : AddressRange} {area : SmapsArea}
    (harea : area ∈ areas) :
    (bytesOutside duplicate area).toNat = 0 ↔ area.bytes ⊆ duplicate.bytes := by
  have hlt := h.lt harea
  rw [toNat_bytesOutside, SmapsArea.bytes, AddressRange.bytes, AddressRange.bytes,
    Set.Ico_subset_Ico_iff hlt]
  omega

/-- The bytes of the areas fit into 64 bits together. -/
theorem Apart.sum_bytesOutside (duplicate : AddressRange) (keep : SmapsArea → Bool) :
    (((areas.filter keep).map (bytesOutside duplicate)).map UInt64.toNat).sum < 2 ^ 64 := by
  have hdisjoint : (areas.filter keep).Pairwise fun a b =>
      Disjoint (Finset.Ico a.range.start.toNat a.range.end_.toNat)
        (Finset.Ico b.range.start.toNat b.range.end_.toNat) := by
    refine (h.disjoint.filter keep).imp fun {a b} hd => ?_
    rw [← Finset.disjoint_coe, Finset.coe_Ico, Finset.coe_Ico]
    exact hd
  have htotal : ((areas.filter keep).map fun a =>
      a.range.end_.toNat - a.range.start.toNat).sum ≤ 2 ^ 64 - 1 - 0 := by
    apply Interval.sum_length_le hdisjoint
    intro a _
    have hend := a.range.end_.toNat_lt
    exact Finset.Ico_subset_Ico (Nat.zero_le _) (by omega)
  have hle : (((areas.filter keep).map (bytesOutside duplicate)).map UInt64.toNat).sum ≤
      ((areas.filter keep).map fun a => a.range.end_.toNat - a.range.start.toNat).sum := by
    rw [List.map_map]
    apply List.sum_le_sum
    intro a _
    rw [Function.comp_apply, toNat_bytesOutside]
    exact Nat.sub_le _ _
  omega

end Apart

/-! ## §3 What the check decides -/

/-- The addresses of the areas with a property. -/
def mappedWith (areas : List SmapsArea) (p : SmapsArea → Prop) : Set ℕ :=
  {x | ∃ area ∈ areas, p area ∧ x ∈ area.bytes}

/-- A range lies inside the areas with a property when it is mapped and overlaps no other. -/
theorem Apart.subset_mappedWith_iff {areas : List SmapsArea} (h : Apart areas)
    {range : AddressRange} {p : SmapsArea → Prop} :
    range.bytes ⊆ mappedWith areas p ↔ range.bytes ⊆ mapped areas ∧
      ∀ area ∈ areas, area.Overlaps range → p area := by
  constructor
  · intro hsubset
    refine ⟨fun x hx => ?_, ?_⟩
    · obtain ⟨area, harea, -, hxa⟩ := hsubset hx
      exact ⟨area, harea, hxa⟩
    · rintro area harea ⟨x, hxa, hx⟩
      obtain ⟨other, hother, hp, hxo⟩ := hsubset hx
      rw [h.eq_of_mem harea hother hxa hxo]
      exact hp
  · rintro ⟨hmapped, hall⟩ x hx
    obtain ⟨area, harea, hxa⟩ := hmapped hx
    exact ⟨area, harea, hall area harea ⟨x, hxa, hx⟩, hxa⟩

/-- A byte of a mergeable area outside the duplicate range is counted. -/
theorem Apart.mergeable_subset_iff {areas : List SmapsArea} (h : Apart areas)
    {duplicate : AddressRange} :
    (((areas.filter fun area => area.mergeable).map (bytesOutside duplicate)).map
        UInt64.toNat).sum = 0 ↔
      mappedWith areas (fun area => "mg" ∈ area.vmFlags) ⊆ duplicate.bytes := by
  rw [List.sum_eq_zero_iff, List.map_map]
  simp only [List.forall_mem_map, List.mem_filter, and_imp, Function.comp_apply]
  constructor
  · rintro hzero x ⟨area, harea, hflag, hx⟩
    have hmergeable : area.mergeable = true := by simpa [area.mergeable_eq] using hflag
    exact (h.bytesOutside_eq_zero harea).1 (hzero area harea hmergeable) hx
  · intro hsubset area harea hmergeable
    have hflag : "mg" ∈ area.vmFlags := by simpa [area.mergeable_eq] using hmergeable
    exact (h.bytesOutside_eq_zero harea).2 fun x hx => hsubset ⟨area, harea, hflag, hx⟩

/-- **The mergeable check is exact** over areas that are disjoint and have an address each: it
    returns, and passes when the addresses that are mergeable are those of the duplicate range,
    the control range is mapped by areas that are not, and every area that overlaps one of the
    two carries the flag against huge pages. -/
theorem verifyExactMergeableScope_exact {smaps : String} {duplicate control : AddressRange}
    (h : Apart (parseSmapsAreas smaps)) (hduplicate : duplicate.isValid = true)
    (hcontrol : control.isValid = true) :
    ∃ evidence, verifyExactMergeableScope smaps duplicate control = some evidence ∧
      (evidence.passed = true ↔
        mappedWith (parseSmapsAreas smaps) (fun area => "mg" ∈ area.vmFlags) = duplicate.bytes ∧
        control.bytes ⊆ mappedWith (parseSmapsAreas smaps) (fun area => "mg" ∉ area.vmFlags) ∧
        ∀ area ∈ parseSmapsAreas smaps, area.Overlaps duplicate ∨ area.Overlaps control →
          "nh" ∈ area.vmFlags) := by
  obtain ⟨total, htotal, hsum⟩ := sum_of_lt (h.sum_bytesOutside duplicate fun a => a.mergeable)
  -- no bytes outside: every mergeable area lies within the duplicate
  have hzero : (total == 0) = true ↔
      mappedWith (parseSmapsAreas smaps) (fun area => "mg" ∈ area.vmFlags) ⊆ duplicate.bytes := by
    rw [← h.mergeable_subset_iff, ← hsum, beq_iff_eq, ← UInt64.toNat_inj]
    rfl
  have hmg : ∀ area : SmapsArea, area.mergeable = true ↔ "mg" ∈ area.vmFlags :=
    fun area => by simp [area.mergeable_eq]
  have hnh : ∀ area : SmapsArea, area.noHugepage = true ↔ "nh" ∈ area.vmFlags :=
    fun area => by simp [area.noHugepage_eq]
  refine ⟨_, by simp only [verifyExactMergeableScope, htotal]; rfl, ?_⟩
  simp only [Bool.and_eq_true, h.fullyCoveredWith_iff hduplicate, h.fullyCoveredWith_iff hcontrol,
    hzero, hmg, hnh, Bool.not_eq_true', ← Bool.not_eq_true, Set.Subset.antisymm_iff,
    h.subset_mappedWith_iff]
  constructor
  · rintro ⟨⟨⟨⟨hdup, hdupnh⟩, hctl⟩, hctlnh⟩, hout⟩
    refine ⟨⟨hout, hdup⟩, hctl, fun area harea hoverlaps => ?_⟩
    rcases hoverlaps with hoverlaps | hoverlaps
    · exact hdupnh.2 area harea hoverlaps
    · exact hctlnh.2 area harea hoverlaps
  · rintro ⟨⟨hout, hdup⟩, hctl, hall⟩
    exact ⟨⟨⟨⟨hdup, hdup.1, fun area harea ho => hall area harea (.inl ho)⟩, hctl⟩, hctl.1,
      fun area harea ho => hall area harea (.inr ho)⟩, hout⟩

/-! ## §4 Areas without an address -/

theorem disjoint_bytes_iff {a b : SmapsArea} : Disjoint a.bytes b.bytes ↔
    min a.range.end_.toNat b.range.end_.toNat ≤ max a.range.start.toNat b.range.start.toNat :=
  Set.Ico_disjoint_Ico

/-- Two pages that may be merged, and behind a gap two that may not. -/
def scopedSmaps : String :=
  "00001000-00003000 rw-p 00000000 00:00 0\nVmFlags: rd wr mr mw me ac nh mg\n" ++
    "00004000-00006000 rw-p 00000000 00:00 0\nVmFlags: rd wr mr mw me ac nh\n"

/-- One mergeable area for the duplicates, one for the control that is not. -/
def scopedAreas : List SmapsArea :=
  [(SmapsArea.blank ⟨0x1000, 0x3000⟩).withFlags ["rd", "wr", "mr", "mw", "me", "ac", "nh", "mg"],
    (SmapsArea.blank ⟨0x4000, 0x6000⟩).withFlags ["rd", "wr", "mr", "mw", "me", "ac", "nh"]]

theorem parse_scopedSmaps : parseSmapsAreas scopedSmaps = scopedAreas := by
  decide +kernel

theorem verifyExactMergeableScope_exact_scoped :
    (verifyExactMergeableScope scopedSmaps ⟨0x1000, 0x3000⟩ ⟨0x4000, 0x6000⟩).any
      (fun evidence => evidence.passed) = true ∧
    ∃ evidence,
      verifyExactMergeableScope scopedSmaps ⟨0x1000, 0x3000⟩ ⟨0x4000, 0x6000⟩ = some evidence ∧
      (evidence.passed = true ↔
        mappedWith (parseSmapsAreas scopedSmaps) (fun area => "mg" ∈ area.vmFlags) =
          AddressRange.bytes ⟨0x1000, 0x3000⟩ ∧
        AddressRange.bytes ⟨0x4000, 0x6000⟩ ⊆
          mappedWith (parseSmapsAreas scopedSmaps) (fun area => "mg" ∉ area.vmFlags) ∧
        ∀ area ∈ parseSmapsAreas scopedSmaps,
          area.Overlaps ⟨0x1000, 0x3000⟩ ∨ area.Overlaps ⟨0x4000, 0x6000⟩ →
            "nh" ∈ area.vmFlags) := by
  have hapart : Apart (parseSmapsAreas scopedSmaps) := by
    rw [parse_scopedSmaps]
    refine ⟨by decide +kernel, ?_⟩
    simp only [disjoint_bytes_iff]
    decide +kernel
  refine ⟨?_, verifyExactMergeableScope_exact hapart (by decide) (by decide)⟩
  simp only [verifyExactMergeableScope, parse_scopedSmaps]
  decide +kernel

/-- The same, with a header of an empty range inside the control range. -/
def splitSmaps : String :=
  "1000-3000 rw-p\nVmFlags: nh mg\n4000-5000 rw-p\nVmFlags: nh\n5000-5000 rw-p\n" ++
    "5000-6000 rw-p\nVmFlags: nh\n"

/-- The control lies in two areas, and an empty one is listed. -/
def splitAreas : List SmapsArea :=
  [(SmapsArea.blank ⟨0x1000, 0x3000⟩).withFlags ["nh", "mg"],
    (SmapsArea.blank ⟨0x4000, 0x5000⟩).withFlags ["nh"],
    SmapsArea.blank ⟨0x5000, 0x5000⟩,
    (SmapsArea.blank ⟨0x5000, 0x6000⟩).withFlags ["nh"]]

theorem parse_splitSmaps : parseSmapsAreas splitSmaps = splitAreas := by
  decide +kernel

/-- An area without an address is disjoint from all others and overlaps nothing, yet the check
    refuses the ranges because of it. -/
theorem verifyExactMergeableScope_empty_area :
    ((parseSmapsAreas splitSmaps).Pairwise fun a b => Disjoint a.bytes b.bytes) ∧
    (verifyExactMergeableScope splitSmaps ⟨0x1000, 0x3000⟩ ⟨0x4000, 0x6000⟩).any
      (fun evidence => evidence.passed) = false ∧
    mappedWith (parseSmapsAreas splitSmaps) (fun area => "mg" ∈ area.vmFlags) =
      AddressRange.bytes ⟨0x1000, 0x3000⟩ ∧
    AddressRange.bytes ⟨0x4000, 0x6000⟩ ⊆
      mappedWith (parseSmapsAreas splitSmaps) (fun area => "mg" ∉ area.vmFlags) ∧
    ∀ area ∈ parseSmapsAreas splitSmaps,
      area.Overlaps ⟨0x1000, 0x3000⟩ ∨ area.Overlaps ⟨0x4000, 0x6000⟩ → "nh" ∈ area.vmFlags := by
  simp only [verifyExactMergeableScope, parse_splitSmaps, disjoint_bytes_iff,
    SmapsArea.overlaps_iff]
  refine ⟨by decide +kernel, by decide +kernel, ?_, ?_, by decide +kernel⟩
  · ext x
    simp [mappedWith, splitAreas, SmapsArea.withFlags, SmapsArea.blank,
      SmapsArea.bytes]
  · rintro x ⟨hstart, hend⟩
    simp [mappedWith, splitAreas, SmapsArea.withFlags, SmapsArea.blank, SmapsArea.bytes,
      AddressRange.bytes] at hstart hend ⊢
    omega

end Nemor.Ksm
