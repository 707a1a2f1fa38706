import Mathlib.Data.List.Destutter
import Mathlib.Data.String.Basic
import Nemor.Damon.Zones
import Nemor.Lib.Text

/-!
# DAMON: what backs a zone

`parseSmapsZone` reads the attribute lines of every memory area that overlaps a zone into one
record. Sizes are added up and flags are collected, but a page size or an eligibility is that of
the last line that states it. `verifyBasePageBacking` then looks at the record only. What it
says of one area is what the record keeps of each: the sum of the huge pages, and the other
fields where the areas agree.
-/

namespace Nemor.Damon

open MachineNumbers U64 Text

/-! ## §1 Reading -/

/-- How the pages of a zone are backed, as `smaps` shows it. -/
structure ZoneBacking where
  start : UInt64
  end_ : UInt64
  rangeSizeBytes : UInt64
  sizeKib : UInt64
  containingVmaSizeKib : UInt64
  rssKib : UInt64
  pssKib : UInt64
  swapKib : UInt64
  kernelPageSizeKib : Option UInt64
  mmuPageSizeKib : Option UInt64
  anonHugePagesKib : UInt64
  thpEligible : Option Bool
  vmFlags : List String
  backing : String
  containingVmaStart : Option UInt64
  containingVmaEnd : Option UInt64
  sharedVma : Bool
  sharedVmaGroup : Option String
  explicitNohugepageRequested : Bool
  explicitNohugepageVerified : Bool
  deriving DecidableEq

namespace ZoneBacking

/-- The record of a range before any line is read. -/
def blank (range : AddressRange) : ZoneBacking where
  start := range.start
  end_ := range.end_
  rangeSizeBytes := saturatingSub range.end_ range.start
  sizeKib := 0
  containingVmaSizeKib := 0
  rssKib := 0
  pssKib := 0
  swapKib := 0
  kernelPageSizeKib := none
  mmuPageSizeKib := none
  anonHugePagesKib := 0
  thpEligible := none
  vmFlags := []
  backing := ""
  containingVmaStart := none
  containingVmaEnd := none
  sharedVma := false
  sharedVmaGroup := none
  explicitNohugepageRequested := false
  explicitNohugepageVerified := false

end ZoneBacking

/-- The range of an area, if the line begins one. -/
def parseSmapsHeader (line : List Char) : Option AddressRange :=
  (hexRange line).map fun (start, end_) => { start, end_ }

/-- The two sides of the first colon; a line without one is a key. -/
def keyOf (line : List Char) : String :=
  String.ofList ((splitOnce ':' line).getD (line, [])).1

/-- What follows the colon. -/
def valueOf (line : List Char) : List Char := ((splitOnce ':' line).getD (line, [])).2

/-- A value in kB. -/
def kib (line : List Char) : Option UInt64 :=
  (splitWhitespace (valueOf line)).head?.bind parseU64

/-- An attribute line of an area that overlaps the zone. -/
def readLine (result : ZoneBacking) (line : List Char) : ZoneBacking :=
  match keyOf line with
  | "Size" => { result with sizeKib := saturatingAdd result.sizeKib ((kib line).getD 0) }
  | "Rss" => { result with rssKib := saturatingAdd result.rssKib ((kib line).getD 0) }
  | "Pss" => { result with pssKib := saturatingAdd result.pssKib ((kib line).getD 0) }
  | "Swap" => { result with swapKib := saturatingAdd result.swapKib ((kib line).getD 0) }
  | "KernelPageSize" => { result with kernelPageSizeKib := kib line }
  | "MMUPageSize" => { result with mmuPageSizeKib := kib line }
  | "AnonHugePages" =>
    { result with
      anonHugePagesKib := saturatingAdd result.anonHugePagesKib ((kib line).getD 0) }
  | "THPeligible" =>
    { result with
      thpEligible :=
        (splitWhitespace (valueOf line)).head?.map fun item => item == "1".toList }
  | "VmFlags" =>
    { result with
      vmFlags := result.vmFlags ++ (splitWhitespace (valueOf line)).map String.ofList }
  | _ => result

/-- The record, the last header, and whether its area overlaps the zone. -/
structure Reading where
  result : ZoneBacking
  current : Option AddressRange
  overlaps : Bool

/-- One line: a new area, or an attribute of the one before. -/
def readSmapsLine (zone : AddressRange) (state : Reading) (line : List Char) : Reading :=
  match parseSmapsHeader line with
  | some range =>
    let overlaps : Bool := 0 < range.overlap zone
    let result :=
      if overlaps && state.result.containingVmaStart.isNone then
        { state.result with
          containingVmaStart := some range.start
          containingVmaEnd := some range.end_ }
      else state.result
    ⟨result, some range, overlaps⟩
  | none =>
    if !state.overlaps || state.current.isNone then state
    else { state with result := readLine state.result line }

/-- Sorted, each flag once. -/
def sortedFlags (flags : List String) : List String :=
  (Interval.sortByKey (fun flag => flag) flags).destutter (· ≠ ·)

/-- What is derived when all lines are read. -/
def ZoneBacking.finish (result : ZoneBacking) : ZoneBacking :=
  { result with
    vmFlags := sortedFlags result.vmFlags
    containingVmaSizeKib := result.sizeKib
    backing :=
      if 0 < result.anonHugePagesKib then
        if result.kernelPageSizeKib = some 4 then "mixed_or_thp" else "thp"
      else if result.kernelPageSizeKib = some 4 ∧ result.mmuPageSizeKib = some 4 then "4k"
      else "unknown" }

/-- Reading never fails. -/
def parseSmapsZone (text : String) (zone : AddressRange) : ZoneBacking :=
  ((lines text.toList).foldl (readSmapsLine zone) ⟨.blank zone, none, false⟩).result.finish

/-- The zones that are looked up. -/
def zoneNames : List String := ["hot", "warm", "cold"]

/-- Pages of 4 KiB, none of them huge, and none to become so. -/
def ZoneBacking.isBasePage (zone : ZoneBacking) : Bool :=
  zone.kernelPageSizeKib == some 4 && zone.mmuPageSizeKib == some 4 &&
    zone.anonHugePagesKib == 0 && zone.explicitNohugepageRequested &&
    zone.explicitNohugepageVerified &&
    (zone.thpEligible == some false || zone.vmFlags.any fun flag => flag == "nh")

/-- All three zones are backed so. -/
def verifyBasePageBacking (backing : String → Option ZoneBacking) : Bool :=
  zoneNames.all fun name => (backing name).any ZoneBacking.isBasePage

/-- What is written into a record between reading and verifying it. -/
structure Marks where
  sharedVma : Bool
  sharedVmaGroup : Option String
  explicitNohugepageRequested : Bool
  explicitNohugepageVerified : Bool

/-- Note whether the zone shares its area with another. -/
def ZoneBacking.mark (zone : ZoneBacking) (marks : Marks) : ZoneBacking :=
  { zone with
    sharedVma := marks.sharedVma
    sharedVmaGroup := marks.sharedVmaGroup
    explicitNohugepageRequested := marks.explicitNohugepageRequested
    explicitNohugepageVerified := marks.explicitNohugepageVerified }

/-- What is marked as verified for a mapping that was asked not to use huge pages. -/
def ZoneBacking.nohugepageVerified (zone : ZoneBacking) : Bool :=
  zone.anonHugePagesKib == 0 &&
    (zone.thpEligible == some false || zone.vmFlags.any fun flag => flag == "nh")

/-! ## §2 The areas of a text -/

/-- A header with the lines up to the next one. -/
structure Vma where
  range : AddressRange
  attributes : List (List Char)

/-- The line is about the area before it. -/
def isAttribute (line : List Char) : Bool := (parseSmapsHeader line).isNone

/-- The areas of a text, each with its attributes. -/
def vmas : List (List Char) → List Vma
  | [] => []
  | line :: rest =>
    match parseSmapsHeader line with
    | some range => ⟨range, rest.takeWhile isAttribute⟩ :: vmas rest
    | none => vmas rest

/-- The areas that a text describes. -/
def vmasOf (text : String) : List Vma := vmas (lines text.toList)

namespace Vma

/-- What the lines of one area say by themselves. -/
def own (vma : Vma) : ZoneBacking := vma.attributes.foldl readLine (.blank vma.range)

/-- The area and the zone share an address. -/
def Overlaps (vma : Vma) (zone : AddressRange) : Prop :=
  (vma.range.bytes ∩ zone.bytes).Nonempty

instance (vma : Vma) (zone : AddressRange) : Decidable (vma.Overlaps zone) :=
  decidable_of_iff (0 < (vma.range.overlap zone).toNat) (by
    rw [AddressRange.toNat_overlap, Finset.card_pos]
    rfl)

theorem overlaps_iff {vma : Vma} {zone : AddressRange} :
    vma.Overlaps zone ↔ 0 < vma.range.overlap zone := by
  rw [UInt64.lt_iff_toNat_lt, AddressRange.toNat_overlap]
  exact Finset.card_pos.symm

end Vma

/-- The lines of the areas that overlap the zone. -/
def relevant (zone : AddressRange) (areas : List Vma) : List (List Char) :=
  (areas.filter fun vma => vma.Overlaps zone).flatMap Vma.attributes

/-! ## §3 What a line leaves of the record -/

namespace ZoneBacking

/-- The record without the first area that overlaps. -/
def forget (zone : ZoneBacking) : ZoneBacking :=
  { zone with containingVmaStart := none, containingVmaEnd := none }

end ZoneBacking

section Lines

variable (b : ZoneBacking) (line : List Char)

theorem readLine_forget : (readLine b line).forget = readLine b.forget line := by
  unfold readLine
  split <;> rfl

/-- The parts of the record that a line sets, adds to or keeps. -/
structure LineRead (r : ZoneBacking) : Prop where
  kernelPageSize : r.kernelPageSizeKib =
    if keyOf line = "KernelPageSize" then kib line else b.kernelPageSizeKib
  mmuPageSize : r.mmuPageSizeKib =
    if keyOf line = "MMUPageSize" then kib line else b.mmuPageSizeKib
  thpEligible : r.thpEligible =
    if keyOf line = "THPeligible" then
      (splitWhitespace (valueOf line)).head?.map fun item => item == "1".toList
    else b.thpEligible
  anonHugePages : r.anonHugePagesKib =
    if keyOf line = "AnonHugePages" then
      saturatingAdd b.anonHugePagesKib ((kib line).getD 0)
    else b.anonHugePagesKib
  vmFlags : r.vmFlags = b.vmFlags ++
    if keyOf line = "VmFlags" then (splitWhitespace (valueOf line)).map String.ofList else []

theorem readLine_spec : LineRead b line (readLine b line) := by
  unfold readLine
  -- one case for each key of the match
  split <;> constructor <;> simp_all

end Lines

/-! ## §4 What the lines of several areas leave -/

/-- A field that a line sets to something of its own or keeps. -/
structure Overwritten {β : Type} (field : ZoneBacking → Option β) : Prop where
  blank : ∀ range, field (.blank range) = none
  line : ∀ line, (∀ b, field (readLine b line) = field b) ∨
    ∃ x, ∀ b, field (readLine b line) = x

namespace Overwritten

variable {β : Type} {field : ZoneBacking → Option β}

theorem of_key {key : String} {read : List Char → Option β}
    (hblank : ∀ range, field (.blank range) = none)
    (h : ∀ b line, field (readLine b line) = if keyOf line = key then read line else field b) :
    Overwritten field := by
  refine ⟨hblank, fun line => ?_⟩
  by_cases hkey : keyOf line = key
  · exact .inr ⟨read line, fun b => by rw [h, if_pos hkey]⟩
  · exact .inl fun b => by rw [h, if_neg hkey]

theorem lines (h : Overwritten field) (l : List (List Char)) :
    (∀ b, field (l.foldl readLine b) = field b) ∨ ∃ x, ∀ b, field (l.foldl readLine b) = x := by
  induction l with
  | nil => exact .inl fun b => rfl
  | cons line rest ih =>
    rcases ih with hkeeps | ⟨x, hx⟩
    · rcases h.line line with hline | ⟨x, hx⟩
      · exact .inl fun b => (hkeeps _).trans (hline b)
      · exact .inr ⟨x, fun b => (hkeeps _).trans (hx b)⟩
    · exact .inr ⟨x, fun b => hx _⟩

/-- **Areas that agree on such a field leave what each of them says.** -/
theorem uniform (h : Overwritten field) {areas : List Vma} {x : Option β} (hne : areas ≠ [])
    (hown : ∀ vma ∈ areas, field vma.own = x) {b : ZoneBacking}
    (hb : field b = none ∨ field b = x) :
    field ((areas.flatMap Vma.attributes).foldl readLine b) = x := by
  induction areas generalizing b with
  | nil => exact absurd rfl hne
  | cons vma rest ih =>
    have hfirst : field (vma.attributes.foldl readLine b) = x := by
      have hvma : field vma.own = x := hown vma (by simp)
      rcases h.lines vma.attributes with hkeeps | ⟨y, hy⟩
      · -- an area that never states the field agrees with the blank record
        rw [Vma.own, hkeeps, h.blank] at hvma
        rw [hkeeps]
        rcases hb with hb | hb
        · rw [hb, hvma]
        · exact hb
      · rw [hy, ← hvma]
        exact (hy _).symm
    rw [List.flatMap_cons, List.foldl_append]
    cases rest with
    | nil => simpa using hfirst
    | cons next others =>
      exact ih (by simp) (fun v hv => hown v (List.mem_cons_of_mem vma hv)) (.inr hfirst)

theorem kernelPageSize : Overwritten ZoneBacking.kernelPageSizeKib :=
  of_key (fun _ => rfl) fun b line => (readLine_spec b line).kernelPageSize

theorem mmuPageSize : Overwritten ZoneBacking.mmuPageSizeKib :=
  of_key (fun _ => rfl) fun b line => (readLine_spec b line).mmuPageSize

theorem thpEligible : Overwritten ZoneBacking.thpEligible :=
  of_key (fun _ => rfl) fun b line => (readLine_spec b line).thpEligible

end Overwritten

/-- Nothing is added up exactly when no line adds anything. -/
theorem anonHugePages_eq_zero_iff (l : List (List Char)) (b : ZoneBacking) :
    (l.foldl readLine b).anonHugePagesKib = 0 ↔ b.anonHugePagesKib = 0 ∧
      ∀ line ∈ l, keyOf line = "AnonHugePages" → (kib line).getD 0 = 0 := by
  induction l generalizing b with
  | nil => simp
  | cons line rest ih =>
    rw [List.foldl_cons, ih, (readLine_spec b line).anonHugePages]
    by_cases hkey : keyOf line = "AnonHugePages"
    · simp only [hkey, if_true, ← UInt64.toNat_inj, toNat_saturatingAdd, List.mem_cons,
        forall_eq_or_imp, forall_const, UInt64.toNat_zero]
      constructor
      · rintro ⟨hsum, hrest⟩
        exact ⟨by omega, by omega, hrest⟩
      · rintro ⟨hb, hline, hrest⟩
        exact ⟨by omega, hrest⟩
    · simp [hkey]

/-- The flags of a line. -/
def flagsOf (line : List Char) : List String :=
  if keyOf line = "VmFlags" then (splitWhitespace (valueOf line)).map String.ofList else []

theorem vmFlags_foldl (l : List (List Char)) (b : ZoneBacking) :
    (l.foldl readLine b).vmFlags = b.vmFlags ++ l.flatMap flagsOf := by
  induction l generalizing b with
  | nil => simp
  | cons line rest ih =>
    rw [List.foldl_cons, ih, (readLine_spec b line).vmFlags, List.flatMap_cons,
      List.append_assoc]
    rfl

/-! ## §5 What the parser leaves -/

theorem relevant_cons (zone : AddressRange) (vma : Vma) (areas : List Vma) :
    relevant zone (vma :: areas) =
      (if 0 < vma.range.overlap zone then vma.attributes else []) ++ relevant zone areas := by
  by_cases h : 0 < vma.range.overlap zone
  · simp [relevant, Vma.overlaps_iff, h]
  · simp [relevant, Vma.overlaps_iff, h]

/-- **The loop reads the lines of the areas that overlap.** -/
theorem foldl_readSmapsLine (zone : AddressRange) (l : List (List Char)) (state : Reading)
    (hcurrent : state.overlaps = true → state.current.isSome = true) :
    (l.foldl (readSmapsLine zone) state).result.forget =
      ((if state.overlaps then l.takeWhile isAttribute else []) ++
        relevant zone (vmas l)).foldl readLine state.result.forget := by
  induction l generalizing state with
  | nil => cases h : state.overlaps <;> simp [vmas, relevant]
  | cons line rest ih =>
    rw [List.foldl_cons]
    cases hheader : parseSmapsHeader line with
    | some range =>
      have hstep : readSmapsLine zone state line = ⟨(readSmapsLine zone state line).result,
          some range, 0 < range.overlap zone⟩ := by
        simp [readSmapsLine, hheader]
      have hforget : (readSmapsLine zone state line).result.forget = state.result.forget := by
        simp only [readSmapsLine, hheader]
        split_ifs <;> rfl
      -- from here on the lines are those of the new area
      have hattribute : isAttribute line = false := by simp [isAttribute, hheader]
      rw [hstep, ih _ (by simp), hforget]
      simp only [vmas, hheader, relevant_cons, List.takeWhile_cons, hattribute, decide_eq_true_eq]
      simp
    | none =>
      have hattribute : isAttribute line = true := by simp [isAttribute, hheader]
      simp only [vmas, hheader, List.takeWhile_cons, hattribute, if_true]
      cases hoverlaps : state.overlaps with
      | false =>
        have hstep : readSmapsLine zone state line = state := by
          simp [readSmapsLine, hheader, hoverlaps]
        rw [hstep, ih state hcurrent, hoverlaps]
        simp
      | true =>
        have hsome : state.current.isNone = false :=
          Option.isNone_eq_false_iff.2 (hcurrent hoverlaps)
        have hstep : readSmapsLine zone state line =
            { state with result := readLine state.result line } := by
          simp only [readSmapsLine, hheader, hoverlaps, hsome]
          rfl
        rw [hstep, ih _ (by simpa using hcurrent)]
        simp [hoverlaps, readLine_forget]

/-- The record that the lines of the overlapping areas leave. -/
def gathered (text : String) (zone : AddressRange) : ZoneBacking :=
  (relevant zone (vmasOf text)).foldl readLine (.blank zone)

/-- The loop, up to the first area that overlaps, which no line looks at. -/
theorem parse_forget (text : String) (zone : AddressRange) :
    ((lines text.toList).foldl (readSmapsLine zone) ⟨.blank zone, none, false⟩).result.forget =
      gathered text zone := by
  rw [foldl_readSmapsLine _ _ _ (by simp)]
  simp [gathered, vmasOf, ZoneBacking.forget, ZoneBacking.blank]

/-- A field that only lines set is that of the gathered record. -/
theorem parse_field {β : Type} {field : ZoneBacking → β} (hforget : ∀ b, field b.forget = field b)
    (hfinish : ∀ b, field b.finish = field b) (text : String) (zone : AddressRange) :
    field (parseSmapsZone text zone) = field (gathered text zone) := by
  rw [← parse_forget, hforget, parseSmapsZone, hfinish]

/-- A flag of the zone is one that an area has. -/
theorem exists_vma_of_flag {text : String} {zone : AddressRange} {flag : String}
    (h : flag ∈ (parseSmapsZone text zone).vmFlags) :
    ∃ vma ∈ vmasOf text, vma.Overlaps zone ∧ flag ∈ vma.own.vmFlags := by
  have hsorted := (List.destutter_sublist _ _).subset h
  have hflag : flag ∈ (gathered text zone).vmFlags := by
    rw [← parse_forget]
    exact (Interval.mem_sortByKey _).1 hsorted
  simp only [gathered, vmFlags_foldl, relevant, ZoneBacking.blank, List.nil_append,
    List.mem_flatMap, List.mem_filter, decide_eq_true_eq] at hflag
  obtain ⟨line, ⟨vma, ⟨hvma, hoverlaps⟩, hline⟩, hflag⟩ := hflag
  refine ⟨vma, hvma, hoverlaps, ?_⟩
  rw [Vma.own, vmFlags_foldl]
  exact List.mem_append_right _ (List.mem_flatMap.2 ⟨line, hline, hflag⟩)

/-- A zone without huge pages has none in any area. -/
theorem anonHugePages_of_parse {text : String} {zone : AddressRange}
    (h : (parseSmapsZone text zone).anonHugePagesKib = 0) :
    ∀ vma ∈ vmasOf text, vma.Overlaps zone → vma.own.anonHugePagesKib = 0 := by
  intro vma hvma hoverlaps
  have hgathered :=
    @parse_field _ ZoneBacking.anonHugePagesKib (fun _ => rfl) (fun _ => rfl) text zone
  rw [hgathered, gathered, anonHugePages_eq_zero_iff] at h
  rw [Vma.own, anonHugePages_eq_zero_iff]
  refine ⟨rfl, fun line hline => h.2 line ?_⟩
  simp only [relevant, List.mem_flatMap, List.mem_filter, decide_eq_true_eq]
  exact ⟨vma, ⟨hvma, hoverlaps⟩, hline⟩

/-! ## §6 What a verified zone says of its areas -/

/-- The areas that overlap the zone have the same value. -/
def Agree {β : Type} (text : String) (zone : AddressRange) (field : ZoneBacking → β) : Prop :=
  ∀ v ∈ vmasOf text, v.Overlaps zone → ∀ w ∈ vmasOf text, w.Overlaps zone →
    field v.own = field w.own

/-- The flag against huge pages. -/
def ZoneBacking.noHugepage (zone : ZoneBacking) : Bool := zone.vmFlags.contains "nh"

/-- What is known of an area that overlaps a verified zone. -/
structure VerifiedArea (text : String) (zone : AddressRange) (vma : Vma) : Prop where
  noHugeBytes : vma.own.anonHugePagesKib = 0
  kernel : Agree text zone ZoneBacking.kernelPageSizeKib → vma.own.kernelPageSizeKib = some 4
  mmu : Agree text zone ZoneBacking.mmuPageSizeKib → vma.own.mmuPageSizeKib = some 4
  noHugepage : Agree text zone ZoneBacking.thpEligible → Agree text zone ZoneBacking.noHugepage →
    vma.own.thpEligible = some false ∨ vma.own.noHugepage = true

section Verified

variable {text : String} {zone : AddressRange} {vma : Vma}

/-- What the areas agree on is what the zone has. -/
theorem parse_of_agree {β : Type} {field : ZoneBacking → Option β} (h : Overwritten field)
    (hforget : ∀ b, field b.forget = field b) (hfinish : ∀ b, field b.finish = field b)
    (hagree : Agree text zone field) (hvma : vma ∈ vmasOf text) (hoverlaps : vma.Overlaps zone) :
    field vma.own = field (parseSmapsZone text zone) := by
  have hmem : vma ∈ (vmasOf text).filter fun vma => vma.Overlaps zone := by
    simp [hvma, hoverlaps]
  have hgathered : field (gathered text zone) = field vma.own := by
    apply h.uniform (List.ne_nil_of_mem hmem)
    · intro v hv
      simp only [List.mem_filter, decide_eq_true_eq] at hv
      exact hagree v hv.1 hv.2 vma hvma hoverlaps
    · exact .inl (h.blank zone)
  rw [parse_field hforget hfinish, hgathered]

theorem verifiedArea_of_isBasePage {marks : Marks}
    (h : ((parseSmapsZone text zone).mark marks).isBasePage = true) (hvma : vma ∈ vmasOf text)
    (hoverlaps : vma.Overlaps zone) : VerifiedArea text zone vma := by
  simp only [ZoneBacking.isBasePage, ZoneBacking.mark, Bool.and_eq_true, Bool.or_eq_true,
    beq_iff_eq, List.any_eq_true] at h
  obtain ⟨⟨⟨⟨⟨hkernel, hmmu⟩, hanon⟩, -⟩, -⟩, hhuge⟩ := h
  constructor
  · exact anonHugePages_of_parse hanon vma hvma hoverlaps
  · intro hagree
    rw [parse_of_agree .kernelPageSize (fun _ => rfl) (fun _ => rfl) hagree hvma hoverlaps]
    exact hkernel
  · intro hagree
    rw [parse_of_agree .mmuPageSize (fun _ => rfl) (fun _ => rfl) hagree hvma hoverlaps]
    exact hmmu
  · intro hagree hflags
    rcases hhuge with hthp | ⟨flag, hflag, rfl⟩
    · rw [parse_of_agree .thpEligible (fun _ => rfl) (fun _ => rfl) hagree hvma hoverlaps]
      exact .inl hthp
    · obtain ⟨other, hother, hoverlaps', hnh⟩ := exists_vma_of_flag hflag
      rw [hflags vma hvma hoverlaps other hother hoverlaps']
      exact .inr (by simpa [ZoneBacking.noHugepage] using hnh)

end Verified

/-- **The base-page check**: when the three zones are read from a text, marked and verified, no area
    that overlaps one of them has huge pages, and on whatever the areas that overlap the
    zone agree, each of them has what the check asks for. -/
theorem verifyBasePageBacking_sound (text : String) (zones : String → AddressRange)
    (marks : String → Marks)
    (h : verifyBasePageBacking
      (fun name => some ((parseSmapsZone text (zones name)).mark (marks name))) = true) :
    ∀ name ∈ zoneNames, ∀ vma ∈ vmasOf text, vma.Overlaps (zones name) →
      VerifiedArea text (zones name) vma := by
  intro name hname vma hvma hoverlaps
  simp only [verifyBasePageBacking, List.all_eq_true, Option.any_some] at h
  exact verifiedArea_of_isBasePage (h name hname) hvma hoverlaps

/-- An area with large pages and one with base pages and the flag. -/
def twoAreas : String :=
  "1000-3000 rw-p\nKernelPageSize: 64 kB\nMMUPageSize: 64 kB\nVmFlags: rd\n" ++
    "3000-5000 rw-p\nKernelPageSize: 4 kB\nMMUPageSize: 4 kB\nVmFlags: nh\n"

/-- A record as it is marked when huge pages were asked not to be used. -/
def ZoneBacking.requested (zone : ZoneBacking) : ZoneBacking :=
  zone.mark ⟨false, none, true, zone.nohugepageVerified⟩

/-- The same with a third area, which is like the second. -/
def threeAreas : String :=
  twoAreas ++ "5000-7000 rw-p\nKernelPageSize: 4 kB\nMMUPageSize: 4 kB\nVmFlags: rd nh\n"

/-- A zone over the second and the third area, which agree. -/
theorem verifyBasePageBacking_sound_agreeing :
    ∃ v ∈ vmasOf threeAreas, ∃ w ∈ vmasOf threeAreas, v.range.start ≠ w.range.start ∧
      ∀ vma ∈ [v, w], vma.Overlaps ⟨0x3000, 0x7000⟩ ∧
        vma.own.kernelPageSizeKib = some 4 ∧ vma.own.mmuPageSizeKib = some 4 ∧
        (vma.own.thpEligible = some false ∨ vma.own.noHugepage = true) := by
  obtain ⟨⟨v, hv, w, hw, hne, hoverlap⟩, hagree⟩ : (∃ v ∈ vmasOf threeAreas,
      ∃ w ∈ vmasOf threeAreas, v.range.start ≠ w.range.start ∧
        ∀ vma ∈ [v, w], vma.Overlaps ⟨0x3000, 0x7000⟩) ∧
      ∀ v ∈ vmasOf threeAreas, v.Overlaps ⟨0x3000, 0x7000⟩ →
        ∀ w ∈ vmasOf threeAreas, w.Overlaps ⟨0x3000, 0x7000⟩ →
          (v.own.kernelPageSizeKib, v.own.mmuPageSizeKib, v.own.thpEligible, v.own.noHugepage) =
            (w.own.kernelPageSizeKib, w.own.mmuPageSizeKib, w.own.thpEligible,
              w.own.noHugepage) := by
    decide +kernel
  simp only [Prod.mk.injEq] at hagree
  have hsound := verifyBasePageBacking_sound threeAreas (fun _ => ⟨0x3000, 0x7000⟩)
    (fun _ => ⟨false, none, true, true⟩) (by decide +kernel)
  refine ⟨v, hv, w, hw, hne, fun vma hvma => ⟨hoverlap vma hvma, ?_⟩⟩
  have hmem : vma ∈ vmasOf threeAreas := by
    rcases List.mem_pair.1 hvma with rfl | rfl
    · exact hv
    · exact hw
  -- the first area has other page sizes, but it is not in the zone
  have hverified := hsound "hot" (by decide) vma hmem (hoverlap vma hvma)
  exact ⟨hverified.kernel fun v hv hov w hw how => (hagree v hv hov w hw how).1,
    hverified.mmu fun v hv hov w hw how => (hagree v hv hov w hw how).2.1,
    hverified.noHugepage (fun v hv hov w hw how => (hagree v hv hov w hw how).2.2.1)
      fun v hv hov w hw how => (hagree v hv hov w hw how).2.2.2⟩

/-- An area of base pages that is not eligible for huge ones. -/
def ineligibleArea : String :=
  "1000-3000 rw-p\nKernelPageSize: 4 kB\nMMUPageSize: 4 kB\nTHPeligible: 0\n"

/-- An area that is not eligible needs no flag, and the area with large pages goes unnoticed before
    one with base pages. -/
theorem verifyBasePageBacking_limits :
    (verifyBasePageBacking
        (fun _ => some (parseSmapsZone ineligibleArea ⟨0x1000, 0x3000⟩).requested) = true ∧
      ∃ vma ∈ vmasOf ineligibleArea, vma.Overlaps ⟨0x1000, 0x3000⟩ ∧
        vma.own.noHugepage = false) ∧
    verifyBasePageBacking
        (fun _ => some (parseSmapsZone twoAreas ⟨0x1000, 0x5000⟩).requested) = true ∧
      ∃ vma ∈ vmasOf twoAreas, vma.Overlaps ⟨0x1000, 0x5000⟩ ∧
        vma.own.kernelPageSizeKib = some 64 ∧ vma.own.noHugepage = false := by
  decide +kernel

end Nemor.Damon
