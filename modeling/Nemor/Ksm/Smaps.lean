import Mathlib.Order.Interval.Set.LinearOrder
import Nemor.Lib.MachineNumbers
import Nemor.Lib.Text

/-!
# KSM: the memory areas of a process

The text of `smaps` is a header line for each memory area, with its address range, and the
lines of its attributes behind it. `parseSmapsAreas` reads it line by line into one record for
each header. Nothing is assumed of the headers: a range may be empty, areas may overlap.
-/

namespace Nemor.Ksm

open MachineNumbers U64 Text

/-! ## §1 Address ranges -/

/-- A half-open range of addresses. -/
structure AddressRange where
  start : UInt64
  end_ : UInt64
  deriving DecidableEq

namespace AddressRange

/-- How many addresses it has. -/
def len (r : AddressRange) : UInt64 := saturatingSub r.end_ r.start

/-- It has one. -/
def isValid (r : AddressRange) : Bool := r.start < r.end_

/-- The addresses in the range. -/
def bytes (r : AddressRange) : Set ℕ := Set.Ico r.start.toNat r.end_.toNat

theorem isValid_iff {r : AddressRange} : r.isValid = true ↔ r.start.toNat < r.end_.toNat := by
  simp [isValid, UInt64.lt_iff_toNat_lt]

end AddressRange

/-! ## §2 Areas -/

/-- One memory area. The two flags that are looked at most are kept beside the list of all. -/
structure SmapsArea where
  range : AddressRange
  mergeable : Bool
  noHugepage : Bool
  kernelPageSizeBytes : Option UInt64
  mmuPageSizeBytes : Option UInt64
  anonHugePagesBytes : Option UInt64
  thpEligible : Option Bool
  vmFlags : List String
  mergeable_eq : mergeable = vmFlags.contains "mg"
  noHugepage_eq : noHugepage = vmFlags.contains "nh"
  deriving DecidableEq

namespace SmapsArea

/-- The area behind a header, before any attribute is read. -/
def blank (range : AddressRange) : SmapsArea where
  range := range
  mergeable := false
  noHugepage := false
  kernelPageSizeBytes := none
  mmuPageSizeBytes := none
  anonHugePagesBytes := none
  thpEligible := none
  vmFlags := []
  mergeable_eq := rfl
  noHugepage_eq := rfl

/-- The area with these flags, and what follows from them. -/
def withFlags (area : SmapsArea) (flags : List String) : SmapsArea :=
  { area with
    vmFlags := flags
    mergeable := flags.contains "mg"
    noHugepage := flags.contains "nh"
    mergeable_eq := rfl
    noHugepage_eq := rfl }

/-- The addresses in the area. -/
def bytes (area : SmapsArea) : Set ℕ := area.range.bytes

/-- The area has an address in the range. -/
def Overlaps (area : SmapsArea) (range : AddressRange) : Prop :=
  (area.bytes ∩ range.bytes).Nonempty

theorem overlaps_iff {area : SmapsArea} {range : AddressRange} :
    area.Overlaps range ↔ max area.range.start.toNat range.start.toNat <
      min area.range.end_.toNat range.end_.toNat := by
  simp [Overlaps, bytes, AddressRange.bytes, Set.Ico_inter_Ico]

end SmapsArea

/-! ## §3 Parsing -/

/-- A range in hexadecimal. -/
def parseHexRange (line : List Char) : Option AddressRange :=
  (hexRange line).map fun (start, end_) => { start, end_ }

/-- A value in kB, in bytes. -/
def parseSmapsKib (value : List Char) : Option UInt64 :=
  match splitWhitespace value with
  | amount :: unit :: _ =>
    (parseU64 amount).bind fun amount =>
      if unit = "kB".toList then some (saturatingMul amount 1024) else none
  | _ => none

/-- A switch that is a number. -/
def parseThpEligible (value : List Char) : Option Bool :=
  (splitWhitespace value).head?.bind fun item => (parseU8 item).map fun item => item ≠ 0

/-- An attribute line, read into the area it stands behind. -/
def readAttribute (line : List Char) (area : SmapsArea) : SmapsArea :=
  if let some value := stripPrefix "KernelPageSize:".toList line then
    { area with kernelPageSizeBytes := parseSmapsKib value }
  else if let some value := stripPrefix "MMUPageSize:".toList line then
    { area with mmuPageSizeBytes := parseSmapsKib value }
  else if let some value := stripPrefix "AnonHugePages:".toList line then
    { area with anonHugePagesBytes := parseSmapsKib value }
  else if let some value := stripPrefix "THPeligible:".toList line then
    { area with thpEligible := parseThpEligible value }
  else if let some flags := stripPrefix "VmFlags:".toList line then
    area.withFlags ((splitWhitespace flags).map String.ofList)
  else area

/-- The finished areas, and the one whose attributes are being read. -/
def parseStep (state : List SmapsArea × Option SmapsArea) (line : List Char) :
    List SmapsArea × Option SmapsArea :=
  match parseHexRange line with
  | some range => (state.1 ++ state.2.toList, some (.blank range))
  | none => (state.1, state.2.map (readAttribute line))

/-- The areas of a text. The last one ends with it. -/
def parseSmapsAreas (text : String) : List SmapsArea :=
  let state := (lines text.toList).foldl parseStep ([], none)
  state.1 ++ state.2.toList

/-- One area with its attributes. -/
example : parseSmapsAreas "1000-3000 rw-p\nKernelPageSize: 4 kB\nVmFlags: rd nh\n" =
    [({ SmapsArea.blank ⟨0x1000, 0x3000⟩ with kernelPageSizeBytes := some 4096 }).withFlags
      ["rd", "nh"]] := by
  decide +kernel

end Nemor.Ksm
