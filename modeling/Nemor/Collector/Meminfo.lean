import Nemor.Collector.Source
import Nemor.Lib.FoldedLines

/-!
# The memory of the machine

`/proc/meminfo` has a line for each counter, in kB. Some of the metrics are counters, and some are
put together from two of them.

- §1: reading the text
- §2: what is read
- §3: other orders of the lines
-/

namespace Nemor.Collector

open Fallible FoldedLines MachineNumbers Text

/-! ## §1 Reading the text -/

/-- What is read of `/proc/meminfo`, in bytes. -/
structure MemInfo where
  memTotalBytes : UInt64
  memAvailableBytes : UInt64
  anonBytes : Option UInt64
  fileCacheBytes : Option UInt64
  slabBytes : Option UInt64
  swapTotalBytes : Option UInt64
  swapFreeBytes : Option UInt64
  swapUsedBytes : Option UInt64
  deriving DecidableEq

namespace MemInfo

/-- The fields that are read. -/
def wanted : List String :=
  ["MemTotal", "MemAvailable", "AnonPages", "Cached", "Buffers", "Slab", "SwapTotal", "SwapFree"]

/-- The errors of a field. -/
def complaints (key : String) : KibComplaints where
  shape := "`" ++ key ++ "` must contain one value in kB"
  value := "`" ++ key ++ "` has invalid value"
  overflow := "`" ++ key ++ "` overflows bytes"

/-- A line with one of the counters, or another line. -/
def readLine (line : List Char) : Except CollectorError (Option (String × UInt64)) :=
  match splitOnce ':' line with
  | none => .ok none
  | some (rawKey, rawValue) =>
    let key := String.ofList (trim rawKey)
    if key ∉ wanted then .ok none
    else do
      let bytes ← kibBytes "meminfo" (complaints key) rawValue
      return some (key, bytes)

/-- The counters of a text. -/
def readValues (input : List Char) : Except CollectorError (String → Option UInt64) :=
  (lines input).foldlM (step readLine insertField) fun _ => none

/-- A field that has to be there. -/
def required (values : String → Option UInt64) (key : String) : Except CollectorError UInt64 :=
  okOr (values key) (.invalid "meminfo" ("required field `" ++ key ++ "` is missing"))

/-- The sum of two counters, of which one may be missing. -/
def addOptional (values : String → Option UInt64) (left right : String) :
    Except CollectorError (Option UInt64) :=
  match values left, values right with
  | none, none => .ok none
  | leftValue, rightValue => do
    let sum ← okOr (U64.add (leftValue.getD 0) (rightValue.getD 0))
      (.invalid "meminfo" ("`" ++ left ++ "` plus `" ++ right ++ "` overflows bytes"))
    return some sum

/-- What is used of the swap, if both counters are there. -/
def swapUsed (total free : Option UInt64) : Except CollectorError (Option UInt64) :=
  match total, free with
  | some total, some free => do
    let used ← okOr (U64.sub total free)
      (.invalid "meminfo" "`SwapFree` exceeds `SwapTotal`")
    return some used
  | _, _ => .ok none

/-- The record of the counters. -/
def ofValues (values : String → Option UInt64) : Except CollectorError MemInfo := do
  let swapTotalBytes := values "SwapTotal"
  let swapFreeBytes := values "SwapFree"
  let swapUsedBytes ← swapUsed swapTotalBytes swapFreeBytes
  let memTotalBytes ← required values "MemTotal"
  let memAvailableBytes ← required values "MemAvailable"
  let fileCacheBytes ← addOptional values "Cached" "Buffers"
  return { memTotalBytes, memAvailableBytes, anonBytes := values "AnonPages", fileCacheBytes,
           slabBytes := values "Slab", swapTotalBytes, swapFreeBytes, swapUsedBytes }

/-- `parse`. -/
def parse (input : List Char) : Except CollectorError MemInfo := do
  let values ← readValues input
  ofValues values

/-! ## §2 What is read -/

/-- The counters that a text gives, in bytes. -/
def fieldsIn (input : List Char) : List (String × UInt64) := fieldsOf readLine (lines input)

/-- The value of a counter; the last line of a key counts. -/
def counterOf (input : List Char) (key : String) : Option UInt64 := lastValue (fieldsIn input) key

theorem readValues_eq_ok {input : List Char} {values : String → Option UInt64} :
    readValues input = .ok values ↔
      Readable readLine (lines input) ∧ values = counterOf input := by
  rw [readValues, foldlM_step_eq_ok, foldlM_insertField]
  refine and_congr_right fun _ => ?_
  constructor
  · intro h
    rw [← Except.ok.inj h]
    funext key
    exact Option.or_none
  · rintro rfl
    congr 1
    funext key
    exact Option.or_none

theorem parse_eq_ok {input : List Char} {m : MemInfo} :
    parse input = .ok m ↔
      Readable readLine (lines input) ∧ ofValues (counterOf input) = .ok m := by
  rw [parse, bind_eq_ok]
  simp only [readValues_eq_ok]
  constructor
  · rintro ⟨_, ⟨hlines, rfl⟩, hm⟩
    exact ⟨hlines, hm⟩
  · intro ⟨hlines, hm⟩
    exact ⟨_, ⟨hlines, rfl⟩, hm⟩

/-- The derived fields of a record. -/
theorem ofValues_derived {values : String → Option UInt64} {m : MemInfo}
    (h : ofValues values = .ok m) :
    addOptional values "Cached" "Buffers" = .ok m.fileCacheBytes ∧
      swapUsed (values "SwapTotal") (values "SwapFree") = .ok m.swapUsedBytes := by
  simp only [ofValues, bind_eq_ok] at h
  obtain ⟨used, hused, total, -, available, -, cache, hcache, hm⟩ := h
  cases hm
  exact ⟨hcache, hused⟩

/-! ## §3 Other orders of the lines -/

/-- No counter comes twice. -/
def DistinctKeys (input : List Char) : Prop := ((fieldsIn input).map Prod.fst).Nodup

/-- **The order of the lines does not matter.** -/
theorem parse_perm {input input' : List Char} (h : (lines input).Perm (lines input'))
    (hkeys : DistinctKeys input) (m : MemInfo) : parse input = .ok m ↔ parse input' = .ok m := by
  simp only [parse, bind_eq_ok, readValues]
  exact exists_congr fun values =>
    and_congr_left fun _ => foldlM_step_perm h hkeys commuting_insertField

end MemInfo

end Nemor.Collector
