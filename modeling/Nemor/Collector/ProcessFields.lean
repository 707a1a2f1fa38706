import Nemor.Collector.Source

/-!
# The other files of a process

`status`, `io` and `smaps_rollup` have lines of a key and a value; of a key that comes twice the
first line counts, and the others are not looked at. `cgroup` has a path behind the second colon
of its lines, and `/proc/stat` has a line for each processor and one for all of them.
-/

namespace Nemor.Collector

open Fallible MachineNumbers Text

/-! ## §1 Fields by their keys -/

/-- The value of the first line with a key. -/
def findField (input : List Char) (key : String) : Option (List Char) :=
  (lines input).findSome? fun line =>
    match splitOnce ':' line with
    | none => none
    | some (name, value) => if String.ofList (trim name) = key then some value else none

/-- The errors of a value in kB. -/
def kibComplaints (key : String) : KibComplaints where
  shape := "`" ++ key ++ "` must contain a kB value"
  value := "invalid `" ++ key ++ "`"
  overflow := "`" ++ key ++ "` overflows bytes"

/-- The bytes of a field in kB, if there is such a field. -/
def parseKibField (metric : String) (input : List Char) (key : String) :
    Except CollectorError (Option UInt64) :=
  match findField input key with
  | none => .ok none
  | some raw => do
    let bytes ← kibBytes metric (kibComplaints key) raw
    return some bytes

/-- The value of a field, if there is such a field. -/
def parsePlainField (metric : String) (input : List Char) (key : String) :
    Except CollectorError (Option UInt64) :=
  match findField input key with
  | none => .ok none
  | some raw => do
    let value ← counter metric ("invalid `" ++ key ++ "`") (trim raw)
    return some value

/-! ## §2 The files -/

/-- What is read of `/proc/<pid>/status`. -/
structure StatusValues where
  rssBytes : Option UInt64
  swapBytes : Option UInt64
  deriving DecidableEq

/-- `parse_status`. -/
def parseStatus (input : List Char) : Except CollectorError StatusValues := do
  let rssBytes ← parseKibField "process_status" input "VmRSS"
  let swapBytes ← parseKibField "process_status" input "VmSwap"
  return { rssBytes, swapBytes }

/-- What is read of `/proc/<pid>/io`. -/
structure IoValues where
  readBytes : Option UInt64
  writeBytes : Option UInt64
  deriving DecidableEq

/-- `parse_io`. -/
def parseIo (input : List Char) : Except CollectorError IoValues := do
  let readBytes ← parsePlainField "process_io" input "read_bytes"
  let writeBytes ← parsePlainField "process_io" input "write_bytes"
  return { readBytes, writeBytes }

/-- What is read of `/proc/<pid>/smaps_rollup`. -/
structure SmapsValues where
  pssBytes : UInt64
  ussBytes : Option UInt64
  deriving DecidableEq

/-- What a process has for itself, if both parts are known. -/
def ussOf (clean dirty : Option UInt64) : Option UInt64 :=
  match clean, dirty with
  | some clean, some dirty => U64.add clean dirty
  | _, _ => none

/-- `parse_smaps_rollup`: `Pss` has to be there, the private pages may be missing. -/
def parseSmapsRollup (input : List Char) : Except CollectorError SmapsValues := do
  let pss ← parseKibField "smaps_rollup" input "Pss"
  let pssBytes ← okOr pss (.invalid "smaps_rollup" "missing `Pss`")
  let clean ← parseKibField "smaps_rollup" input "Private_Clean"
  let dirty ← parseKibField "smaps_rollup" input "Private_Dirty"
  return { pssBytes, ussBytes := ussOf clean dirty }

/-- What follows the second colon of a line. -/
def cgroupPath (line : List Char) : Option (List Char) := do
  let (_, rest) ← splitOnce ':' line
  let (_, path) ← splitOnce ':' rest
  return path

/-- The paths of all hierarchies, joined by semicolons. -/
def parseCgroup (input : List Char) : Option (List Char) :=
  let paths := ((lines input).filterMap cgroupPath).filter fun path => trim path ≠ []
  if paths.isEmpty then none else some ([';'].intercalate paths)

/-! ## §3 The processors -/

/-- Add one column of `/proc/stat`. -/
def addTicks (sum : UInt64) (raw : List Char) : Except CollectorError UInt64 := do
  let value ← counter "proc_stat" "invalid CPU tick" raw
  okOr (U64.add sum value) (.invalid "proc_stat" "CPU tick total overflow")

/-- The line is that of one processor. -/
def isCpuLine (line : List Char) : Bool :=
  match (stripPrefix "cpu".toList line).bind fun rest => (splitWhitespace rest).head? with
  | none => false
  | some id => !id.isEmpty && id.all Char.isDigit

/-- The ticks of all processors together, and how many there are. -/
def parseSystemCpu (input : List Char) : Except CollectorError (UInt64 × UInt32) := do
  let aggregate ← okOr ((lines input).find? fun line => "cpu ".toList.isPrefixOf line)
    (.invalid "proc_stat" "aggregate CPU line is missing")
  let total ← ((splitWhitespace aggregate).drop 1).foldlM addTicks 0
  let logical := max ((lines input).filter isCpuLine).length 1
  refuse (2 ^ 32 ≤ logical) (.invalid "proc_stat" "logical CPU count overflows")
  return (total, .ofNat logical)

end Nemor.Collector
