import Nemor.Lib.CheckedCounters
import Nemor.Lib.Fallible
import Nemor.Lib.Fields

/-!
# Where the collector reads

Files, directories and links by their absolute paths, and the ways in which reading them and
understanding them can fail.
-/

namespace Nemor.Collector

open Fallible MachineNumbers Text

/-- Why a file could not be read. -/
inductive IoErrorKind where
  | notFound
  | permissionDenied
  | other
  deriving DecidableEq

/-- Why there is no sample. -/
inductive CollectorError where
  | requiredRead (metric path : String) (source : IoErrorKind)
  | invalid (metric message : String)
  | timestamp
  deriving DecidableEq

/-- Why a process is left out of a sample. -/
inductive ProcessReadFailure where
  | disappeared
  | permissionDenied
  | invalid
  deriving DecidableEq

/-- A process that is gone has no files. -/
def classifyProcessIo : IoErrorKind → ProcessReadFailure
  | .notFound => .disappeared
  | .permissionDenied => .permissionDenied
  | .other => .invalid

/-- What can be read at one moment. A link is read as the text that its target is shown as. -/
structure TelemetrySource where
  readToString : String → Except IoErrorKind (List Char)
  readDirNames : String → Except IoErrorKind (List (List Char))
  readLink : String → Except IoErrorKind (List Char)

/-- A counter, or what is wrong with the text that stands for it. -/
def counter (metric complaint : String) (raw : List Char) : Except CollectorError UInt64 :=
  okOr (parseU64 raw) (.invalid metric (complaint ++ ": " ++ unsignedError (2 ^ 64) raw))

@[simp] theorem counter_decimal (metric complaint : String) (n : UInt64) :
    counter metric complaint (decimal n.toNat) = .ok n := by
  simp [counter]

/-- The texts with which a reader of amounts in kB complains. -/
structure KibComplaints where
  shape : String
  value : String
  overflow : String

/-- An amount in kB, as bytes. -/
def kibBytes (metric : String) (complaints : KibComplaints) (raw : List Char) :
    Except CollectorError UInt64 :=
  match splitWhitespace raw with
  | [number, unit] => do
    refuse (unit ≠ "kB".toList) (.invalid metric complaints.shape)
    let kib ← counter metric complaints.value number
    okOr (U64.mul kib 1024) (.invalid metric complaints.overflow)
  | _ => .error (.invalid metric complaints.shape)

end Nemor.Collector
