import Nemor.Collector.Source
import Nemor.Lib.MachineNumbers

/-!
# The stat line of a process

The kernel writes the name of a process between parentheses and escapes nothing in it, and the
process chooses its name. The fields behind the name are found by their position.

- §1: reading the line
- §2: the line as the kernel writes it
- §3: what was written is read
-/

namespace Nemor.Collector

open Fallible Text MachineNumbers

/-! ## §1 Reading the line -/

/-- What is read of `/proc/<pid>/stat`. -/
structure ParsedStat where
  pid : UInt32
  executableName : List Char
  parentPid : UInt32
  processGroupId : Int32
  sessionId : Int32
  ttyNr : Int64
  foregroundProcessGroupId : Int32
  minorFaults : UInt64
  majorFaults : UInt64
  processTicks : UInt64
  startTimeTicks : UInt64
  rssPages : Int64
  deriving DecidableEq

/-- An error of this file. -/
def statError (message : String) : CollectorError := .invalid "process_stat" message

/-- The field at a place. -/
def statField (fields : List (List Char)) (index : ℕ) (name : String) :
    Except CollectorError (List Char) :=
  okOr fields[index]? (statError ("missing `" ++ name ++ "`"))

/-- An unsigned field. -/
def statValue (fields : List (List Char)) (index : ℕ) (name : String) :
    Except CollectorError UInt64 := do
  let raw ← statField fields index name
  counter "process_stat" ("invalid `" ++ name ++ "`") raw

/-- The error of a signed number. -/
def invalidSigned (half : ℕ) (name : String) (raw : List Char) : CollectorError :=
  statError ("invalid `" ++ name ++ "`: " ++ signedError half raw)

/-- A field that is an `i32`. -/
def statI32 (fields : List (List Char)) (index : ℕ) (name : String) :
    Except CollectorError Int32 := do
  let raw ← statField fields index name
  okOr (parseI32 raw) (invalidSigned (2 ^ 31) name raw)

/-- A field that is an `i64`. -/
def statI64 (fields : List (List Char)) (index : ℕ) (name : String) :
    Except CollectorError Int64 := do
  let raw ← statField fields index name
  okOr (parseI64 raw) (invalidSigned (2 ^ 63) name raw)

/-- `parse_stat`. The name ends at the last parenthesis, since it may contain one. -/
def parseStat (input : List Char) : Except CollectorError ParsedStat := do
  let opening ← okOr (find '(' input) (statError "missing `(`")
  let closing ← okOr (rfind ')' input) (statError "missing `)`")
  refuse (closing ≤ opening) (statError "invalid comm field")
  let pidText := trim (input.take opening)
  let pid ← okOr (parseU32 pidText)
    (statError ("invalid PID: " ++ unsignedError (2 ^ 32) pidText))
  let executableName := (input.take closing).drop (opening + 1)
  let fields := splitWhitespace (input.drop (closing + 1))
  let userTicks ← statValue fields 11 "utime"
  let systemTicks ← statValue fields 12 "stime"
  let rssPages ← statI64 fields 21 "rss"
  let parent ← statValue fields 1 "ppid"
  let parentPid ← okOr (U64.tryU32 parent) (statError "`ppid` overflows u32")
  let processGroupId ← statI32 fields 2 "pgrp"
  let sessionId ← statI32 fields 3 "session"
  let ttyNr ← statI64 fields 4 "tty_nr"
  let foregroundProcessGroupId ← statI32 fields 5 "tpgid"
  let minorFaults ← statValue fields 7 "minflt"
  let majorFaults ← statValue fields 9 "majflt"
  let processTicks ← okOr (U64.add userTicks systemTicks) (statError "CPU ticks overflow")
  let startTimeTicks ← statValue fields 19 "starttime"
  return { pid, executableName, parentPid, processGroupId, sessionId, ttyNr,
           foregroundProcessGroupId, minorFaults, majorFaults, processTicks, startTimeTicks,
           rssPages }

/-! ## §2 The line as the kernel writes it -/

/-- The values of a line. The fields that are not read are numbers of any size, also those behind
the last one that is. -/
structure StatLine where
  pid : UInt32
  comm : List Char
  state : Char
  ppid : UInt32
  pgrp : Int32
  session : Int32
  ttyNr : Int64
  tpgid : Int32
  flags : ℤ
  minflt : UInt64
  cminflt : ℤ
  majflt : UInt64
  cmajflt : ℤ
  utime : UInt64
  stime : UInt64
  cutime : ℤ
  cstime : ℤ
  priority : ℤ
  nice : ℤ
  numThreads : ℤ
  itrealvalue : ℤ
  starttime : UInt64
  vsize : ℤ
  rss : Int64
  further : List ℤ
  state_letter : state.isAlphanum = true

namespace StatLine

/-- The words behind the name. -/
def words (line : StatLine) : List (List Char) :=
  [[line.state], decimal line.ppid.toNat, signed line.pgrp.toInt, signed line.session.toInt,
    signed line.ttyNr.toInt, signed line.tpgid.toInt, signed line.flags,
    decimal line.minflt.toNat, signed line.cminflt, decimal line.majflt.toNat,
    signed line.cmajflt, decimal line.utime.toNat, decimal line.stime.toNat, signed line.cutime,
    signed line.cstime, signed line.priority, signed line.nice, signed line.numThreads,
    signed line.itrealvalue, decimal line.starttime.toNat, signed line.vsize,
    signed line.rss.toInt] ++ line.further.map signed

/-- The line as the kernel writes it. -/
def render (line : StatLine) : List Char :=
  decimal line.pid.toNat ++ ' ' :: '(' :: line.comm ++ ')' :: ' ' :: (unwords line.words ++ ['\n'])

/-- The values that the collector keeps; the ticks are given together. -/
def values (line : StatLine) (ticks : UInt64) : ParsedStat where
  pid := line.pid
  executableName := line.comm
  parentPid := line.ppid
  processGroupId := line.pgrp
  sessionId := line.session
  ttyNr := line.ttyNr
  foregroundProcessGroupId := line.tpgid
  minorFaults := line.minflt
  majorFaults := line.majflt
  processTicks := ticks
  startTimeTicks := line.starttime
  rssPages := line.rss

/-! ## §3 What was written is read -/

/-- A word of letters, digits and minus signs. -/
def Plain (w : List Char) : Prop := w ≠ [] ∧ ∀ c ∈ w, c.isAlphanum = true ∨ c = '-'

theorem plain_decimal (n : ℕ) : Plain (decimal n) :=
  ⟨Nat.toDigits_ne_nil, fun _ hc => .inl (isAlphanum_of_mem_toDigits (by omega) (by omega) hc)⟩

theorem plain_signed (v : ℤ) : Plain (signed v) := by
  cases v with
  | ofNat n => exact plain_decimal n
  | negSucc n =>
    refine ⟨List.cons_ne_nil _ _, ?_⟩
    simp only [signed, List.forall_mem_cons]
    exact ⟨by simp, (plain_decimal (n + 1)).2⟩

theorem plain_words (line : StatLine) : ∀ w ∈ line.words, Plain w := by
  have hstate : Plain [line.state] := ⟨List.cons_ne_nil _ _, by simp [line.state_letter]⟩
  simp [words, hstate, plain_decimal, plain_signed]

theorem Plain.word {w : List Char} (h : Plain w) : Word w where
  nonempty := h.1
  solid c hc := by
    rcases h.2 c hc with halpha | rfl
    · exact isWhiteSpace_of_isAlphanum halpha
    · decide

theorem Plain.notMem {w : List Char} (h : Plain w) : ')' ∉ w := by
  intro hc
  rcases h.2 ')' hc with halpha | heq
  · exact absurd halpha (by decide)
  · exact absurd heq (by decide)

/-- No word of a line has a parenthesis, so the last one of the line is the one behind the name. -/
theorem notMem_behind (line : StatLine) : ')' ∉ ' ' :: (unwords line.words ++ ['\n']) := by
  intro h
  simp only [List.mem_cons, List.mem_append, List.not_mem_nil, or_false] at h
  rcases h with h | h | h
  · exact absurd h (by decide)
  · cases mem_of_mem_intercalate h with
    | inl h => exact absurd h (by decide)
    | inr h =>
      obtain ⟨w, hw, hc⟩ := h
      exact (plain_words line w hw).notMem hc
  · exact absurd h (by decide)

theorem splitWhitespace_behind (line : StatLine) :
    splitWhitespace (' ' :: (unwords line.words ++ ['\n'])) = line.words := by
  have hspace := splitWhitespace_append_cons (c := ' ') (by decide) []
    (unwords line.words ++ ['\n'])
  have hend := splitWhitespace_append_cons (c := '\n') (by decide) (unwords line.words) []
  rw [List.nil_append, splitWhitespace_nil, List.nil_append] at hspace
  rw [hspace, hend, splitWhitespace_nil, List.append_nil]
  exact splitWhitespace_unwords fun w hw => (plain_words line w hw).word

/-- The line with its parentheses in sight. -/
theorem render_eq (line : StatLine) :
    line.render = delimited '(' ')' (decimal line.pid.toNat ++ [' ']) line.comm
      (' ' :: (unwords line.words ++ ['\n'])) := by
  simp [render, delimited]

theorem notMem_front (line : StatLine) : '(' ∉ decimal line.pid.toNat ++ [' '] := by
  intro h
  rcases List.mem_append.1 h with h | h
  · rcases (plain_decimal line.pid.toNat).2 '(' h with halpha | hminus
    · exact absurd halpha (by decide)
    · exact absurd hminus (by decide)
  · simp at h

end StatLine

open StatLine

/-- **What the kernel writes is read back**, whatever the process calls itself. -/
theorem parseStat_render (line : StatLine) {ticks : UInt64}
    (hticks : ticks.toNat = line.utime.toNat + line.stime.toNat) :
    parseStat line.render = .ok (line.values ticks) := by
  have hadd : U64.add line.utime line.stime = some ticks :=
    (U64.add_eq_some (by rw [← hticks]; exact ticks.toNat_lt)).2 hticks
  have hpid : trim (decimal line.pid.toNat ++ [' ']) = decimal line.pid.toNat :=
    (word_decimal _).trim_append (by decide)
  have hparent (complaint : String) : counter "process_stat" complaint (decimal line.ppid.toNat) =
      .ok line.ppid.toUInt64 := counter_decimal _ _ line.ppid.toUInt64
  have hle : ¬ (decimal line.pid.toNat ++ [' '] ++ '(' :: line.comm).length ≤
      (decimal line.pid.toNat ++ [' ']).length := by
    simp
  simp only [parseStat, render_eq, find_delimited _ (notMem_front line),
    rfind_delimited _ (notMem_behind line), take_delimited, inside_delimited, drop_delimited,
    okOr_some, ok_bind, hpid, splitWhitespace_behind, parseU32_decimal, refuse, if_neg hle]
  simp [statValue, statI32, statI64, statField, words, ok_bind, hparent, hadd]
  rfl

/-- A process with a line of its own making as its name. -/
def hostileLine : StatLine where
  pid := 42
  comm := "a) S 1 (b)\n7 (c) R".toList
  state := 'R'
  ppid := 1
  pgrp := -1
  session := 42
  ttyNr := -5
  tpgid := -1
  flags := 4194560
  minflt := 18446744073709551615
  cminflt := 0
  majflt := 4
  cmajflt := 0
  utime := 10
  stime := 20
  cutime := -3
  cstime := 0
  priority := -51
  nice := -20
  numThreads := 1
  itrealvalue := 0
  starttime := 100
  vsize := 0
  rss := -2
  further := [18446744073709551615, 0]
  state_letter := by decide

/-- Its name is read as its name. -/
theorem hostileLine_read : parseStat hostileLine.render = .ok (hostileLine.values 30) :=
  parseStat_render hostileLine (by decide)

end Nemor.Collector
