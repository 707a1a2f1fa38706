import Mathlib.Data.List.ReduceOption
import Nemor.Collector.ProcessStat
import Nemor.Collector.Source
import Nemor.Ksm.Eligibility
import Nemor.Lib.FoldedLines

/-!
# KSM: who else uses it

A validation runs only while no process of another owner shares pages. Before it starts and while
it runs, every process is looked at: its `ksm_stat` and its `smaps` tell whether it takes part. A
process is passed over only when it is a child of the validation, known by its number and the tick
at which it was started. §3 is what the kernel writes of a process. §4 is that the processes that
are found are exactly those that take part, and that a file that cannot be read is not passed over.
-/

namespace Nemor.Ksm

open Fallible MachineNumbers Text FoldedLines
open Collector (TelemetrySource IoErrorKind StatLine)

/-! ## §1 What the files say -/

/-- What is read of one process. -/
structure KsmProcessMetrics where
  identity : StableProcessIdentity
  ksmRmapItems : Option UInt64
  ksmZeroPages : Option UInt64
  ksmMergingPages : Option UInt64
  ksmProcessProfit : Option Int64
  ksmMergeAny : Option Bool
  ksmMergeable : Option Bool
  currentMappedKsmBytes : Option UInt64
  residualAccounting : Bool

/-- The amounts behind `KSM:`, together. One that is no number makes all of them unknown. -/
def parseSmapsKsmBytes (text : List Char) : Option UInt64 := do
  let amounts ← ((lines text).filterMap (stripPrefix "KSM:".toList)).mapM fun value =>
    (splitWhitespace value).head?.bind parseU64
  if amounts = [] then none
  else
    some (amounts.foldl (fun total kib => U64.saturatingAdd total (U64.saturatingMul kib 1024)) 0)

/-- A switch. -/
def parseYesNo (value : List Char) : Option Bool :=
  let word := String.ofList (trim value)
  if word ∈ ["yes", "1", "Y"] then some true
  else if word ∈ ["no", "0", "N"] then some false
  else none

/-- The first two words of a line, a colon counting as a blank. -/
def statField (line : List Char) : Option (List Char × List Char) :=
  match splitWhitespace (line.map fun c => if c = ':' then ' ' else c) with
  | key :: value :: _ => some (key, value)
  | _ => none

/-- `parse_process_ksm_stat`. What is not there stays unknown. -/
def parseProcessKsmStat (text : List Char) (identity : StableProcessIdentity) :
    KsmProcessMetrics :=
  -- a key that is given twice has its last value
  let value := fun (key : String) => lastValue ((lines text).filterMap statField) key.toList
  { identity
    ksmRmapItems := (value "ksm_rmap_items").bind parseU64
    ksmZeroPages := (value "ksm_zero_pages").bind parseU64
    ksmMergingPages := (value "ksm_merging_pages").bind parseU64
    ksmProcessProfit := (value "ksm_process_profit").bind parseI64
    ksmMergeAny := (value "ksm_merge_any").bind parseYesNo
    ksmMergeable := (value "ksm_mergeable").bind parseYesNo
    currentMappedKsmBytes := none
    residualAccounting := false }

/-- Whether a process uses merging now. -/
inductive ProcessKsmActivity where
  | liveExternal
  | residualAccounting
  | inactive
  deriving DecidableEq

/-- It does with a switch on or with mapped bytes; bare accounting is left over. -/
def classifyProcessKsmActivity (metrics : KsmProcessMetrics) : ProcessKsmActivity :=
  if metrics.ksmMergeable = some true ∨ metrics.ksmMergeAny = some true ∨
      0 < metrics.currentMappedKsmBytes.getD 0 then
    .liveExternal
  else if 0 < metrics.ksmMergingPages.getD 0 then .residualAccounting
  else .inactive

/-! ## §2 The inspection -/

/-- What the inspection fails with: a listing or a file that is there and cannot be read. -/
inductive InspectionError where
  | enumerate (root : String)
  | read (path : String) (kind : IoErrorKind)
  deriving DecidableEq

/-- A file of a process. -/
def procPath (root : String) (name : List Char) (file : String) : String :=
  root ++ "/" ++ String.ofList name ++ "/" ++ file

/-- The word of the start tick, behind the last parenthesis. -/
def procStartTicks (source : TelemetrySource) (root : String) (pid : UInt32) : Option UInt64 :=
  match source.readToString (procPath root (decimal pid.toNat) "stat") with
  | .error _ => none
  | .ok stat => do
    let close ← rfind ')' stat
    let word ← (splitWhitespace (stat.drop (close + 1)))[19]?
    parseU64 word

/-- The process is one of the owned ones, which are given by number and start tick. -/
def exactOwnedTuple (excludedOwned : UInt32 → Option (Option UInt64)) (pid : UInt32)
    (startTicks : Option UInt64) : Bool :=
  match (excludedOwned pid).join, startTicks with
  | some expected, some actual => expected == actual
  | _, _ => false

/-- A file that may have gone. -/
def readPresent (source : TelemetrySource) (path : String) :
    Except InspectionError (Option (List Char)) :=
  match source.readToString path with
  | .ok text => .ok (some text)
  | .error .notFound => .ok none
  | .error kind => .error (.read path kind)

/-- What was found, and of how many processes. -/
structure ExternalKsmInspection where
  liveConsumers : List KsmProcessMetrics
  residualProcesses : List KsmProcessMetrics
  inspectedProcesses : ℕ

/-- The inspected processes, by what they do. -/
def ExternalKsmInspection.ofInspected (inspected : List KsmProcessMetrics) :
    ExternalKsmInspection where
  liveConsumers := inspected.filter fun m =>
    decide (classifyProcessKsmActivity m = .liveExternal)
  residualProcesses := (inspected.filter fun m =>
    decide (classifyProcessKsmActivity m = .residualAccounting)).map fun m =>
      { m with residualAccounting := true }
  inspectedProcesses := inspected.length

section Inspection

variable (source : TelemetrySource) (root : String)
  (excludedOwned : UInt32 → Option (Option UInt64))

/-- One entry of the listing: no process of another owner, or what its files say. -/
def inspectEntry (name : List Char) : Except InspectionError (Option KsmProcessMetrics) :=
  match parseU32 name with
  | none => .ok none
  | some pid =>
    let startTicks := procStartTicks source root pid
    if exactOwnedTuple excludedOwned pid startTicks then .ok none
    else do
      let text ← readPresent source (procPath root name "ksm_stat")
      match ← readPresent source (procPath root name "smaps") with
      | none => return none
      -- a process without memory areas
      | some [] => return none
      | some smaps =>
        return some
          { parseProcessKsmStat (text.getD []) ⟨pid, startTicks.getD 0, "redacted"⟩ with
            currentMappedKsmBytes := parseSmapsKsmBytes smaps }

/-- The first 4096 entries of the listing. -/
def inspectExternalKsmProcessesOwned : Except InspectionError ExternalKsmInspection :=
  match source.readDirNames root with
  | .error _ => .error (.enumerate root)
  | .ok names => do
    let found ← (names.take 4096).mapM (inspectEntry source root excludedOwned)
    return .ofInspected found.reduceOption

end Inspection

/-! ## §3 The files as the kernel writes them -/

/-- A line of `ksm_stat`: a key, in some lines with a colon, and a value. -/
structure KsmField where
  key : List Char
  colon : Bool
  value : List Char
  key_word : Word key
  value_word : Word value
  no_colon : ':' ∉ key ++ value

/-- The line of a field. -/
def KsmField.render (f : KsmField) : List Char :=
  (f.key ++ if f.colon then [':'] else []) ++ ' ' :: f.value

/-- The counters of a process. The flags are told by newer kernels only. -/
structure KsmStat where
  rmapItems : UInt64
  zeroPages : UInt64
  mergingPages : UInt64
  profit : Int64
  mergeAny : Option Bool
  mergeable : Option Bool

namespace KsmStat

theorem colon_notMem_signed (v : ℤ) : ':' ∉ signed v := by
  intro h
  rcases (StatLine.plain_signed v).2 ':' h with halpha | hminus
  · exact absurd halpha (by decide)
  · exact absurd hminus (by decide)

/-- A number, a natural one being a signed one without a sign. -/
def number (key : List Char) (hkey : Word key ∧ ':' ∉ key) (v : ℤ) : KsmField where
  key := key
  colon := false
  value := signed v
  key_word := hkey.1
  value_word := (StatLine.plain_signed v).word
  no_colon h := (List.mem_append.1 h).elim hkey.2 (colon_notMem_signed v)

/-- A switch as the kernel writes it. -/
def yesNo (b : Bool) : List Char := if b then "yes".toList else "no".toList

/-- A field that is a switch. -/
def flag (key : List Char) (hkey : Word key ∧ ':' ∉ key) (b : Bool) : KsmField where
  key := key
  colon := true
  value := yesNo b
  key_word := hkey.1
  value_word := by
    cases b
    · exact ⟨by decide, solid_of_all (by decide)⟩
    · exact ⟨by decide, solid_of_all (by decide)⟩
  no_colon h := by
    rcases List.mem_append.1 h with h | h
    · exact hkey.2 h
    · revert h
      cases b <;> decide

/-- A key without blanks and colons. -/
theorem key_of_all {key : List Char} (hne : key ≠ [])
    (h : (key.all fun c => !UnixPath.isWhiteSpace c && decide (c ≠ ':')) = true) :
    Word key ∧ ':' ∉ key := by
  simp only [List.all_eq_true, Bool.and_eq_true, Bool.not_eq_true', decide_eq_true_eq] at h
  exact ⟨⟨hne, fun c hc => (h c hc).1⟩, fun hc => (h ':' hc).2 rfl⟩

/-- The fields of a process, in the order of the kernel. -/
def fields (s : KsmStat) : List KsmField :=
  [number "ksm_rmap_items".toList (key_of_all (by decide) (by decide)) s.rmapItems.toNat,
    number "ksm_zero_pages".toList (key_of_all (by decide) (by decide)) s.zeroPages.toNat,
    number "ksm_merging_pages".toList (key_of_all (by decide) (by decide)) s.mergingPages.toNat,
    number "ksm_process_profit".toList (key_of_all (by decide) (by decide)) s.profit.toInt] ++
    (s.mergeAny.map
      (flag "ksm_merge_any".toList (key_of_all (by decide) (by decide)))).toList ++
    (s.mergeable.map
      (flag "ksm_mergeable".toList (key_of_all (by decide) (by decide)))).toList

/-- The file. -/
def render (s : KsmStat) : List Char :=
  s.fields.flatMap fun field => field.render ++ ['\n']

end KsmStat

/-- A line of `smaps` that says nothing of KSM. -/
structure OtherLine where
  text : List Char
  no_newline : '\n' ∉ text
  no_return : text.getLast? ≠ some '\r'
  not_ksm : ¬ "KSM:".toList <+: text

/-- A line of `smaps`. -/
inductive SmapsLine where
  /-- The amount of an area, in a column of some width. -/
  | ksm (blanks : ℕ) (kib : UInt64)
  | other (line : OtherLine)

/-- The line as the kernel writes it. -/
def SmapsLine.render : SmapsLine → List Char
  | .ksm blanks kib =>
    "KSM:".toList ++ (List.replicate blanks ' ' ++ (decimal kib.toNat ++ " kB".toList))
  | .other line => line.text

/-- What it says about merging. -/
def SmapsLine.kib : SmapsLine → Option UInt64
  | .ksm _ kib => some kib
  | .other _ => none

/-- A process as the kernel knows it. Older kernels have no counters of a process. -/
structure KernelProcess where
  stat : StatLine
  ksmStat : Option KsmStat
  smaps : List SmapsLine

namespace KernelProcess

/-- The file. -/
def smapsText (p : KernelProcess) : List Char :=
  p.smaps.flatMap fun line => line.render ++ ['\n']

/-- The process has memory, and it has asked for merging or has merged pages mapped. -/
def UsesKsm (p : KernelProcess) : Prop :=
  p.smaps ≠ [] ∧ (p.ksmStat.bind KsmStat.mergeable = some true ∨
    p.ksmStat.bind KsmStat.mergeAny = some true ∨ ∃ kib ∈ p.smaps.filterMap SmapsLine.kib, 0 < kib)

end KernelProcess

/-- The files show the processes that there are. -/
structure Shows (source : TelemetrySource) (root : String) (names : List (List Char))
    (processes : UInt32 → Option KernelProcess) : Prop where
  listing : source.readDirNames root = .ok names
  canonical : ∀ name ∈ names, ∀ pid, parseU32 name = some pid → name = decimal pid.toNat
  stat : ∀ pid, source.readToString (procPath root (decimal pid.toNat) "stat") =
    match processes pid with
    | some p => .ok p.stat.render
    | none => .error .notFound
  ksmStat : ∀ pid, source.readToString (procPath root (decimal pid.toNat) "ksm_stat") =
    match (processes pid).bind KernelProcess.ksmStat with
    | some s => .ok s.render
    | none => .error .notFound
  smaps : ∀ pid, source.readToString (procPath root (decimal pid.toNat) "smaps") =
    match processes pid with
    | some p => .ok p.smapsText
    | none => .error .notFound

/-! ## §4 What is found -/

theorem splitWhitespace_blanks (n : ℕ) (text : List Char) :
    splitWhitespace (List.replicate n ' ' ++ text) = splitWhitespace text := by
  induction n with
  | zero => rfl
  | succ n ih =>
    have hspace := splitWhitespace_append_cons (c := ' ') (by decide) []
      (List.replicate n ' ' ++ text)
    rw [splitWhitespace_nil, List.nil_append, List.nil_append] at hspace
    rw [List.replicate_succ, List.cons_append, hspace, ih]

/-- The amounts are read back. -/
theorem mapM_amounts (smaps : List SmapsLine) :
    ((smaps.map SmapsLine.render).filterMap (stripPrefix "KSM:".toList)).mapM (fun value =>
      (splitWhitespace value).head?.bind parseU64) = some (smaps.filterMap SmapsLine.kib) := by
  induction smaps with
  | nil => rfl
  | cons line smaps ih =>
    cases line with
    | ksm blanks kib =>
      have hwords : (splitWhitespace (List.replicate blanks ' ' ++
          (decimal kib.toNat ++ " kB".toList))).head? = some (decimal kib.toNat) := by
        have hspace := splitWhitespace_append_cons (c := ' ') (by decide) (decimal kib.toNat)
          "kB".toList
        rw [splitWhitespace_of_word (word_decimal _)] at hspace
        rw [splitWhitespace_blanks]
        exact congrArg List.head? hspace
      have hsome : stripPrefix "KSM:".toList (SmapsLine.ksm blanks kib).render =
          some (List.replicate blanks ' ' ++ (decimal kib.toNat ++ " kB".toList)) :=
        stripPrefix_append _ _
      have hkib : (SmapsLine.ksm blanks kib).kib = some kib := rfl
      rw [List.map_cons, List.filterMap_cons_some hsome, List.mapM_cons, ih, hwords,
        List.filterMap_cons_some hkib, Option.bind_some, parseU64_decimal]
      rfl
    | other line =>
      have hnone : stripPrefix "KSM:".toList (SmapsLine.other line).render = none :=
        if_neg fun h => line.not_ksm (List.isPrefixOf_iff_prefix.1 h)
      rw [List.map_cons, List.filterMap_cons_none hnone, ih]
      rfl

theorem lines_smapsText (p : KernelProcess) : lines p.smapsText = p.smaps.map SmapsLine.render := by
  apply lines_flatMap_map
  intro line _
  cases line with
  | other line => exact ⟨line.no_newline, line.no_return⟩
  | ksm blanks kib =>
    have hend : (SmapsLine.ksm blanks kib).render =
        ("KSM:".toList ++ List.replicate blanks ' ' ++ decimal kib.toNat ++ " k".toList) ++
          ['B'] := by
      simp [SmapsLine.render]
    refine ⟨?_, by rw [hend, List.getLast?_concat]; decide⟩
    simp only [SmapsLine.render, List.mem_append, not_or]
    refine ⟨by decide, by simp [List.mem_replicate], fun h => ?_, by decide⟩
    exact absurd ((word_decimal kib.toNat).solid '\n' h) (by decide)

/-- Something is mapped when some area has something. -/
theorem parseSmapsKsmBytes_pos (p : KernelProcess) :
    0 < (parseSmapsKsmBytes p.smapsText).getD 0 ↔
      ∃ kib ∈ p.smaps.filterMap SmapsLine.kib, 0 < kib := by
  unfold parseSmapsKsmBytes
  rw [lines_smapsText, mapM_amounts]
  simp only [Option.bind_eq_bind, Option.bind_some]
  generalize p.smaps.filterMap SmapsLine.kib = amounts
  have hsum := U64.toNat_foldl_saturatingAdd (amounts.map fun kib => U64.saturatingMul kib 1024) 0
  rw [List.foldl_map, List.map_map, UInt64.toNat_zero, Nat.zero_add] at hsum
  have hpos : 0 < (amounts.map (UInt64.toNat ∘ fun kib => U64.saturatingMul kib 1024)).sum ↔
      ∃ kib ∈ amounts, 0 < kib := by
    rw [List.sum_pos_iff_exists_pos_nat]
    simp only [List.mem_map, exists_exists_and_eq_and]
    refine exists_congr fun kib => and_congr_right fun _ => ?_
    rw [Function.comp_apply, U64.toNat_saturatingMul, UInt64.lt_iff_toNat_lt]
    have hvalue : (1024 : UInt64).toNat = 1024 := rfl
    rw [hvalue, UInt64.toNat_zero]
    omega
  split
  · next hnil => simp [hnil]
  · rw [Option.getD_some, UInt64.lt_iff_toNat_lt, hsum, UInt64.toNat_zero, ← hpos]
    omega

/-- A key and its value are read from their line, with a colon or without. -/
theorem statField_render (f : KsmField) : statField f.render = some (f.key, f.value) := by
  have hsame : ∀ text : List Char, ':' ∉ text →
      (text.map fun c => if c = ':' then ' ' else c) = text := by
    intro text htext
    have hid : text.map (fun c => if c = ':' then ' ' else c) = text.map id :=
      List.map_congr_left fun c hc => if_neg fun h : c = ':' => htext (h ▸ hc)
    rw [hid, List.map_id]
  have hkey : ':' ∉ f.key := fun h => f.no_colon (List.mem_append_left _ h)
  have hvalue : ':' ∉ f.value := fun h => f.no_colon (List.mem_append_right _ h)
  have hwords (n : ℕ) : splitWhitespace (f.key ++ ' ' :: (List.replicate n ' ' ++ f.value)) =
      [f.key, f.value] := by
    rw [splitWhitespace_append_cons (by decide), splitWhitespace_of_word f.key_word,
      splitWhitespace_blanks, splitWhitespace_of_word f.value_word]
    rfl
  have hline : (f.render.map fun c => if c = ':' then ' ' else c) =
      f.key ++ ' ' :: (List.replicate (if f.colon then 1 else 0) ' ' ++ f.value) := by
    cases hc : f.colon <;> simp [KsmField.render, hc, hsame _ hkey, hsame _ hvalue]
  rw [statField, hline, hwords]

theorem lines_ksmStat (s : KsmStat) : lines s.render = s.fields.map KsmField.render := by
  apply lines_flatMap_map
  intro f _
  have hsolid {w : List Char} (hw : Word w) {c : Char} (hc : UnixPath.isWhiteSpace c = true) :
      c ∉ w := fun h => by simp [hw.solid c h] at hc
  constructor
  · have hcolon : '\n' ∉ if f.colon then [':'] else [] := by
      cases f.colon <;> decide
    simp only [KsmField.render, List.mem_append, List.mem_cons, not_or]
    exact ⟨⟨hsolid f.key_word (by decide), hcolon⟩, by decide, hsolid f.value_word (by decide)⟩
  · intro hlast
    have hvalue : f.value.getLast? = some '\r' := by
      rw [KsmField.render, List.getLast?_append_of_ne_nil _ (List.cons_ne_nil _ _),
        List.getLast?_cons_of_ne_nil f.value_word.nonempty] at hlast
      exact hlast
    exact hsolid f.value_word (c := '\r') (by decide) (List.mem_of_getLast? hvalue)

/-- What the kernel writes of a process is read back. -/
theorem parseProcessKsmStat_render (s : KsmStat) (identity : StableProcessIdentity) :
    parseProcessKsmStat s.render identity =
      { identity
        ksmRmapItems := some s.rmapItems
        ksmZeroPages := some s.zeroPages
        ksmMergingPages := some s.mergingPages
        ksmProcessProfit := some s.profit
        ksmMergeAny := s.mergeAny
        ksmMergeable := s.mergeable
        currentMappedKsmBytes := none
        residualAccounting := false } := by
  have hpairs : (lines s.render).filterMap statField = s.fields.map fun f => (f.key, f.value) := by
    rw [lines_ksmStat, List.filterMap_map]
    have hsome : (statField ∘ KsmField.render) = some ∘ fun f => (f.key, f.value) :=
      funext statField_render
    rw [hsome, ← List.filterMap_map, List.filterMap_some]
  have hnatural (n : UInt64) : parseU64 (signed n.toNat) = some n := parseU64_decimal n
  have hflag (b : Bool) : parseYesNo (KsmStat.yesNo b) = some b := by
    cases b <;> decide
  unfold parseProcessKsmStat
  rw [hpairs]
  obtain ⟨rmapItems, zeroPages, mergingPages, profit, mergeAny, mergeable⟩ := s
  -- the keys are different, so the order does not matter
  cases mergeAny <;> cases mergeable <;>
    simp [KsmStat.fields, KsmStat.number, KsmStat.flag, lastValue_cons, hnatural, hflag]

section Found

variable {source : TelemetrySource} {root : String} {names : List (List Char)}
  {processes : UInt32 → Option KernelProcess} {excludedOwned : UInt32 → Option (Option UInt64)}

/-- The start tick is found behind the name, whatever the process calls itself. -/
theorem procStartTicks_shown (h : Shows source root names processes) {pid : UInt32}
    {p : KernelProcess} (hp : processes pid = some p) :
    procStartTicks source root pid = some p.stat.starttime := by
  have hread := h.stat pid
  rw [hp] at hread
  have hword : p.stat.words[19]? = some (decimal p.stat.starttime.toNat) := rfl
  unfold procStartTicks
  rw [hread]
  simp only [StatLine.render_eq, rfind_delimited _ p.stat.notMem_behind, Option.bind_eq_bind,
    Option.bind_some, drop_delimited, StatLine.splitWhitespace_behind, hword, parseU64_decimal]

/-- What is read of a process. -/
def KernelProcess.metrics (p : KernelProcess) (pid : UInt32) : KsmProcessMetrics :=
  { parseProcessKsmStat ((p.ksmStat.map KsmStat.render).getD [])
      ⟨pid, p.stat.starttime, "redacted"⟩ with
    currentMappedKsmBytes := parseSmapsKsmBytes p.smapsText }

/-- A process with memory is live when it takes part. -/
theorem live_metrics (p : KernelProcess) (pid : UInt32) (hsmaps : p.smaps ≠ []) :
    classifyProcessKsmActivity (p.metrics pid) = .liveExternal ↔ p.UsesKsm := by
  have hlive (m : KsmProcessMetrics) : classifyProcessKsmActivity m = .liveExternal ↔
      m.ksmMergeable = some true ∨ m.ksmMergeAny = some true ∨
        0 < m.currentMappedKsmBytes.getD 0 := by
    unfold classifyProcessKsmActivity
    split_ifs <;> simp_all
  rw [hlive, KernelProcess.UsesKsm, and_iff_right hsmaps]
  unfold KernelProcess.metrics
  dsimp only
  rw [parseSmapsKsmBytes_pos]
  cases p.ksmStat with
  | none =>
    have hempty : lines [] = [] := rfl
    have hnone (key : List Char) : lastValue ([] : List (List Char × List Char)) key = none := rfl
    simp [parseProcessKsmStat, hempty, hnone]
  | some s =>
    simp only [Option.map_some, Option.getD_some, parseProcessKsmStat_render, Option.bind_some]

/-- A process is owned when the tick it was given with is the one at which it was started. -/
theorem exactOwnedTuple_iff (pid : UInt32) (startTicks : UInt64) :
    exactOwnedTuple excludedOwned pid (some startTicks) = true ↔
      (excludedOwned pid).join = some startTicks := by
  unfold exactOwnedTuple
  cases (excludedOwned pid).join <;> simp

/-- No process without memory areas has anything in its `smaps`. -/
theorem smapsText_eq_nil (p : KernelProcess) : p.smapsText = [] ↔ p.smaps = [] := by
  cases hsmaps : p.smaps <;> simp [KernelProcess.smapsText, hsmaps]

/-- What an entry of the listing comes to. -/
theorem inspectEntry_shown (h : Shows source root names processes) {name : List Char}
    (hname : name ∈ names) :
    inspectEntry source root excludedOwned name =
      .ok ((parseU32 name).bind fun pid => (processes pid).bind fun p =>
        if (excludedOwned pid).join = some p.stat.starttime ∨ p.smaps = [] then none
        else some (p.metrics pid)) := by
  unfold inspectEntry
  cases hpid : parseU32 name with
  | none => rfl
  | some pid =>
    have hsmaps := h.smaps pid
    have hstat := h.ksmStat pid
    rw [← h.canonical name hname pid hpid] at hsmaps hstat
    cases hp : processes pid with
    | none =>
      rw [hp] at hsmaps hstat
      -- it has gone: there is nothing to read, whoever it was
      have hread : readPresent source (procPath root name "smaps") = .ok none := by
        rw [readPresent, hsmaps]
      have htext : readPresent source (procPath root name "ksm_stat") = .ok none := by
        rw [readPresent, hstat]
        rfl
      dsimp only [Option.bind_some]
      rw [htext, hread, hp]
      split_ifs <;> rfl
    | some p =>
      rw [hp] at hsmaps hstat
      have htext : readPresent source (procPath root name "ksm_stat") =
          .ok (p.ksmStat.map KsmStat.render) := by
        rw [readPresent, hstat, Option.bind_some]
        cases p.ksmStat <;> rfl
      have hread : readPresent source (procPath root name "smaps") = .ok (some p.smapsText) := by
        rw [readPresent, hsmaps]
      dsimp only [Option.bind_some]
      rw [procStartTicks_shown h hp, hp, Option.bind_some]
      by_cases hexact : (excludedOwned pid).join = some p.stat.starttime
      · rw [if_pos ((exactOwnedTuple_iff _ _).2 hexact), if_pos (.inl hexact)]
      · rw [if_neg (mt (exactOwnedTuple_iff _ _).1 hexact), htext, hread]
        by_cases hempty : p.smaps = []
        · rw [if_pos (.inr hempty), (smapsText_eq_nil p).2 hempty]
          rfl
        · rw [if_neg (not_or.2 ⟨hexact, hempty⟩)]
          have hne := mt (smapsText_eq_nil p).1 hempty
          cases htext' : p.smapsText with
          | nil => exact absurd htext' hne
          | cons c rest =>
            unfold KernelProcess.metrics
            rw [htext']
            rfl

/-- The inspection of processes that are all shown succeeds. It finds as live users exactly the
processes listed first that use KSM, the owned ones apart. -/
theorem external_users_found (h : Shows source root names processes)
    (excludedOwned : UInt32 → Option (Option UInt64)) :
    ∃ inspection, inspectExternalKsmProcessesOwned source root excludedOwned = .ok inspection ∧
      ∀ pid, (∃ m ∈ inspection.liveConsumers, m.identity.pid = pid) ↔
        decimal pid.toNat ∈ names.take 4096 ∧ ∃ p, processes pid = some p ∧ p.UsesKsm ∧
          (excludedOwned pid).join ≠ some p.stat.starttime := by
  set shown := fun name => (parseU32 name).bind fun pid => (processes pid).bind fun p =>
    if (excludedOwned pid).join = some p.stat.starttime ∨ p.smaps = [] then none
    else some (p.metrics pid) with hshown
  -- each entry is inspected by itself
  have hentries : (names.take 4096).mapM (inspectEntry source root excludedOwned) =
      .ok ((names.take 4096).map shown) := by
    rw [mapM_eq_ok, List.forall₂_map_right_iff, List.forall₂_same]
    exact fun name hname => inspectEntry_shown h (List.mem_of_mem_take hname)
  have hrun : inspectExternalKsmProcessesOwned source root excludedOwned =
      .ok (.ofInspected ((names.take 4096).map shown).reduceOption) := by
    rw [inspectExternalKsmProcessesOwned, h.listing]
    dsimp only
    rw [hentries]
    rfl
  refine ⟨_, hrun, fun pid => ?_⟩
  simp only [ExternalKsmInspection.ofInspected, List.mem_filter, List.reduceOption_mem_iff,
    List.mem_map, decide_eq_true_eq]
  constructor
  · rintro ⟨m, ⟨⟨name, hname, hm⟩, hlive⟩, rfl⟩
    obtain ⟨pid, hpid, hm⟩ := Option.bind_eq_some_iff.1 hm
    obtain ⟨p, hp, hm⟩ := Option.bind_eq_some_iff.1 hm
    obtain ⟨hforeign, hmetrics⟩ := Option.ite_none_left_eq_some.1 hm
    obtain ⟨hforeign, hsmaps⟩ := not_or.1 hforeign
    obtain rfl : p.metrics pid = m := Option.some.inj hmetrics
    rw [h.canonical name (List.mem_of_mem_take hname) pid hpid] at hname
    exact ⟨hname, p, hp, (live_metrics p pid hsmaps).1 hlive, hforeign⟩
  · rintro ⟨hname, p, hp, huses, hforeign⟩
    refine ⟨p.metrics pid, ⟨⟨_, hname, ?_⟩, (live_metrics p pid huses.1).2 huses⟩, rfl⟩
    rw [hshown]
    dsimp only
    rw [parseU32_decimal, Option.bind_some, hp, Option.bind_some,
      if_neg (not_or.2 ⟨hforeign, huses.1⟩)]

/-- A file of another owner's process that is there and cannot be read ends the inspection. -/
theorem unreadable_refuses (h : source.readDirNames root = .ok names) {name : List Char}
    (hname : name ∈ names.take 4096) {pid : UInt32} (hpid : parseU32 name = some pid)
    (hforeign : exactOwnedTuple excludedOwned pid (procStartTicks source root pid) ≠ true)
    {file : String} (hfile : file ∈ ["ksm_stat", "smaps"]) {kind : IoErrorKind}
    (hkind : kind ≠ .notFound)
    (hread : source.readToString (procPath root name file) = .error kind) :
    ∃ refusal, inspectExternalKsmProcessesOwned source root excludedOwned = .error refusal := by
  -- this entry is refused, whatever the others are
  have hfails : ∀ found, inspectEntry source root excludedOwned name ≠ .ok found := by
    intro found hfound
    have hpresent : ∀ text, readPresent source (procPath root name file) ≠ .ok text := by
      intro text htext
      rw [readPresent, hread] at htext
      cases kind <;> cases htext
      exact hkind rfl
    rw [inspectEntry, hpid] at hfound
    dsimp only at hfound
    rw [if_neg hforeign] at hfound
    obtain ⟨text, htext, hfound⟩ := bind_eq_ok.1 hfound
    obtain ⟨smaps, hsmaps, -⟩ := bind_eq_ok.1 hfound
    rcases List.mem_pair.1 hfile with rfl | rfl
    · exact hpresent text htext
    · exact hpresent smaps hsmaps
  cases hrun : inspectExternalKsmProcessesOwned source root excludedOwned with
  | error refusal => exact ⟨refusal, rfl⟩
  | ok inspection =>
    rw [inspectExternalKsmProcessesOwned, h] at hrun
    obtain ⟨found, hfound, -⟩ := bind_eq_ok.1 hrun
    obtain ⟨m, -, hm⟩ := exists_image_of_mapM hfound hname
    exact absurd hm (hfails m)

end Found

/-! ## §5 A process that is found -/

namespace HostileProcess

/-- A process with a misleading name, on a kernel without counters of a process. -/
def process : KernelProcess where
  stat := Collector.hostileLine
  ksmStat := none
  smaps := [.ksm 16 4, .ksm 16 0]

/-- The host has one process. -/
def processes (pid : UInt32) : Option KernelProcess :=
  if pid = 42 then some process else none

/-- Its directory. -/
def directory : List Char := "42".toList

/-- Its files. -/
def source : TelemetrySource where
  readToString path :=
    if path = procPath "/proc" directory "stat" then .ok process.stat.render
    else if path = procPath "/proc" directory "smaps" then .ok process.smapsText
    else .error .notFound
  readDirNames _ := .ok [directory, "self".toList]
  readLink _ := .error .notFound

/-- A path names its directory and its file. -/
theorem procPath_inj {root file file' : String} {name name' : List Char} (hname : '/' ∉ name)
    (hname' : '/' ∉ name') (h : procPath root name file = procPath root name' file') :
    name = name' ∧ file = file' := by
  have hchars := congrArg String.toList h
  simp only [procPath, String.toList_append, String.toList_ofList, List.append_assoc,
    List.append_cancel_left_eq] at hchars
  have hslash : "/".toList = ['/'] := rfl
  rw [hslash, List.singleton_append, List.singleton_append] at hchars
  have hfront : ∀ {text : List Char}, '/' ∉ text → ∀ rest,
      (text ++ '/' :: rest).takeWhile (· ≠ '/') = text := by
    intro text htext rest
    have hpass : ∀ c ∈ text, decide (c ≠ '/') = true :=
      fun c hc => decide_eq_true fun h : c = '/' => htext (h ▸ hc)
    rw [List.takeWhile_append_of_pos hpass]
    simp
  have hnames : name = name' := by
    rw [← hfront hname file.toList, hchars, hfront hname']
  rw [hnames] at hchars
  exact ⟨hnames, String.toList_injective (List.cons.inj (List.append_cancel_left hchars)).2⟩

theorem slash_notMem_decimal (n : ℕ) : '/' ∉ decimal n := fun h =>
  absurd (isAlphanum_of_mem_toDigits (by decide) (by decide) h) (by decide)

/-- The file of a process is that of another one only when it is the same process. -/
theorem readToString_procPath (pid : UInt32) (file : String) :
    source.readToString (procPath "/proc" (decimal pid.toNat) file) =
      if pid = 42 ∧ file = "stat" then .ok process.stat.render
      else if pid = 42 ∧ file = "smaps" then .ok process.smapsText
      else .error .notFound := by
  have hpath (file' : String) :
      procPath "/proc" (decimal pid.toNat) file = procPath "/proc" directory file' ↔
        pid = 42 ∧ file = file' := by
    constructor
    · intro h
      obtain ⟨hpid, hfile⟩ := procPath_inj (slash_notMem_decimal _) (by decide) h
      have hread := congrArg parseU32 hpid
      rw [parseU32_decimal] at hread
      exact ⟨Option.some.inj hread, hfile⟩
    · rintro ⟨rfl, rfl⟩
      rfl
  simp only [source, hpath]

theorem shows_process : Shows source "/proc" [directory, "self".toList] processes where
  listing := rfl
  canonical name hname pid hpid := by
    rcases List.mem_pair.1 hname with rfl | rfl
    · obtain rfl : 42 = pid := Option.some.inj hpid
      rfl
    · cases hpid
  stat pid := by
    rw [readToString_procPath, processes]
    split_ifs <;> simp_all
  ksmStat pid := by
    rw [readToString_procPath, processes]
    split_ifs <;> simp_all [process]
  smaps pid := by
    rw [readToString_procPath, processes]
    split_ifs <;> simp_all

end HostileProcess

theorem hostileProcess_found : ∃ inspection,
    inspectExternalKsmProcessesOwned HostileProcess.source "/proc" (fun _ => none) =
      .ok inspection ∧ ∃ m ∈ inspection.liveConsumers, m.identity.pid = 42 := by
  obtain ⟨inspection, hrun, hfound⟩ :=
    external_users_found HostileProcess.shows_process fun _ => none
  have huses : HostileProcess.process.UsesKsm :=
    ⟨List.cons_ne_nil _ _, .inr (.inr ⟨4, by decide, by decide⟩)⟩
  exact ⟨inspection, hrun, (hfound 42).2 ⟨by decide, _, rfl, huses, nofun⟩⟩

end Nemor.Ksm
