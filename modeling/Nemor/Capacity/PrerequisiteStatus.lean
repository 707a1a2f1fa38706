import Mathlib.Data.List.TakeWhile
import Nemor.Capacity.Evidence
import Nemor.Lib.KeyedLines
import Nemor.Lib.Rendering

/-!
# The status of a prerequisite

The experiments that a capacity benchmark builds on leave a `STATUS` file behind, a line with a key
and a value for each thing that was checked. The file is read for the keys that its kind of
experiment has; lines with other keys have to be well formed but are only kept. What is asked of the
relevant values is fixed: a terminal state that passed, hashes, gates and an identity.

- §1: lines
- §2: the record
- §3: what a line says
- §4: what is accepted
- §5: other orders, other lines and other line ends
- §6: texts with single carriage returns
-/

namespace Nemor.Capacity

open Fallible KeyedLines

/-! ## §1 Lines -/

/-- Which earlier validation a status file is of. -/
inductive CapacityPrerequisiteKind where
  | externalTarget
  | composition
  deriving DecidableEq

/-- The key under which its identity stands. -/
def CapacityPrerequisiteKind.identityKey : CapacityPrerequisiteKind → String
  | .externalTarget => "validation_id"
  | .composition => "experiment_id"

/-- The keys that are read. Others are metadata. -/
def statusRelevantKeys : CapacityPrerequisiteKind → List String
  | .externalTarget =>
    ["validation_id", "source_commit", "manifest_sha256", "manifest_payload_sha256",
      "execution_payload_sha256", "invocation_count", "validator_report_lifecycle",
      "validator_report_raw_sha256", "validator_report_canonical_sha256", "direct_shadow_gates",
      "required_damos_gates", "hot_warm_service", "cold_controlled_refault", "host_oom", "cleanup",
      "recovery", "idempotent_recovery", "structural_restore", "legacy_global_report_absent",
      "validator_state_absent", "final_nr_kdamonds", "capacity", "effectiveness",
      "production_activation", "status", "classification"]
  | .composition =>
    ["experiment_id", "source_commit", "manifest_sha256", "manifest_payload_sha256",
      "execution_payload_sha256", "external_target_lineage", "invocation_count", "runs", "levels",
      "sustainable_levels", "baseline_runs", "capacity_runs",
      "transaction_scoped_capacity_reports", "report_lifecycle", "legacy_global_report_absent",
      "validator_state_absent", "host_oom", "cgroup_oom_kill", "watchdog", "target_cleanup",
      "scope_cleanup", "structural_restore", "final_nr_kdamonds", "capacity", "effectiveness",
      "production_activation", "status", "classification"]

/-- Is this a key that the kind of experiment has? -/
def relevantKey (kind : CapacityPrerequisiteKind) (key : String) : Bool :=
  (statusRelevantKeys kind).contains key

/-- `\r\n` as `\n`. -/
def normalizeLineEnds : List Char → List Char
  | '\r' :: '\n' :: rest => '\n' :: normalizeLineEnds rest
  | c :: rest => c :: normalizeLineEnds rest
  | [] => []

/-- `is_ascii_whitespace`. -/
def isAsciiWhitespace (c : Char) : Bool :=
  c = ' ' || c = '\t' || c = '\n' || c = '\x0c' || c = '\r'

/-- `trim_ascii`. -/
def trimAscii (text : List Char) : List Char :=
  ((text.dropWhile isAsciiWhitespace).reverse.dropWhile isAsciiWhitespace).reverse

/-- A character of a key. -/
def isKeyChar (c : Char) : Bool := ('a' ≤ c && c ≤ 'z') || ('0' ≤ c && c ≤ '9') || c = '_'

/-- A line with a key and a value, or none when it is blank. -/
def readStatusLine (raw : List Char) : Except String (Option (String × String)) :=
  let line := trimAscii raw
  if line.isEmpty then .ok none
  else
    match line.splitOn '=' with
    | [key, value] =>
      let key := trimAscii key
      let value := trimAscii value
      if key.isEmpty || value.isEmpty || !key.all isKeyChar then
        .error "malformed capacity prerequisite STATUS line"
      else .ok (some (String.ofList key, String.ofList value))
    | _ => .error "malformed capacity prerequisite STATUS line"

/-- The relevant keys with their values, and the other lines. -/
def parseStatusEntries (status : List Char) (kind : CapacityPrerequisiteKind) :
    Except String (Collected String String) := do
  let normalized := normalizeLineEnds status
  refuse ('\r' ∈ normalized)
    "capacity prerequisite STATUS contains an unsupported line ending"
  let collected ← (normalized.splitOn '\n').foldlM
    (addLine (relevantKey kind) "duplicate relevant capacity prerequisite STATUS key"
      readStatusLine) ([], [])
  refuse (collected.1.isEmpty = true ∧ collected.2.isEmpty = true)
    "capacity prerequisite STATUS is empty"
  return collected

/-! ## §2 The record -/

/-- The value of a key. -/
def statusValue (entries : List (String × String)) (key : String) : Option String :=
  entries.lookup key

/-- A key has exactly this value. -/
def expectStatus (entries : List (String × String)) (gate : String × String) :
    Except String Unit :=
  refuse (statusValue entries gate.1 ≠ some gate.2)
    ("capacity prerequisite STATUS " ++ gate.1 ++ " mismatch")

/-- 64 bytes, each a digit or one of the letters from `a` to `f`. -/
def validLowercaseSha256 (value : String) : Bool :=
  let bytes := value.toByteArray.data.toList
  bytes.length = 64 && bytes.all fun byte => (48 ≤ byte && byte ≤ 57) || (97 ≤ byte && byte ≤ 102)

/-- The hashes of every kind of experiment. -/
def statusHashKeys : List String :=
  ["manifest_sha256", "manifest_payload_sha256", "execution_payload_sha256"]

/-- The hashes of one kind. -/
def kindHashKeys : CapacityPrerequisiteKind → List String
  | .externalTarget => ["validator_report_raw_sha256", "validator_report_canonical_sha256"]
  | .composition => []

/-- What every kind of experiment has to say. -/
def statusGates : List (String × String) :=
  [("invocation_count", "1"), ("structural_restore", "PASS"),
    ("legacy_global_report_absent", "true"), ("validator_state_absent", "true"),
    ("final_nr_kdamonds", "0"), ("capacity", "NotEvaluated"), ("effectiveness", "NotEvaluated"),
    ("production_activation", "false")]

/-- What one kind has to say. -/
def kindGates : CapacityPrerequisiteKind → List (String × String)
  | .externalTarget =>
    [("validator_report_lifecycle", "PASS"), ("direct_shadow_gates", "4/4"),
      ("required_damos_gates", "48/48"), ("hot_warm_service", "PASS"),
      ("cold_controlled_refault", "PASS"), ("host_oom", "0"), ("cleanup", "PASS"),
      ("recovery", "PASS"), ("idempotent_recovery", "PASS")]
  | .composition =>
    [("runs", "6/6"), ("levels", "18/18"), ("sustainable_levels", "18/18"),
      ("baseline_runs", "3"), ("capacity_runs", "3"),
      ("transaction_scoped_capacity_reports", "9"), ("report_lifecycle", "PASS"),
      ("host_oom", "0"), ("cgroup_oom_kill", "0"), ("watchdog", "false"),
      ("target_cleanup", "PASS"), ("scope_cleanup", "PASS")]

/-- The classifications of an experiment that passed. -/
def allowedClassifications : CapacityPrerequisiteKind → List String
  | .externalTarget => ["PASS"]
  | .composition => ["PASS", "COMPLETED_COMPOSITION_FRAMEWORK_VALIDATION"]

/-- An accepted status file. -/
structure CapacityPrerequisiteStatus where
  version : UInt32
  kind : CapacityPrerequisiteKind
  identity : String
  sourceCommit : String
  manifestSha256 : String
  manifestPayloadSha256 : String
  executionPayloadSha256 : String
  validatorReportRawSha256 : Option String
  validatorReportCanonicalSha256 : Option String
  externalTargetIdentity : Option String
  invocationCount : UInt32
  cleanupPassed : Bool
  structuralRestorePassed : Bool
  legacyGlobalReportAbsent : Bool
  validatorStateAbsent : Bool
  finalNrKdamonds : UInt32
  capacityEvaluation : EvaluationState
  effectivenessEvaluation : EvaluationState
  productionActivationAuthorized : Bool
  unknownMetadata : List (String × String)
  deriving DecidableEq

/-- The version of an accepted status. -/
def capacityPrerequisiteStatusContractVersion : UInt32 := 1

/-- The check of the terminal state. -/
def checkTerminal (entries : List (String × String)) (kind : CapacityPrerequisiteKind) :
    Except String Unit := do
  let statusTerminal := statusValue entries "status"
  let classificationTerminal := statusValue entries "classification"
  refuse (statusTerminal = none ∧ classificationTerminal = none)
    "capacity prerequisite STATUS terminal state is missing"
  refuse (statusTerminal.any (· ≠ "PASS") = true)
    "capacity prerequisite STATUS terminal status is not PASS"
  refuse (classificationTerminal.any (fun value =>
      !(allowedClassifications kind).contains value) = true)
    "capacity prerequisite STATUS terminal classification conflicts with PASS"

/-- A key has a digest. -/
def checkHash (entries : List (String × String)) (key : String) : Except String Unit :=
  refuse ((statusValue entries key).any validLowercaseSha256 = false)
    ("capacity prerequisite STATUS " ++ key ++ " is not lowercase SHA-256")

/-- The same for a key that only one kind has. -/
def checkKindHash (entries : List (String × String)) (key : String) :
    Except String Unit := do
  let value ← okOr (statusValue entries key) "STATUS hash absent"
  refuse (validLowercaseSha256 value = false)
    "capacity prerequisite STATUS hash is not lowercase SHA-256"

/-- The external target that a composition was made with. -/
def externalTargetIdentity (entries : List (String × String)) :
    CapacityPrerequisiteKind → Except String (Option String)
  | .externalTarget => .ok none
  | .composition =>
    (okOr (statusValue entries "external_target_lineage")
      "STATUS external-target lineage absent").map some

/-- The record of checked entries. -/
def statusRecord (entries unknownMetadata : List (String × String))
    (kind : CapacityPrerequisiteKind) : Except String CapacityPrerequisiteStatus := do
  let identity ← okOr (statusValue entries kind.identityKey) "STATUS identity absent"
  let sourceCommit ← okOr (statusValue entries "source_commit") "STATUS source commit absent"
  let manifestSha256 ← okOr (statusValue entries "manifest_sha256")
    "STATUS manifest SHA-256 absent"
  let manifestPayloadSha256 ← okOr (statusValue entries "manifest_payload_sha256")
    "STATUS manifest payload SHA-256 absent"
  let executionPayloadSha256 ← okOr (statusValue entries "execution_payload_sha256")
    "STATUS execution payload SHA-256 absent"
  let externalTargetIdentity ← externalTargetIdentity entries kind
  let invocationCount ← okOr (statusValue entries "invocation_count")
    "STATUS invocation count absent"
  let invocationCount ← okOr (Text.parseU32 invocationCount.toList) "invalid digit found in string"
  let finalNrKdamonds ← okOr (statusValue entries "final_nr_kdamonds")
    "STATUS final nr_kdamonds absent"
  let finalNrKdamonds ← okOr (Text.parseU32 finalNrKdamonds.toList) "invalid digit found in string"
  return {
    version := capacityPrerequisiteStatusContractVersion
    kind := kind
    identity := identity
    sourceCommit := sourceCommit
    manifestSha256 := manifestSha256
    manifestPayloadSha256 := manifestPayloadSha256
    executionPayloadSha256 := executionPayloadSha256
    validatorReportRawSha256 := statusValue entries "validator_report_raw_sha256"
    validatorReportCanonicalSha256 := statusValue entries "validator_report_canonical_sha256"
    externalTargetIdentity := externalTargetIdentity
    invocationCount := invocationCount
    cleanupPassed :=
      match kind with
      | .externalTarget => statusValue entries "cleanup" = some "PASS"
      | .composition => statusValue entries "target_cleanup" = some "PASS" &&
          statusValue entries "scope_cleanup" = some "PASS"
    structuralRestorePassed := statusValue entries "structural_restore" = some "PASS"
    legacyGlobalReportAbsent :=
      statusValue entries "legacy_global_report_absent" = some "true"
    validatorStateAbsent := statusValue entries "validator_state_absent" = some "true"
    finalNrKdamonds := finalNrKdamonds
    capacityEvaluation := .notEvaluated
    effectivenessEvaluation := .notEvaluated
    productionActivationAuthorized := false
    unknownMetadata := unknownMetadata }

/-- `parse_prerequisite_status`. -/
def parsePrerequisiteStatus (status : List Char) (kind : CapacityPrerequisiteKind) :
    Except String CapacityPrerequisiteStatus := do
  let (entries, unknownMetadata) ← parseStatusEntries status kind
  checkTerminal entries kind
  statusHashKeys.forM (checkHash entries)
  statusGates.forM (expectStatus entries)
  (kindGates kind).forM (expectStatus entries)
  (kindHashKeys kind).forM (checkKindHash entries)
  statusRecord entries unknownMetadata kind

/-! ## §3 What a line says -/

/-- Nothing but white space. -/
def BlankLine (raw : List Char) : Prop := ∀ c ∈ raw, isAsciiWhitespace c = true

/-- `key=value`, with white space around the two. -/
def StatusLine (raw : List Char) (key value : String) : Prop :=
  ∃ before behind, trimAscii raw = before ++ '=' :: behind ∧ '=' ∉ before ∧ '=' ∉ behind ∧
    key = String.ofList (trimAscii before) ∧ value = String.ofList (trimAscii behind) ∧
    trimAscii before ≠ [] ∧ trimAscii behind ≠ [] ∧ ∀ c ∈ trimAscii before, isKeyChar c = true

theorem trimAscii_eq_nil {text : List Char} : trimAscii text = [] ↔ BlankLine text := by
  have hnil (p : Char → Bool) (l : List Char) : l.dropWhile p = [] ↔ ∀ c ∈ l, p c = true :=
    List.dropWhile_eq_nil_iff
  rw [trimAscii, List.reverse_eq_nil_iff, hnil]
  constructor
  · intro h
    -- what is left at the front is not white space
    refine (hnil _ _).1 ?_
    cases hrest : text.dropWhile isAsciiWhitespace with
    | nil => rfl
    | cons c rest =>
      have hc : isAsciiWhitespace c = true := h c (by simp [hrest])
      have hhead := List.head?_dropWhile_not isAsciiWhitespace text
      simp [hrest, hc] at hhead
  · intro h c hc
    rw [List.mem_reverse, (hnil _ _).2 h] at hc
    cases hc

theorem splitOn_eq_pair {c : Char} {text before behind : List Char} :
    text.splitOn c = [before, behind] ↔
      text = before ++ c :: behind ∧ c ∉ before ∧ c ∉ behind := by
  constructor
  · intro h
    have hjoin : [c].intercalate (text.splitOn c) = text := List.intercalate_splitOn c
    rw [h] at hjoin
    refine ⟨?_, Text.notMem_of_mem_splitOn (h ▸ List.mem_cons_self), ?_⟩
    · simpa using hjoin.symm
    · exact Text.notMem_of_mem_splitOn (h ▸ List.mem_cons_of_mem _ List.mem_cons_self)
  · rintro ⟨rfl, hbefore, hbehind⟩
    rw [List.splitOn_append_cons_self_of_not_mem hbefore, List.splitOn_eq_singleton hbehind]

/-- A line is split into its key and its value in one way only. -/
theorem statusLine_iff {raw before behind : List Char} {key value : String}
    (hsplit : (trimAscii raw).splitOn '=' = [before, behind]) :
    StatusLine raw key value ↔
      key = String.ofList (trimAscii before) ∧ value = String.ofList (trimAscii behind) ∧
        trimAscii before ≠ [] ∧ trimAscii behind ≠ [] ∧
        ∀ c ∈ trimAscii before, isKeyChar c = true := by
  constructor
  · rintro ⟨before', behind', hline, hbefore, hbehind, hrest⟩
    have hsame := (splitOn_eq_pair.2 ⟨hline, hbefore, hbehind⟩).symm.trans hsplit
    obtain ⟨rfl, htail⟩ := List.cons.inj hsame
    obtain ⟨rfl, -⟩ := List.cons.inj htail
    exact hrest
  · intro hrest
    obtain ⟨hline, hbefore, hbehind⟩ := splitOn_eq_pair.1 hsplit
    exact ⟨before, behind, hline, hbefore, hbehind, hrest⟩

theorem readStatusLine_eq_ok {raw : List Char} {field : Option (String × String)} :
    readStatusLine raw = .ok field ↔ (BlankLine raw ∧ field = none) ∨
      ∃ key value, StatusLine raw key value ∧ field = some (key, value) := by
  unfold readStatusLine
  simp only [List.isEmpty_iff]
  split
  · -- a blank line, in which no `=` can be
    rename_i hempty
    rw [← trimAscii_eq_nil, Except.ok.injEq]
    constructor
    · rintro rfl
      exact .inl ⟨hempty, rfl⟩
    · rintro (⟨-, rfl⟩ | ⟨key, value, ⟨before, behind, hline, -⟩, -⟩)
      · rfl
      · simp [hempty] at hline
  · rename_i hfilled
    rw [← trimAscii_eq_nil, or_iff_right fun h => hfilled h.1]
    split
    · rename_i before behind hsplit
      simp only [statusLine_iff hsplit]
      -- the code's test for an unusable key or value is the negation of the line's conditions
      split
      · rename_i hbad
        refine iff_of_false nofun ?_
        rintro ⟨key, value, ⟨-, -, hkey, hvalue, hchars⟩, -⟩
        simp [hkey, hvalue, List.all_eq_true.2 hchars] at hbad
      · rename_i hgood
        simp only [Bool.or_eq_true, List.isEmpty_iff, Bool.not_eq_true', not_or,
          Bool.not_eq_false, List.all_eq_true] at hgood
        obtain ⟨⟨hkey, hvalue⟩, hchars⟩ := hgood
        constructor
        · intro h
          exact ⟨_, _, ⟨rfl, rfl, hkey, hvalue, hchars⟩, (Except.ok.inj h).symm⟩
        · rintro ⟨key, value, ⟨rfl, rfl, -⟩, rfl⟩
          rfl
    · -- no `=`, or more than one
      rename_i hother
      refine iff_of_false nofun ?_
      rintro ⟨key, value, ⟨before, behind, hline, hbefore, hbehind, -⟩, -⟩
      exact hother _ _ (splitOn_eq_pair.2 ⟨hline, hbefore, hbehind⟩)

/-! ## §4 What is accepted -/

/-- The lines of a text whose ends are all `\n`. -/
def statusLines (text : List Char) : List (List Char) := (normalizeLineEnds text).splitOn '\n'

/-- The values of the relevant keys. -/
def relevantEntries (kind : CapacityPrerequisiteKind) (text : List Char) :
    List (String × String) :=
  relevantFields (relevantKey kind) readStatusLine (statusLines text)

/-- The metadata of a file, in its order. -/
def otherEntries (kind : CapacityPrerequisiteKind) (text : List Char) :
    List (String × String) :=
  otherFields (relevantKey kind) readStatusLine (statusLines text)

/-- What the entries of a kind of experiment have to be. -/
structure Required (kind : CapacityPrerequisiteKind) (entries : List (String × String)) :
    Prop where
  terminal : statusValue entries "status" ≠ none ∨ statusValue entries "classification" ≠ none
  status : ∀ value, statusValue entries "status" = some value → value = "PASS"
  classification : ∀ value, statusValue entries "classification" = some value →
    value ∈ allowedClassifications kind
  hashes : ∀ key ∈ statusHashKeys ++ kindHashKeys kind, ∃ value,
    statusValue entries key = some value ∧ validLowercaseSha256 value = true
  gates : ∀ gate ∈ statusGates ++ kindGates kind,
    statusValue entries gate.1 = some gate.2
  identity : statusValue entries kind.identityKey ≠ none
  sourceCommit : statusValue entries "source_commit" ≠ none
  lineage : kind = .composition → statusValue entries "external_target_lineage" ≠ none

/-- A text whose lines are well formed and say what is required. -/
structure StatusAccepted (kind : CapacityPrerequisiteKind) (text : List Char) : Prop where
  lineEnds : '\r' ∉ normalizeLineEnds text
  formed : ∀ line ∈ statusLines text, BlankLine line ∨ ∃ key value, StatusLine line key value
  once : ((relevantEntries kind text).map Prod.fst).Nodup
  required : Required kind (relevantEntries kind text)

section Accepted

variable {kind : CapacityPrerequisiteKind} {text : List Char}
  {entries unknown : List (String × String)}

theorem readStatusLine_isOk {line : List Char} : (readStatusLine line).isOk = true ↔
    BlankLine line ∨ ∃ key value, StatusLine line key value := by
  constructor
  · intro h
    obtain ⟨field, hfield⟩ := exists_of_isOk h
    rcases readStatusLine_eq_ok.1 hfield with ⟨hblank, -⟩ | ⟨key, value, hline, -⟩
    · exact .inl hblank
    · exact .inr ⟨key, value, hline⟩
  · rintro (hblank | ⟨key, value, hline⟩)
    · rw [readStatusLine_eq_ok.2 (.inl ⟨hblank, rfl⟩)]
      rfl
    · rw [readStatusLine_eq_ok.2 (.inr ⟨key, value, hline, rfl⟩)]
      rfl

/-- The relevant entries and the others, when the lines are well formed. -/
theorem parseStatusEntries_eq_ok {collected : Collected String String} :
    parseStatusEntries text kind = .ok collected ↔
      '\r' ∉ normalizeLineEnds text ∧
      (∀ line ∈ statusLines text, BlankLine line ∨ ∃ key value, StatusLine line key value) ∧
      ((relevantEntries kind text).map Prod.fst).Nodup ∧
      ¬ (relevantEntries kind text = [] ∧ otherEntries kind text = []) ∧
      collected = (relevantEntries kind text, otherEntries kind text) := by
  have hfold {after : Collected String String} := @foldlM_addLine_eq_ok _ _ _ _
    (relevantKey kind) readStatusLine (statusLines text) _
    "duplicate relevant capacity prerequisite STATUS key" ([], []) after List.nodup_nil
  simp only [readStatusLine_isOk, List.nil_append] at hfold
  rw [parseStatusEntries, refuse_bind_eq_ok, bind_eq_ok]
  refine and_congr_right fun _ => ?_
  constructor
  · rintro ⟨after, hlines, hafter⟩
    obtain ⟨hformed, rfl, honce⟩ := hfold.1 hlines
    obtain ⟨hfilled, hcollected⟩ := refuse_bind_eq_ok.1 hafter
    refine ⟨hformed, honce, fun h => hfilled ?_, (Except.ok.inj hcollected).symm⟩
    exact ⟨List.isEmpty_iff.2 h.1, List.isEmpty_iff.2 h.2⟩
  · rintro ⟨hformed, honce, hfilled, rfl⟩
    refine ⟨_, hfold.2 ⟨hformed, rfl, honce⟩, refuse_bind_eq_ok.2 ⟨fun h => hfilled ?_, rfl⟩⟩
    exact ⟨List.isEmpty_iff.1 h.1, List.isEmpty_iff.1 h.2⟩

theorem checkTerminal_eq_ok : checkTerminal entries kind = .ok () ↔
    (statusValue entries "status" ≠ none ∨ statusValue entries "classification" ≠ none) ∧
      (∀ value, statusValue entries "status" = some value → value = "PASS") ∧
      ∀ value, statusValue entries "classification" = some value →
        value ∈ allowedClassifications kind := by
  rw [checkTerminal, refuse_bind_eq_ok, refuse_bind_eq_ok, refuse_eq_ok]
  refine and_congr not_and_or (and_congr ?_ ?_)
  · cases statusValue entries "status" with
    | none => exact iff_of_true (by simp) nofun
    | some value =>
      rw [Option.any_some, decide_eq_true_eq, not_ne_iff]
      exact ⟨fun h _ hvalue => Option.some.inj hvalue ▸ h, fun h => h value rfl⟩
  · cases statusValue entries "classification" with
    | none => exact iff_of_true (by simp) nofun
    | some value =>
      rw [Option.any_some, Bool.not_eq_true', Bool.not_eq_false, List.contains_iff_mem]
      simp only [Option.some.injEq, forall_eq']

theorem checkHash_eq_ok {key : String} : checkHash entries key = .ok () ↔
    ∃ value, statusValue entries key = some value ∧ validLowercaseSha256 value = true := by
  rw [checkHash, refuse_eq_ok, Bool.not_eq_false, Option.any_eq_true]

theorem checkKindHash_eq_ok {key : String} : checkKindHash entries key = .ok () ↔
    ∃ value, statusValue entries key = some value ∧ validLowercaseSha256 value = true := by
  rw [checkKindHash, bind_eq_ok]
  simp only [okOr_eq_ok, refuse_eq_ok, Bool.not_eq_false]

theorem expectStatus_eq_ok {gate : String × String} : expectStatus entries gate = .ok () ↔
    statusValue entries gate.1 = some gate.2 := by
  rw [expectStatus, refuse_eq_ok, not_ne_iff]

/-- Entries as they are required make a record. -/
theorem exists_statusRecord (h : Required kind entries) :
    ∃ record, statusRecord entries unknown kind = .ok record := by
  obtain ⟨identity, hidentity⟩ := Option.ne_none_iff_exists'.1 h.identity
  obtain ⟨commit, hcommit⟩ := Option.ne_none_iff_exists'.1 h.sourceCommit
  have hhash : ∀ key ∈ statusHashKeys, ∃ value, statusValue entries key = some value :=
    fun key hkey => (h.hashes key (List.mem_append_left _ hkey)).imp fun _ hvalue => hvalue.1
  obtain ⟨manifest, hmanifest⟩ := hhash "manifest_sha256" (by simp [statusHashKeys])
  obtain ⟨payload, hpayload⟩ := hhash "manifest_payload_sha256" (by simp [statusHashKeys])
  obtain ⟨execution, hexecution⟩ := hhash "execution_payload_sha256" (by simp [statusHashKeys])
  have hcount := h.gates ("invocation_count", "1") (by simp [statusGates])
  have hkdamonds := h.gates ("final_nr_kdamonds", "0") (by simp [statusGates])
  have hone : Text.parseU32 "1".toList = some 1 := by decide
  have hzero : Text.parseU32 "0".toList = some 0 := by decide
  cases kind with
  | externalTarget =>
    simp only [statusRecord, hidentity, hcommit, hmanifest, hpayload, hexecution, hcount,
      hkdamonds, hone, hzero, okOr_some, ok_bind, externalTargetIdentity]
    exact ⟨_, rfl⟩
  | composition =>
    obtain ⟨lineage, hlineage⟩ := Option.ne_none_iff_exists'.1 (h.lineage rfl)
    simp only [statusRecord, hidentity, hcommit, hmanifest, hpayload, hexecution, hcount,
      hkdamonds, hlineage, hone, hzero, okOr_some, ok_bind, externalTargetIdentity, Except.map]
    exact ⟨_, rfl⟩

/-- A record has an identity, a commit and for a composition what it was composed from. -/
theorem identified_of_statusRecord {record : CapacityPrerequisiteStatus}
    (h : statusRecord entries unknown kind = .ok record) :
    statusValue entries kind.identityKey ≠ none ∧ statusValue entries "source_commit" ≠ none ∧
      (kind = .composition → statusValue entries "external_target_lineage" ≠ none) := by
  unfold statusRecord at h
  obtain ⟨identity, hidentity, h⟩ := bind_eq_ok.1 h
  obtain ⟨commit, hcommit, h⟩ := bind_eq_ok.1 h
  obtain ⟨manifest, -, h⟩ := bind_eq_ok.1 h
  obtain ⟨payload, -, h⟩ := bind_eq_ok.1 h
  obtain ⟨execution, -, h⟩ := bind_eq_ok.1 h
  obtain ⟨target, htarget, -⟩ := bind_eq_ok.1 h
  rw [okOr_eq_ok] at hidentity hcommit
  refine ⟨by simp [hidentity], by simp [hcommit], ?_⟩
  rintro rfl hnone
  rw [externalTargetIdentity, hnone] at htarget
  cases htarget

/-- A record only depends on the values of the keys, and passes the other lines on. -/
theorem statusRecord_congr {entries' unknown' : List (String × String)}
    (h : ∀ key, statusValue entries' key = statusValue entries key) :
    statusRecord entries' unknown' kind = (statusRecord entries unknown kind).map
      fun record => { record with unknownMetadata := unknown' } := by
  have hmap {α β γ : Type} (x : Except String α) (f : α → Except String β) (g : β → γ) :
      (x >>= f).map g = x >>= fun a => (f a).map g := by cases x <;> rfl
  have htarget : externalTargetIdentity entries' kind = externalTargetIdentity entries kind := by
    cases kind with
    | externalTarget => rfl
    | composition => rw [externalTargetIdentity, externalTargetIdentity, h]
  simp only [statusRecord, h, hmap, htarget]
  rfl

/-- The checks of the entries, one after the other, are what is required. -/
theorem required_iff : Required kind entries ↔
    checkTerminal entries kind = .ok () ∧ statusHashKeys.forM (checkHash entries) = .ok () ∧
      statusGates.forM (expectStatus entries) = .ok () ∧
      (kindGates kind).forM (expectStatus entries) = .ok () ∧
      (kindHashKeys kind).forM (checkKindHash entries) = .ok () ∧
      ∃ record, statusRecord entries unknown kind = .ok record := by
  simp only [checkTerminal_eq_ok, forM_eq_ok, checkHash_eq_ok, checkKindHash_eq_ok,
    expectStatus_eq_ok]
  constructor
  · intro h
    refine ⟨⟨h.terminal, h.status, h.classification⟩, fun key hkey => ?_, fun gate hgate => ?_,
      fun gate hgate => ?_, fun key hkey => ?_, exists_statusRecord h⟩
    · exact h.hashes key (List.mem_append_left _ hkey)
    · exact h.gates gate (List.mem_append_left _ hgate)
    · exact h.gates gate (List.mem_append_right _ hgate)
    · exact h.hashes key (List.mem_append_right _ hkey)
  · rintro ⟨⟨hterminal, hstatus, hclass⟩, hhashes, hgates, hkindGates, hkindHashes, record,
      hrecord⟩
    obtain ⟨hidentity, hcommit, hlineage⟩ := identified_of_statusRecord hrecord
    refine ⟨hterminal, hstatus, hclass, fun key hkey => ?_, fun gate hgate => ?_, hidentity, hcommit,
      hlineage⟩
    · exact (List.mem_append.1 hkey).elim (hhashes key) (hkindHashes key)
    · exact (List.mem_append.1 hgate).elim (hgates gate) (hkindGates gate)

theorem parsePrerequisiteStatus_eq_ok {record : CapacityPrerequisiteStatus} :
    parsePrerequisiteStatus text kind = .ok record ↔ StatusAccepted kind text ∧
      statusRecord (relevantEntries kind text) (otherEntries kind text) kind = .ok record := by
  simp only [parsePrerequisiteStatus, bind_eq_ok, parseStatusEntries_eq_ok]
  constructor
  · rintro ⟨_, ⟨hends, hformed, honce, -, rfl⟩, ⟨⟩, hterminal, ⟨⟩, hhashes, ⟨⟩, hgates, ⟨⟩,
      hkindGates, ⟨⟩, hkindHashes, hrecord⟩
    exact ⟨⟨hends, hformed, honce, required_iff.2 ⟨hterminal, hhashes, hgates, hkindGates,
      hkindHashes, record, hrecord⟩⟩, hrecord⟩
  · rintro ⟨h, hrecord⟩
    obtain ⟨hterminal, hhashes, hgates, hkindGates, hkindHashes, -⟩ :=
      (@required_iff kind _ (otherEntries kind text)).1 h.required
    refine ⟨_, ⟨h.lineEnds, h.formed, h.once, ?_, rfl⟩, (), hterminal, (), hhashes, (), hgates, (),
      hkindGates, (), hkindHashes, hrecord⟩
    -- a terminal state is an entry
    rintro ⟨hnil, -⟩
    rcases h.required.terminal with hsome | hsome <;> exact hsome (by rw [hnil]; rfl)

/-- A text is accepted when its lines are well formed and say what is required. -/
theorem exists_parsePrerequisiteStatus_iff :
    (∃ record, parsePrerequisiteStatus text kind = .ok record) ↔ StatusAccepted kind text := by
  constructor
  · rintro ⟨record, h⟩
    exact (parsePrerequisiteStatus_eq_ok.1 h).1
  · intro h
    obtain ⟨record, hrecord⟩ := exists_statusRecord h.required
    exact ⟨record, parsePrerequisiteStatus_eq_ok.2 ⟨h, hrecord⟩⟩

end Accepted

/-! ## §5 Other orders, other lines and other line ends -/

/-- `\n` as `\r\n`, where it is not one already. -/
def toCrlf : List Char → List Char
  | '\r' :: '\n' :: rest => '\r' :: '\n' :: toCrlf rest
  | '\n' :: rest => '\r' :: '\n' :: toCrlf rest
  | c :: rest => c :: toCrlf rest
  | [] => []

section Variants

variable {kind : CapacityPrerequisiteKind} {text text' : List Char}
  {entries entries' : List (String × String)} {extra : List (List Char)}

theorem normalizeLineEnds_cons {c : Char} {rest : List Char}
    (h : c = '\r' → ∀ behind, rest ≠ '\n' :: behind) :
    normalizeLineEnds (c :: rest) = c :: normalizeLineEnds rest :=
  normalizeLineEnds.eq_2 c rest fun behind hc hrest => h hc behind hrest

/-- No line feed stands first in a text whose line ends are all `\r\n`. -/
theorem toCrlf_ne_cons (text behind : List Char) : toCrlf text ≠ '\n' :: behind := by
  fun_cases toCrlf text with
  | case1 rest => simp
  | case2 rest => simp
  | case3 c rest hreturn hfeed => exact fun h => hfeed (List.cons.inj h).1
  | case4 => simp

theorem normalizeLineEnds_toCrlf (text : List Char) :
    normalizeLineEnds (toCrlf text) = normalizeLineEnds text := by
  fun_induction toCrlf text with
  | case1 rest ih => simp [normalizeLineEnds, ih]
  | case2 rest ih =>
    rw [normalizeLineEnds, ih]
    exact (normalizeLineEnds_cons (by simp)).symm
  | case3 c rest hreturn hfeed ih =>
    rw [normalizeLineEnds_cons fun _ behind => toCrlf_ne_cons rest behind, ih,
      normalizeLineEnds_cons fun hc behind hrest => hreturn behind hc hrest]
  | case4 => rfl

/-- Only the normalized text is read. -/
theorem parsePrerequisiteStatus_toCrlf (text : List Char) (kind : CapacityPrerequisiteKind) :
    parsePrerequisiteStatus (toCrlf text) kind = parsePrerequisiteStatus text kind := by
  rw [parsePrerequisiteStatus, parsePrerequisiteStatus, parseStatusEntries, parseStatusEntries,
    normalizeLineEnds_toCrlf]

/-- A carriage return is on some line. -/
theorem return_mem_iff :
    '\r' ∈ normalizeLineEnds text ↔ ∃ line ∈ statusLines text, '\r' ∈ line := by
  constructor
  · intro h
    have hjoin : ['\n'].intercalate (statusLines text) = normalizeLineEnds text :=
      List.intercalate_splitOn '\n'
    rw [← hjoin] at h
    rcases Text.mem_of_mem_intercalate h with h | h
    · cases List.mem_singleton.1 h
    · exact h
  · rintro ⟨line, hline, h⟩
    exact Text.mem_of_mem_splitOn hline h

/-- The same pairs in another order have the same values. -/
theorem statusValue_perm (honce : (entries.map Prod.fst).Nodup) (h : entries'.Perm entries)
    (key : String) : statusValue entries' key = statusValue entries key := by
  have honce' : (entries'.map Prod.fst).Nodup := (h.map Prod.fst).nodup_iff.2 honce
  apply Option.ext
  intro value
  rw [statusValue, statusValue, HashMap.lookup_eq_some_iff_mem honce',
    HashMap.lookup_eq_some_iff_mem honce, h.mem_iff]

theorem Required.congr (h : Required kind entries)
    (hvalue : ∀ key, statusValue entries' key = statusValue entries key) :
    Required kind entries' where
  terminal := by simpa only [hvalue] using h.terminal
  status := by simpa only [hvalue] using h.status
  classification := by simpa only [hvalue] using h.classification
  hashes := by simpa only [hvalue] using h.hashes
  gates := by simpa only [hvalue] using h.gates
  identity := by simpa only [hvalue] using h.identity
  sourceCommit := by simpa only [hvalue] using h.sourceCommit
  lineage := by simpa only [hvalue] using h.lineage

/-- A line that is blank or has a key of no relevance. -/
def UnknownLine (kind : CapacityPrerequisiteKind) (line : List Char) : Prop :=
  '\r' ∉ line ∧ (BlankLine line ∨
    ∃ key value, StatusLine line key value ∧ relevantKey kind key = false)

theorem relevantEntries_perm (hextra : ∀ line ∈ extra, UnknownLine kind line)
    (h : (statusLines text').Perm (statusLines text ++ extra)) :
    (relevantEntries kind text').Perm (relevantEntries kind text) := by
  refine (relevantFields_perm h).trans (.of_eq (relevantFields_append ?_))
  intro line hline field hfield
  obtain ⟨-, hblank | ⟨key, value, hstatus, hirrelevant⟩⟩ := hextra line hline
  · rw [fieldOf, readStatusLine_eq_ok.2 (.inl ⟨hblank, rfl⟩)] at hfield
    cases hfield
  · rw [fieldOf, readStatusLine_eq_ok.2 (.inr ⟨key, value, hstatus, rfl⟩)] at hfield
    exact Option.some.inj hfield ▸ hirrelevant

/-- A text with the lines in another order and further lines is read like the first one. -/
theorem StatusAccepted.perm (h : StatusAccepted kind text)
    (hextra : ∀ line ∈ extra, UnknownLine kind line)
    (hlines : (statusLines text').Perm (statusLines text ++ extra)) :
    StatusAccepted kind text' where
  lineEnds := by
    rw [return_mem_iff]
    rintro ⟨line, hline, hreturn⟩
    rcases List.mem_append.1 (hlines.mem_iff.1 hline) with hline | hline
    · exact h.lineEnds (return_mem_iff.2 ⟨line, hline, hreturn⟩)
    · exact (hextra line hline).1 hreturn
  formed := by
    intro line hline
    rcases List.mem_append.1 (hlines.mem_iff.1 hline) with hline | hline
    · exact h.formed line hline
    · exact (hextra line hline).2.imp_right fun ⟨key, value, hstatus, _⟩ => ⟨key, value, hstatus⟩
  once := ((relevantEntries_perm hextra hlines).map Prod.fst).nodup_iff.2 h.once
  required := h.required.congr (statusValue_perm h.once (relevantEntries_perm hextra hlines))

end Variants

/-- **The status file.** A text is accepted exactly when its lines are well formed and say what is
    required, and its record depends neither on the order of the lines nor on blank and unknown
    ones, but for what is kept of these, nor on how the lines end. -/
theorem parsePrerequisiteStatus_grammar (text : List Char) (kind : CapacityPrerequisiteKind) :
    ((∃ record, parsePrerequisiteStatus text kind = .ok record) ↔ StatusAccepted kind text) ∧
    (∀ record, parsePrerequisiteStatus text kind = .ok record →
      ∀ text' extra, (∀ line ∈ extra, UnknownLine kind line) →
        (statusLines text').Perm (statusLines text ++ extra) →
        parsePrerequisiteStatus text' kind =
          .ok { record with unknownMetadata := otherEntries kind text' }) ∧
    parsePrerequisiteStatus (toCrlf text) kind = parsePrerequisiteStatus text kind := by
  refine ⟨exists_parsePrerequisiteStatus_iff, fun record hrecord text' extra hextra hlines => ?_,
    parsePrerequisiteStatus_toCrlf text kind⟩
  obtain ⟨haccepted, hrecord⟩ := parsePrerequisiteStatus_eq_ok.1 hrecord
  refine parsePrerequisiteStatus_eq_ok.2 ⟨haccepted.perm hextra hlines, ?_⟩
  rw [statusRecord_congr (statusValue_perm haccepted.once (relevantEntries_perm hextra hlines)),
    hrecord]
  rfl

/-! ## §6 Texts with single carriage returns -/

section SingleReturn

variable {kind : CapacityPrerequisiteKind} {text : List Char}

theorem trimAscii_append_return (raw : List Char) :
    trimAscii (raw ++ ['\r']) = trimAscii raw := by
  rw [trimAscii, trimAscii, List.dropWhile_append]
  split
  · rename_i hempty
    rw [List.isEmpty_iff.1 hempty]
    rfl
  · rw [List.reverse_append, List.reverse_singleton, List.singleton_append,
      List.dropWhile_cons_of_pos rfl]

theorem readStatusLine_append_return (raw : List Char) :
    readStatusLine (raw ++ ['\r']) = readStatusLine raw := by
  simp only [readStatusLine, trimAscii_append_return]

theorem normalizeLineEnds_append_return (text : List Char) :
    normalizeLineEnds (text ++ ['\r']) = normalizeLineEnds text ++ ['\r'] := by
  fun_induction normalizeLineEnds text with
  | case1 rest ih => simp [normalizeLineEnds, ih]
  | case2 c rest hreturn ih =>
    rw [List.cons_append, normalizeLineEnds_cons, ih, List.cons_append]
    intro hc behind hrest
    cases rest with
    | nil => simp at hrest
    | cons d rest => exact hreturn rest hc (by rw [(List.cons.inj hrest).1])
  | case3 => rfl

/-- A character that is no separator stands at the end of the last part. -/
theorem splitOn_append_singleton {c d : Char} (hne : d ≠ c) (text : List Char) :
    ∃ front last, text.splitOn c = front ++ [last] ∧
      (text ++ [d]).splitOn c = front ++ [last ++ [d]] := by
  induction text with
  | nil => exact ⟨[], [], by simp, by simp [List.splitOn_cons_eq_if_modifyHead, hne]⟩
  | cons e rest ih =>
    obtain ⟨front, last, hsplit, happend⟩ := ih
    rw [List.cons_append, List.splitOn_cons_eq_if_modifyHead, List.splitOn_cons_eq_if_modifyHead,
      hsplit, happend]
    by_cases he : e = c
    · exact ⟨[] :: front, last, by simp [he], by simp [he]⟩
    · cases front with
      | nil => exact ⟨[], e :: last, by simp [he], by simp [he]⟩
      | cons first front => exact ⟨(e :: first) :: front, last, by simp [he], by simp [he]⟩

/-- A carriage return at the end of an accepted text changes nothing that is said, but it is
    refused. -/
theorem StatusAccepted.append_return (h : StatusAccepted kind text) :
    (∀ line ∈ statusLines (text ++ ['\r']),
        BlankLine line ∨ ∃ key value, StatusLine line key value) ∧
      ((relevantEntries kind (text ++ ['\r'])).map Prod.fst).Nodup ∧
      Required kind (relevantEntries kind (text ++ ['\r'])) ∧
      ¬ ∃ record, parsePrerequisiteStatus (text ++ ['\r']) kind = .ok record := by
  obtain ⟨front, last, hsplit, happend⟩ :=
    @splitOn_append_singleton '\n' '\r' (by decide) (normalizeLineEnds text)
  have hlines : statusLines text = front ++ [last] := hsplit
  have hlines' : statusLines (text ++ ['\r']) = front ++ [last ++ ['\r']] := by
    rw [statusLines, normalizeLineEnds_append_return, happend]
  have hentries : relevantEntries kind (text ++ ['\r']) = relevantEntries kind text := by
    simp only [relevantEntries, relevantFields, hlines, hlines', List.filterMap_append, fieldOf,
      List.filterMap_cons, readStatusLine_append_return]
  rw [hentries]
  refine ⟨fun line hline => ?_, h.once, h.required, fun hrecord => ?_⟩
  · rw [hlines', List.mem_append, List.mem_singleton] at hline
    rcases hline with hline | rfl
    · exact h.formed line (by simp [hlines, hline])
    · rw [← readStatusLine_isOk, readStatusLine_append_return, readStatusLine_isOk]
      exact h.formed last (by simp [hlines])
  · refine (exists_parsePrerequisiteStatus_iff.1 hrecord).lineEnds ?_
    rw [normalizeLineEnds_append_return]
    exact List.mem_append_right _ List.mem_cons_self

/-- Every `\n` as `\r\n`, whatever is before it. -/
def replaceFeeds (text : List Char) : List Char :=
  text.flatMap fun c => if c = '\n' then ['\r', '\n'] else [c]

theorem replaceFeeds_ne_cons (text behind : List Char) : replaceFeeds text ≠ '\n' :: behind := by
  cases text with
  | nil => simp [replaceFeeds]
  | cons c rest =>
    by_cases hc : c = '\n'
    · simp [replaceFeeds, hc]
    · simp [replaceFeeds, hc]

/-- A line end that is `\r\n` already has two carriage returns then. -/
theorem return_mem_replaceFeeds (h : '\n' ∈ text) :
    '\r' ∈ normalizeLineEnds (replaceFeeds (toCrlf text)) := by
  fun_induction toCrlf text with
  | case1 rest ih => simp [replaceFeeds, normalizeLineEnds]
  | case2 rest ih => simp [replaceFeeds, normalizeLineEnds]
  | case3 c rest hreturn hfeed ih =>
    have hc : c ≠ '\n' := hfeed
    have hcons : replaceFeeds (c :: toCrlf rest) = c :: replaceFeeds (toCrlf rest) := by
      simp [replaceFeeds, hc]
    rw [hcons, normalizeLineEnds_cons fun _ behind => replaceFeeds_ne_cons _ behind]
    exact List.mem_cons_of_mem _ (ih ((List.mem_cons.1 h).resolve_left hc.symm))
  | case4 => cases h

end SingleReturn

/-- The status file of an external target. -/
def externalStatusLines : List (List Char) :=
  ["status=PASS".toList, "validation_id=capacity-external-target-1".toList,
    "source_commit=0123456789abcdef".toList, "manifest_sha256=".toList ++ List.replicate 64 'a',
    "manifest_payload_sha256=".toList ++ List.replicate 64 'b',
    "execution_payload_sha256=".toList ++ List.replicate 64 'c', "invocation_count=1".toList,
    "validator_report_lifecycle=PASS".toList,
    "validator_report_raw_sha256=".toList ++ List.replicate 64 'd',
    "validator_report_canonical_sha256=".toList ++ List.replicate 64 'e',
    "direct_shadow_gates=4/4".toList, "required_damos_gates=48/48".toList,
    "hot_warm_service=PASS".toList, "cold_controlled_refault=PASS".toList, "host_oom=0".toList,
    "cleanup=PASS".toList, "recovery=PASS".toList, "idempotent_recovery=PASS".toList,
    "structural_restore=PASS".toList, "legacy_global_report_absent=true".toList,
    "validator_state_absent=true".toList, "final_nr_kdamonds=0".toList,
    "capacity=NotEvaluated".toList, "effectiveness=NotEvaluated".toList,
    "production_activation=false".toList]

/-- The status of an external target that passed. -/
def externalStatus : List Char := ['\n'].intercalate externalStatusLines

theorem externalStatus_accepted : StatusAccepted .externalTarget externalStatus := by
  have hok : (parsePrerequisiteStatus externalStatus .externalTarget).isOk = true := by
    decide +kernel
  exact exists_parsePrerequisiteStatus_iff.1 (exists_of_isOk hok)

/-- With a carriage return at its end the lines say the same, but the text is refused; and so is a
    text whose line ends are `\r\n` when each `\n` is replaced by `\r\n`. -/
theorem singleReturn_refused :
    ((∀ line ∈ statusLines (externalStatus ++ ['\r']),
        BlankLine line ∨ ∃ key value, StatusLine line key value) ∧
      ((relevantEntries .externalTarget (externalStatus ++ ['\r'])).map Prod.fst).Nodup ∧
      Required .externalTarget (relevantEntries .externalTarget (externalStatus ++ ['\r'])) ∧
      ¬ ∃ record,
        parsePrerequisiteStatus (externalStatus ++ ['\r']) .externalTarget = .ok record) ∧
    (∃ record, parsePrerequisiteStatus (toCrlf externalStatus) .externalTarget = .ok record) ∧
    ¬ ∃ record, parsePrerequisiteStatus (replaceFeeds (toCrlf externalStatus)) .externalTarget =
      .ok record := by
  refine ⟨externalStatus_accepted.append_return, ?_, fun hrecord => ?_⟩
  · rw [parsePrerequisiteStatus_toCrlf]
    exact exists_parsePrerequisiteStatus_iff.2 externalStatus_accepted
  · refine (exists_parsePrerequisiteStatus_iff.1 hrecord).lineEnds (return_mem_replaceFeeds ?_)
    exact List.mem_append_right _ List.mem_cons_self

end Nemor.Capacity
