import Nemor.Collector.Source
import Nemor.Lib.Decimals
import Nemor.Lib.FoldedLines

/-!
# Pressure stall information

`psi::parse` reads the lines `some` and `full` of a file under `/proc/pressure`. §2 is what every
accepted text gives, §3 that the lines of the kernel are read back.
-/

namespace Nemor.Collector.Psi

open Fallible FoldedLines MachineNumbers Text UnixPath

/-! ## §1 Reading the text -/

/-- The averages and the total of one line. -/
structure PsiLine where
  avg10 : F64
  avg60 : F64
  avg300 : F64
  totalUs : UInt64
  deriving DecidableEq

/-- The two lines of a resource. -/
structure PsiSample where
  some : Option PsiLine
  full : Option PsiLine
  deriving DecidableEq

/-- An error of the resource. -/
def malformed (resource message : String) : CollectorError := .invalid resource message

/-- An average is a finite number from 0 to 100. -/
def parseAverage (resource key : String) (value : List Char) : Except CollectorError F64 := do
  let parsed ← okOr (parseF64 value)
    (malformed resource ("invalid `" ++ key ++ "`: " ++ floatError value))
  if parsed.isFinite && (F64.le (.finite 0) parsed && F64.le parsed (.finite 100)) then .ok parsed
  else .error (malformed resource ("`" ++ key ++ "` must be finite and between 0 and 100"))

/-- The values of a line as far as they were read. -/
structure LineValues where
  avg10 : Option F64
  avg60 : Option F64
  avg300 : Option F64
  total : Option UInt64

/-- No value has been seen. -/
def LineValues.empty : LineValues := ⟨none, none, none, none⟩

/-- What one key does to the values; other keys are left alone. -/
def LineValues.set (resource : String) (values : LineValues) (key value : List Char) :
    Except CollectorError LineValues :=
  if key = "avg10".toList then do
    let parsed ← parseAverage resource "avg10" value
    return { values with avg10 := some parsed }
  else if key = "avg60".toList then do
    let parsed ← parseAverage resource "avg60" value
    return { values with avg60 := some parsed }
  else if key = "avg300".toList then do
    let parsed ← parseAverage resource "avg300" value
    return { values with avg300 := some parsed }
  else if key = "total".toList then do
    let parsed ← counter resource "invalid `total`" value
    return { values with total := some parsed }
  else return values

/-- `key=value`; the last token of a key counts. -/
def readToken (resource : String) (values : LineValues) (token : List Char) :
    Except CollectorError LineValues := do
  let (key, value) ← okOr (splitOnce '=' token)
    (malformed resource ("invalid token `" ++ String.ofList token ++ "`"))
  values.set resource key value

/-- A value that has to be there. -/
def required {α : Type} (resource key : String) (value : Option α) : Except CollectorError α :=
  okOr value (malformed resource ("required `" ++ key ++ "` is missing"))

/-- All four values are there. -/
def LineValues.complete (resource : String) (values : LineValues) :
    Except CollectorError PsiLine := do
  let avg10 ← required resource "avg10" values.avg10
  let avg60 ← required resource "avg60" values.avg60
  let avg300 ← required resource "avg300" values.avg300
  let totalUs ← required resource "total" values.total
  return { avg10, avg60, avg300, totalUs }

/-- Which tasks stall: some of them, or all. -/
inductive Kind where
  | some
  | full
  deriving DecidableEq

/-- The first word of a line. -/
def kindOf (word : List Char) : Option Kind :=
  if word = "some".toList then .some .some
  else if word = "full".toList then .some .full
  else none

/-- A line of one of the two kinds, or another line. -/
def readLine (resource : String) (line : List Char) :
    Except CollectorError (Option (Kind × PsiLine)) :=
  match splitWhitespace line with
  | [] => .error (malformed resource "empty line")
  | word :: tokens =>
    match kindOf word with
    | none => .ok none
    | some kind => do
      let values ← tokens.foldlM (readToken resource) .empty
      let parsed ← values.complete resource
      return some (kind, parsed)

/-- Keep a line. A second one of its kind replaces the first. -/
def store (sample : PsiSample) : Kind × PsiLine → Except CollectorError PsiSample
  | (.some, line) => .ok { sample with some := line }
  | (.full, line) => .ok { sample with full := line }

/-- `parse`: empty lines are skipped; the line `some` has to be there. -/
def parse (resource : String) (input : List Char) : Except CollectorError PsiSample := do
  let sample ← ((lines input).filter fun line => trim line ≠ []).foldlM
    (step (readLine resource) store) ⟨none, none⟩
  refuse (sample.some = none) (malformed resource "required `some` line is missing")
  return sample

/-! ## §2 What is accepted -/

/-- A percentage. -/
def Percentage (x : F64) : Prop := ∃ q : ℚ, x = .finite q ∧ 0 ≤ q ∧ q ≤ 100

/-- All averages are percentages. -/
structure PsiLine.Bounded (line : PsiLine) : Prop where
  avg10 : Percentage line.avg10
  avg60 : Percentage line.avg60
  avg300 : Percentage line.avg300

/-- And so in both lines. -/
structure PsiSample.Bounded (sample : PsiSample) : Prop where
  some : ∀ line, sample.some = Option.some line → line.Bounded
  full : ∀ line, sample.full = Option.some line → line.Bounded

theorem parseAverage_bounded {resource key : String} {value : List Char} {x : F64}
    (h : parseAverage resource key value = .ok x) : Percentage x := by
  obtain ⟨parsed, -, h⟩ := bind_eq_ok.1 h
  split at h
  · rename_i hrange
    obtain rfl := Except.ok.inj h
    cases parsed with
    | finite q => exact ⟨q, rfl, by simpa [F64.isFinite, F64.le] using hrange⟩
    | nan => simp [F64.isFinite] at hrange
    | negInf => simp [F64.isFinite] at hrange
    | posInf => simp [F64.isFinite] at hrange
  · cases h

/-- The averages that were read are percentages. -/
structure LineValues.Bounded (values : LineValues) : Prop where
  avg10 : ∀ x ∈ values.avg10, Percentage x
  avg60 : ∀ x ∈ values.avg60, Percentage x
  avg300 : ∀ x ∈ values.avg300, Percentage x

theorem readToken_bounded {resource : String} {values after : LineValues} {token : List Char}
    (hvalues : values.Bounded) (h : readToken resource values token = .ok after) :
    after.Bounded := by
  obtain ⟨⟨key, value⟩, -, h⟩ := bind_eq_ok.1 h
  obtain ⟨h10, h60, h300⟩ := hvalues
  -- one key after the other; each average that is read replaces one
  simp only [LineValues.set] at h
  split at h
  · obtain ⟨x, hx, h⟩ := bind_eq_ok.1 h
    obtain rfl := Except.ok.inj h
    exact ⟨by simpa using parseAverage_bounded hx, h60, h300⟩
  split at h
  · obtain ⟨x, hx, h⟩ := bind_eq_ok.1 h
    obtain rfl := Except.ok.inj h
    exact ⟨h10, by simpa using parseAverage_bounded hx, h300⟩
  split at h
  · obtain ⟨x, hx, h⟩ := bind_eq_ok.1 h
    obtain rfl := Except.ok.inj h
    exact ⟨h10, h60, by simpa using parseAverage_bounded hx⟩
  split at h
  · obtain ⟨x, -, h⟩ := bind_eq_ok.1 h
    obtain rfl := Except.ok.inj h
    exact ⟨h10, h60, h300⟩
  · obtain rfl := Except.ok.inj h
    exact ⟨h10, h60, h300⟩

theorem readTokens_bounded {resource : String} {values after : LineValues}
    {tokens : List (List Char)} (hvalues : values.Bounded)
    (h : tokens.foldlM (readToken resource) values = .ok after) : after.Bounded := by
  induction tokens generalizing values with
  | nil =>
    obtain rfl := Except.ok.inj h
    exact hvalues
  | cons token tokens ih =>
    rw [List.foldlM_cons] at h
    obtain ⟨next, hnext, h⟩ := bind_eq_ok.1 h
    exact ih (readToken_bounded hvalues hnext) h

theorem complete_bounded {resource : String} {values : LineValues} {line : PsiLine}
    (hvalues : values.Bounded) (h : values.complete resource = .ok line) : line.Bounded := by
  obtain ⟨avg10, h10, h⟩ := bind_eq_ok.1 h
  obtain ⟨avg60, h60, h⟩ := bind_eq_ok.1 h
  obtain ⟨avg300, h300, h⟩ := bind_eq_ok.1 h
  obtain ⟨total, -, h⟩ := bind_eq_ok.1 h
  obtain rfl := Except.ok.inj h
  exact ⟨hvalues.avg10 _ (okOr_eq_ok.1 h10), hvalues.avg60 _ (okOr_eq_ok.1 h60),
    hvalues.avg300 _ (okOr_eq_ok.1 h300)⟩

theorem readLine_bounded {resource : String} {text : List Char} {kind : Kind} {line : PsiLine}
    (h : readLine resource text = .ok (some (kind, line))) : line.Bounded := by
  unfold readLine at h
  split at h
  · cases h
  · split at h
    · cases h
    · obtain ⟨values, hvalues, h⟩ := bind_eq_ok.1 h
      obtain ⟨parsed, hparsed, h⟩ := bind_eq_ok.1 h
      cases h
      exact complete_bounded
        (readTokens_bounded ⟨by simp [LineValues.empty], by simp [LineValues.empty],
          by simp [LineValues.empty]⟩ hvalues) hparsed

/-- **A sample that is accepted has its `some` line, and its averages are percentages.** -/
theorem parse_bounded {resource : String} {input : List Char} {sample : PsiSample}
    (h : parse resource input = .ok sample) : sample.some ≠ none ∧ sample.Bounded := by
  obtain ⟨read, hread, h⟩ := bind_eq_ok.1 h
  obtain ⟨hsome, h⟩ := refuse_bind_eq_ok.1 h
  obtain rfl := Except.ok.inj h
  refine ⟨hsome, ?_⟩
  obtain ⟨-, hfold⟩ := foldlM_step_eq_ok.1 hread
  -- every field that is stored comes from a line that was read
  have hfields : ∀ field ∈ fieldsOf (readLine resource)
      ((lines input).filter fun line => trim line ≠ []), field.2.Bounded := by
    intro field hfield
    obtain ⟨line, -, hline⟩ := List.mem_filterMap.1 hfield
    unfold KeyedLines.fieldOf at hline
    split at hline
    · rename_i hok
      subst hline
      exact readLine_bounded hok
    · cases hline
  have hstart : PsiSample.Bounded ⟨none, none⟩ := ⟨by simp, by simp⟩
  generalize fieldsOf (readLine resource) _ = fields at hfold hfields
  generalize (⟨none, none⟩ : PsiSample) = sample at hfold hstart
  induction fields generalizing sample with
  | nil =>
    obtain rfl := Except.ok.inj hfold
    exact hstart
  | cons field fields ih =>
    obtain ⟨hfield, hrest⟩ := List.forall_mem_cons.1 hfields
    obtain ⟨next, hnext, hfold⟩ := bind_eq_ok.1 hfold
    refine ih hrest next hfold ?_
    rcases field with ⟨_ | _, line⟩
    · obtain rfl := Except.ok.inj hnext
      exact ⟨by simpa using hfield, hstart.full⟩
    · obtain rfl := Except.ok.inj hnext
      exact ⟨hstart.some, by simpa using hfield⟩

/-! ## §3 The lines of the kernel -/

/-- What the kernel writes of one kind: the averages in hundredths of a percent. -/
structure Stall where
  avg10 : ℕ
  avg60 : ℕ
  avg300 : ℕ
  total : UInt64
  bound10 : avg10 ≤ 10000
  bound60 : avg60 ≤ 10000
  bound300 : avg300 ≤ 10000

/-- `key=value` -/
def token (key : String) (value : List Char) : List Char := key.toList ++ '=' :: value

namespace Stall

/-- The words of a line. -/
def words (s : Stall) (kind : List Char) : List (List Char) :=
  [kind, token "avg10" (twoDecimals s.avg10), token "avg60" (twoDecimals s.avg60),
    token "avg300" (twoDecimals s.avg300), token "total" (decimal s.total.toNat)]

/-- An average of two decimals, rounded to binary64. -/
def average (hundredths : ℕ) : F64 := .finite (F64.nearest (hundredths / 100))

/-- What a parser should read of the line. -/
def values (s : Stall) : PsiLine where
  avg10 := average s.avg10
  avg60 := average s.avg60
  avg300 := average s.avg300
  totalUs := s.total

end Stall

/-- The text of a pressure file; not every kernel writes the second line. -/
def render (some : Stall) (full : Option Stall) : List Char :=
  (unwords (some.words "some".toList) :: full.toList.map fun s => unwords (s.words "full".toList))
    |>.flatMap fun line => line ++ ['\n']

theorem parseAverage_twoDecimals (resource key : String) {n : ℕ} (h : n ≤ 10000) :
    parseAverage resource key (twoDecimals n) = .ok (Stall.average n) := by
  have hq : (0 : ℚ) ≤ n / 100 := by positivity
  have hle : (n / 100 : ℚ) ≤ 100 := by
    rw [div_le_iff₀ (by norm_num)]
    exact_mod_cast h
  have hround : F64.ofRat (n / 100) = Stall.average n :=
    F64.ofRat_of_le hq (hle.trans (by norm_num))
  have hbelow : F64.nearest (n / 100) ≤ 100 := by
    have hexact : F64.nearest 100 = 100 := by
      simpa using F64.nearest_natCast (n := 100) (by norm_num)
    have hmono := F64.nearest_mono hq hle
    rwa [hexact] at hmono
  simp [parseAverage, parseF64_twoDecimals, hround, Stall.average, F64.isFinite, F64.le,
    F64.nearest_nonneg hq, hbelow, ok_bind]

theorem readToken_token (resource : String) (values : LineValues) {key : String}
    (value : List Char) (h : '=' ∉ key.toList) :
    readToken resource values (token key value) = values.set resource key.toList value := by
  rw [readToken, token, splitOnce_append h, okOr_some, ok_bind]

/-- The tokens of a line give its values. -/
theorem readTokens_words (resource : String) (s : Stall) (kind : List Char) :
    (s.words kind).tail.foldlM (readToken resource) .empty =
      .ok ⟨some (Stall.average s.avg10), some (Stall.average s.avg60),
        some (Stall.average s.avg300), some s.total⟩ := by
  have h10 (values : LineValues) : readToken resource values
      (token "avg10" (twoDecimals s.avg10)) =
        .ok { values with avg10 := some (Stall.average s.avg10) } := by
    rw [readToken_token _ _ _ (by decide), LineValues.set, if_pos rfl,
      parseAverage_twoDecimals _ _ s.bound10]
    rfl
  have h60 (values : LineValues) : readToken resource values
      (token "avg60" (twoDecimals s.avg60)) =
        .ok { values with avg60 := some (Stall.average s.avg60) } := by
    rw [readToken_token _ _ _ (by decide), LineValues.set, if_neg (by decide), if_pos rfl,
      parseAverage_twoDecimals _ _ s.bound60]
    rfl
  have h300 (values : LineValues) : readToken resource values
      (token "avg300" (twoDecimals s.avg300)) =
        .ok { values with avg300 := some (Stall.average s.avg300) } := by
    rw [readToken_token _ _ _ (by decide), LineValues.set, if_neg (by decide), if_neg (by decide),
      if_pos rfl, parseAverage_twoDecimals _ _ s.bound300]
    rfl
  have htotal (values : LineValues) : readToken resource values
      (token "total" (decimal s.total.toNat)) = .ok { values with total := some s.total } := by
    rw [readToken_token _ _ _ (by decide), LineValues.set, if_neg (by decide), if_neg (by decide),
      if_neg (by decide), if_pos rfl, counter_decimal]
    rfl
  -- the four tokens in the order of the kernel
  simp only [Stall.words, List.tail_cons, List.foldlM_cons, List.foldlM_nil, h10, h60, h300,
    htotal, ok_bind]
  rfl

/-! ### Lines and words -/

theorem Word.token {value : List Char} (key : String)
    (hkey : ∀ c ∈ key.toList, isWhiteSpace c = false) (hvalue : Word value) :
    Word (token key value) where
  nonempty := by simp [Psi.token]
  solid c hc := by
    rcases List.mem_append.1 hc with hc | hc
    · exact hkey c hc
    · rcases List.mem_cons.1 hc with rfl | hc
      · decide
      · exact hvalue.solid c hc

theorem word_words (s : Stall) {kind : List Char} (hkind : Word kind) :
    ∀ w ∈ s.words kind, Word w := by
  simp only [Stall.words, List.forall_mem_cons]
  refine ⟨hkind, ?_, ?_, ?_, ?_, by simp⟩
  · exact Word.token "avg10" (solid_of_all (by decide)) (word_twoDecimals _)
  · exact Word.token "avg60" (solid_of_all (by decide)) (word_twoDecimals _)
  · exact Word.token "avg300" (solid_of_all (by decide)) (word_twoDecimals _)
  · exact Word.token "total" (solid_of_all (by decide)) (word_decimal _)

/-- There is no white space in a line but the spaces between its words. -/
theorem eq_space_of_mem_unwords {words : List (List Char)} (h : ∀ w ∈ words, Word w) {c : Char}
    (hc : c ∈ unwords words) (hspace : isWhiteSpace c = true) : c = ' ' := by
  cases mem_of_mem_intercalate hc with
  | inl hc => simpa using hc
  | inr hc =>
    obtain ⟨w, hw, hc⟩ := hc
    rw [(h w hw).solid c hc] at hspace
    cases hspace

theorem unwords_line {words : List (List Char)} (h : ∀ w ∈ words, Word w) :
    '\n' ∉ unwords words ∧ (unwords words).getLast? ≠ some '\r' := by
  refine ⟨fun hc => ?_, fun hlast => ?_⟩
  · exact absurd (eq_space_of_mem_unwords h hc (by decide)) (by decide)
  · exact absurd (eq_space_of_mem_unwords h (List.mem_of_getLast? hlast) (by decide)) (by decide)

theorem readLine_words (resource : String) (s : Stall) {word : List Char} {kind : Kind}
    (hword : Word word) (hkind : kindOf word = some kind) :
    readLine resource (unwords (s.words word)) = .ok (some (kind, s.values)) := by
  have hsplit := splitWhitespace_unwords (word_words s hword)
  have htokens := readTokens_words resource s word
  rw [readLine, hsplit]
  simp only [Stall.words, List.tail_cons] at htokens ⊢
  rw [hkind]
  dsimp only
  rw [htokens]
  rfl

/-- A line with a word in it is not blank. -/
theorem trim_ne_nil_of_word {words : List (List Char)} (h : ∀ w ∈ words, Word w)
    (hne : words ≠ []) : trim (unwords words) ≠ [] := by
  intro htrim
  have hsplit := splitWhitespace_trim (unwords words)
  rw [htrim, splitWhitespace_nil, splitWhitespace_unwords h] at hsplit
  exact hne hsplit.symm

/-- **What the kernel writes is read back**, each average as the binary64 value next to it. -/
theorem parse_render (resource : String) (s : Stall) (full : Option Stall) :
    parse resource (render s full) = .ok ⟨some s.values, full.map Stall.values⟩ := by
  have hsome : Word "some".toList := ⟨by decide, solid_of_all (by decide)⟩
  have hfull : Word "full".toList := ⟨by decide, solid_of_all (by decide)⟩
  have hlines : lines (render s full) = unwords (s.words "some".toList) ::
      full.toList.map fun s => unwords (s.words "full".toList) := by
    apply lines_flatMap
    simp only [List.forall_mem_cons, List.forall_mem_map]
    exact ⟨unwords_line (word_words s hsome), fun t _ => unwords_line (word_words t hfull)⟩
  have hkept : (lines (render s full)).filter (fun line => trim line ≠ []) =
      lines (render s full) := by
    rw [hlines, List.filter_eq_self]
    simp only [List.forall_mem_cons, List.forall_mem_map, decide_eq_true_eq]
    exact ⟨trim_ne_nil_of_word (word_words s hsome) (by simp [Stall.words]),
      fun t _ => trim_ne_nil_of_word (word_words t hfull) (by simp [Stall.words])⟩
  -- the two lines are stored under their kinds
  have hfirst : step (readLine resource) store ⟨none, none⟩ (unwords (s.words "some".toList)) =
      .ok ⟨some s.values, none⟩ := by
    rw [step, readLine_words resource s hsome rfl, ok_bind]
    rfl
  have hsecond (t : Stall) : step (readLine resource) store ⟨some s.values, none⟩
      (unwords (t.words "full".toList)) = .ok ⟨some s.values, some t.values⟩ := by
    rw [step, readLine_words resource t hfull rfl, ok_bind]
    rfl
  rw [parse, hkept, hlines, List.foldlM_cons, hfirst, ok_bind]
  cases full with
  | none => rfl
  | some t =>
    rw [Option.toList_some, List.map_singleton, List.foldlM_cons, hsecond]
    rfl

/-- **Pressure files.** What the kernel writes is read back; of any other text nothing is accepted
    that lacks its `some` line or has an average that is no percentage. -/
theorem parse_pressure_file (resource : String) :
    (∀ s full, parse resource (render s full) = .ok ⟨some s.values, full.map Stall.values⟩) ∧
      ∀ input sample, parse resource input = .ok sample →
        sample.some ≠ none ∧ sample.Bounded :=
  ⟨parse_render resource, fun _ _ h => parse_bounded h⟩

end Nemor.Collector.Psi
