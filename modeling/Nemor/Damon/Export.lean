import Nemor.Damon.Zones
import Nemor.Lib.Rendering

/-!
# DAMON: CSV export

A record becomes one line with a comma between its columns. Texts are written as they are,
without quotes: a comma or a line end inside one is taken for the end of a column or of a
record. Everything else that is written can be read back from the line.
-/

namespace Nemor.Damon

open MachineNumbers U64 Text

/-! ## §1 Numbers with six decimals -/

/-- A number rounded to a multiple of a unit `1 / scale`, ties to the even one. -/
def roundToScale (numerator denominator : ℕ) : ℕ :=
  let quotient := numerator / denominator
  let rest := numerator % denominator
  if denominator < 2 * rest ∨ (denominator = 2 * rest ∧ quotient % 2 = 1) then quotient + 1
  else quotient

/-- A number of millionths, with a point. -/
def writeMillionths (n : ℕ) : List Char :=
  let decimals := decimal (n % 1000000)
  decimal (n / 1000000) ++ '.' :: (List.replicate (6 - decimals.length) '0' ++ decimals)

/-- `{:.6}` on the bits of a binary64 number. -/
def fixed6Bits (bits : UInt64) : List Char :=
  let negative := bits >>> 63 = 1
  let exponent := ((bits >>> 52) &&& 0x7ff).toNat
  let fraction := (bits &&& 0xfffffffffffff).toNat
  let sign := if negative then ['-'] else []
  if exponent = 2047 then
    if fraction = 0 then sign ++ "inf".toList else "NaN".toList
  else
    -- the value is `mantissa * 2 ^ (power - 1075)`
    let mantissa := if exponent = 0 then fraction else fraction + 2 ^ 52
    let power := max exponent 1
    sign ++ writeMillionths (roundToScale (mantissa * 1000000 * 2 ^ power) (2 ^ 1075))

/-- `{:.6}`. -/
def fixed6 (x : Float) : List Char := fixed6Bits x.toBits

/-! ## §2 Records -/

/-- What a region looks like. -/
inductive ObservationalLabel where
  | hot
  | warm
  | cold
  | insufficientHistory
  deriving DecidableEq

/-- `{:?}` -/
def ObservationalLabel.debug : ObservationalLabel → String
  | .hot => "Hot"
  | .warm => "Warm"
  | .cold => "Cold"
  | .insufficientHistory => "InsufficientHistory"

/-- A record of the export. -/
structure DamonRegionSample where
  schemaVersion : String
  sessionId : String
  timestampNs : UInt64
  targetId : UInt64
  pid : UInt32
  stableIdentity : String
  regionStart : UInt64
  regionEnd : UInt64
  regionSize : UInt64
  hotOverlapBytes : UInt64
  warmOverlapBytes : UInt64
  coldOverlapBytes : UInt64
  hotOverlapFraction : Float
  warmOverlapFraction : Float
  coldOverlapFraction : Float
  otherBytes : UInt64
  nrAccesses : UInt64
  age : UInt64
  sampleUs : UInt64
  aggrUs : UInt64
  updateUs : UInt64
  expectedSamples : UInt64
  normalizedAccessRatio : Float
  observationalLabel : ObservationalLabel
  labelRuleVersion : String
  confidence : String
  evidence : List String
  source : String
  kernel : String
  operationSet : String

/-! ## §3 Writing -/

/-- What stands in a column. -/
inductive Column where
  | text (value : String)
  | number (value : UInt64)
  | fraction (value : Float)
  | label (value : ObservationalLabel)

/-- A value in its column. -/
def Column.write : Column → List Char
  | .text value => value.toList
  | .number value => decimal value.toNat
  | .fraction value => fixed6 value
  | .label value => value.debug.toList

/-- The names in the header line. -/
def csvNames : List String := [
  "schema_version", "session_id", "timestamp_ns", "target_id", "pid", "stable_identity",
  "region_start", "region_end", "region_size", "hot_overlap_bytes", "warm_overlap_bytes",
  "cold_overlap_bytes", "hot_overlap_fraction", "warm_overlap_fraction", "cold_overlap_fraction",
  "other_bytes", "nr_accesses", "age", "sample_us", "aggr_us", "update_us", "expected_samples",
  "normalized_access_ratio", "label", "rule_version", "confidence", "source", "kernel",
  "operation_set"]

/-- The names of the columns. -/
def csvHeader : List Char := [','].intercalate (csvNames.map String.toList)

namespace DamonRegionSample

/-- The columns of a record. -/
def columns (value : DamonRegionSample) : List Column := [
  .text value.schemaVersion,
  .text value.sessionId,
  .number value.timestampNs,
  .number value.targetId,
  .number value.pid.toUInt64,
  .text value.stableIdentity,
  .number value.regionStart,
  .number value.regionEnd,
  .number value.regionSize,
  .number value.hotOverlapBytes,
  .number value.warmOverlapBytes,
  .number value.coldOverlapBytes,
  .fraction value.hotOverlapFraction,
  .fraction value.warmOverlapFraction,
  .fraction value.coldOverlapFraction,
  .number value.otherBytes,
  .number value.nrAccesses,
  .number value.age,
  .number value.sampleUs,
  .number value.aggrUs,
  .number value.updateUs,
  .number value.expectedSamples,
  .fraction value.normalizedAccessRatio,
  .label value.observationalLabel,
  .text value.labelRuleVersion,
  .text value.confidence,
  .text value.source,
  .text value.kernel,
  .text value.operationSet]

/-- A record as a line. -/
def csvLine (value : DamonRegionSample) : List Char :=
  [','].intercalate (value.columns.map Column.write)

end DamonRegionSample

/-- The file: the heading and a line for each record. -/
def csvText (records : List DamonRegionSample) : List Char :=
  (csvHeader :: records.map DamonRegionSample.csvLine).flatMap fun line => line ++ ['\n']

/-- The bytes to write, if they are not too many. -/
def exportCsv (records : List DamonRegionSample) (maxBytes : UInt64) :
    Except String (List UInt8) :=
  let output := UnixPath.utf8 (String.ofList (csvText records))
  if output.length > maxBytes.toNat then .error "export exceeds configured bound" else .ok output

/-! ## §4 Cells -/

/-- What can be known of a column from its text: a fraction only to six decimals. -/
inductive Cell where
  | text (value : String)
  | number (value : UInt64)
  | fraction (shown : List Char)
  | label (value : ObservationalLabel)

/-- What is in a column. -/
inductive Kind where
  | text
  | number
  | fraction
  | label
  deriving DecidableEq

/-- The kind of a column. -/
def Column.kind : Column → Kind
  | .text _ => .text
  | .number _ => .number
  | .fraction _ => .fraction
  | .label _ => .label

/-- What a reader can know of a column. -/
def Column.cell : Column → Cell
  | .text value => .text value
  | .number value => .number value
  | .fraction value => .fraction (fixed6 value)
  | .label value => .label value

/-- The label that is shown so. -/
def readLabel (shown : List Char) : Option ObservationalLabel :=
  [.hot, .warm, .cold, .insufficientHistory].find? fun label => label.debug.toList = shown

/-- Read a column of this kind. -/
def Kind.read (shown : List Char) : Kind → Option Cell
  | .text => some (.text (String.ofList shown))
  | .number => (parseU64 shown).map .number
  | .fraction => some (.fraction shown)
  | .label => (readLabel shown).map .label

/-- The fields of a record under the names of their columns. -/
def DamonRegionSample.named (value : DamonRegionSample) : List (String × Column) := [
  ("schema_version", .text value.schemaVersion),
  ("session_id", .text value.sessionId),
  ("timestamp_ns", .number value.timestampNs),
  ("target_id", .number value.targetId),
  ("pid", .number value.pid.toUInt64),
  ("stable_identity", .text value.stableIdentity),
  ("region_start", .number value.regionStart),
  ("region_end", .number value.regionEnd),
  ("region_size", .number value.regionSize),
  ("hot_overlap_bytes", .number value.hotOverlapBytes),
  ("warm_overlap_bytes", .number value.warmOverlapBytes),
  ("cold_overlap_bytes", .number value.coldOverlapBytes),
  ("hot_overlap_fraction", .fraction value.hotOverlapFraction),
  ("warm_overlap_fraction", .fraction value.warmOverlapFraction),
  ("cold_overlap_fraction", .fraction value.coldOverlapFraction),
  ("other_bytes", .number value.otherBytes),
  ("nr_accesses", .number value.nrAccesses),
  ("age", .number value.age),
  ("sample_us", .number value.sampleUs),
  ("aggr_us", .number value.aggrUs),
  ("update_us", .number value.updateUs),
  ("expected_samples", .number value.expectedSamples),
  ("normalized_access_ratio", .fraction value.normalizedAccessRatio),
  ("label", .label value.observationalLabel),
  ("rule_version", .text value.labelRuleVersion),
  ("confidence", .text value.confidence),
  ("source", .text value.source),
  ("kernel", .text value.kernel),
  ("operation_set", .text value.operationSet)]

/-- **Header and lines are aligned**: every column stands under the name of its field. -/
theorem columns_named (value : DamonRegionSample) :
    csvNames = value.named.map Prod.fst ∧ value.columns = value.named.map Prod.snd := ⟨rfl, rfl⟩

/-- The kinds of the columns, by which a line is read. -/
def csvKinds : List Kind := [
  .text, .text, .number, .number, .number, .text, .number, .number, .number, .number, .number,
  .number, .fraction, .fraction, .fraction, .number, .number, .number, .number, .number, .number,
  .number, .fraction, .label, .text, .text, .text, .text, .text]

/-- A line with as many columns as the header has, each of which can be read. -/
def decodeLine (line : List Char) : Option (List Cell) :=
  let parts := line.splitOn ','
  if parts.length = (csvHeader.splitOn ',').length then
    (parts.zip csvKinds).mapM fun (shown, kind) => kind.read shown
  else none

/-- One line for each record behind the header, from which the record is read back. -/
structure Decodes (output : List Char) (records : List DamonRegionSample) (lines : List (List Char)) :
    Prop where
  split : output.splitOn '\n' = csvHeader :: lines ++ [[]]
  read : lines.map decodeLine = records.map fun record => some (record.columns.map Column.cell)

/-! ## §5 Texts that can be exported -/

/-- The texts of the record that are exported. -/
def DamonRegionSample.texts (value : DamonRegionSample) : List String := [
  value.schemaVersion, value.sessionId, value.stableIdentity, value.labelRuleVersion,
  value.confidence, value.source, value.kernel, value.operationSet]

/-- No exported text holds a comma or a line end. -/
def DamonRegionSample.Plain (value : DamonRegionSample) : Prop :=
  ∀ text ∈ value.texts, ',' ∉ text.toList ∧ '\n' ∉ text.toList

/-- The characters of a number with six decimals. -/
def isDecimalChar (c : Char) : Bool := c.isAlphanum || c == '.' || c == '-'

theorem isDecimalChar_of_mem_decimal {n : ℕ} {c : Char} (h : c ∈ decimal n) :
    isDecimalChar c = true := by
  simp [isDecimalChar, isAlphanum_of_mem_toDigits (by omega) (by omega) h]

theorem isDecimalChar_of_mem_fixed6 {x : Float} {c : Char} (h : c ∈ fixed6 x) :
    isDecimalChar c = true := by
  have hword : ∀ word ∈ ["inf", "NaN"], word.toList.all isDecimalChar = true := by decide
  have hsign : ∀ p [Decidable p], c ∈ (if p then ['-'] else []) → isDecimalChar c = true := by
    intro p _ h
    split at h
    · rw [List.mem_singleton.1 h]
      rfl
    · cases h
  have hmillionths : ∀ n, c ∈ writeMillionths n → isDecimalChar c = true := by
    intro n h
    simp only [writeMillionths, List.mem_append, List.mem_cons, List.mem_replicate] at h
    rcases h with h | rfl | ⟨-, rfl⟩ | h
    · exact isDecimalChar_of_mem_decimal h
    · rfl
    · rfl
    · exact isDecimalChar_of_mem_decimal h
  simp only [fixed6, fixed6Bits] at h
  split at h
  · split at h
    · cases List.mem_append.1 h with
      | inl h => exact hsign _ h
      | inr h => exact List.all_eq_true.1 (hword "inf" (by simp)) c h
    · exact List.all_eq_true.1 (hword "NaN" (by simp)) c h
  · cases List.mem_append.1 h with
    | inl h => exact hsign _ h
    | inr h => exact hmillionths _ h

/-- Only a text can bring a separator into a column. -/
theorem notMem_write {column : Column} {c : Char} (hc : isDecimalChar c = false)
    (htext : ∀ text, column = .text text → c ∉ text.toList) : c ∉ column.write := by
  intro h
  cases column with
  | text value => exact htext value rfl h
  | number value => simp [isDecimalChar_of_mem_decimal h] at hc
  | fraction value => simp [isDecimalChar_of_mem_fixed6 h] at hc
  | label value =>
    have hdebug : value.debug.toList.all isDecimalChar = true := by cases value <;> decide
    simp [List.all_eq_true.1 hdebug c h] at hc

theorem text_mem_columns {value : DamonRegionSample} {text : String} :
    Column.text text ∈ value.columns ↔ text ∈ value.texts := by
  simp [DamonRegionSample.columns, DamonRegionSample.texts]

theorem DamonRegionSample.Plain.notMem_write {value : DamonRegionSample} (h : value.Plain)
    {column : Column} (hcolumn : column ∈ value.columns) :
    ',' ∉ column.write ∧ '\n' ∉ column.write := by
  have htext : ∀ text, column = .text text → text ∈ value.texts := by
    rintro text rfl
    exact text_mem_columns.1 hcolumn
  exact ⟨Damon.notMem_write (by decide) fun text hcol => (h text (htext text hcol)).1,
    Damon.notMem_write (by decide) fun text hcol => (h text (htext text hcol)).2⟩

/-! ## §6 Reading lines back -/

theorem read_write (column : Column) : column.kind.read column.write = some column.cell := by
  cases column with
  | text value => simp [Column.kind, Kind.read, Column.write, Column.cell]
  | number value => simp [Column.kind, Kind.read, Column.write, Column.cell]
  | fraction value => rfl
  | label value =>
    have hlabel : readLabel value.debug.toList = some value := by cases value <;> decide
    simp [Column.kind, Kind.read, Column.write, Column.cell, hlabel]

/-- Columns are read one by one. -/
theorem mapM_read (columns : List Column) :
    ((columns.map Column.write).zip (columns.map Column.kind)).mapM
      (fun (shown, kind) => kind.read shown) = some (columns.map Column.cell) := by
  induction columns with
  | nil => rfl
  | cons column columns ih =>
    simp only [List.map_cons, List.zip_cons_cons, List.mapM_cons, read_write, ih]
    rfl

theorem header_columns : (csvHeader.splitOn ',').length = 29 := by
  have hnames : ∀ name ∈ csvNames.map String.toList, ',' ∉ name := by decide
  rw [csvHeader, List.splitOn_intercalate ',' hnames (by decide)]
  rfl

theorem readLine_csvLine {value : DamonRegionSample} (h : value.Plain) :
    decodeLine value.csvLine = some (value.columns.map Column.cell) := by
  have hparts : value.csvLine.splitOn ',' = value.columns.map Column.write := by
    apply List.splitOn_intercalate
    · intro part hpart
      obtain ⟨column, hcolumn, rfl⟩ := List.mem_map.1 hpart
      exact (h.notMem_write hcolumn).1
    · simp [DamonRegionSample.columns]
  have hkinds : csvKinds = value.columns.map Column.kind := rfl
  have hlength : (value.columns.map Column.write).length = 29 := rfl
  simp only [decodeLine, hparts, header_columns, hlength, if_true, hkinds]
  exact mapM_read value.columns

theorem exists_of_mapM {α β : Type} {f : α → Option β} {xs : List α} {ys : List β}
    (h : xs.mapM f = some ys) : ∀ y ∈ ys, ∃ x ∈ xs, f x = some y := by
  induction xs generalizing ys with
  | nil =>
    simp only [List.mapM_nil, pure, Option.some.injEq] at h
    simp [← h]
  | cons x xs ih =>
    simp only [List.mapM_cons, bind, Option.bind_eq_some_iff, pure, Option.some.injEq] at h
    obtain ⟨y, hy, zs, hzs, rfl⟩ := h
    intro z hz
    cases List.mem_cons.1 hz with
    | inl hz => exact ⟨x, by simp, by rw [hy, hz]⟩
    | inr hz =>
      obtain ⟨x', hx', hfx'⟩ := ih hzs z hz
      exact ⟨x', List.mem_cons_of_mem x hx', hfx'⟩

/-- A text that was read stands in one of the parts as it is. -/
theorem mem_parts_of_decodeLine {line : List Char} {cells : List Cell}
    (h : decodeLine line = some cells) {text : String} (htext : .text text ∈ cells) :
    text.toList ∈ line.splitOn ',' := by
  simp only [decodeLine] at h
  split at h
  next =>
    obtain ⟨⟨shown, kind⟩, hmem, hread⟩ := exists_of_mapM h _ htext
    have hshown : text.toList = shown := by
      cases kind with
      | text =>
        simp only [Kind.read, Option.some.injEq, Cell.text.injEq] at hread
        simp [← hread]
      | number => simp [Kind.read] at hread
      | fraction => simp [Kind.read] at hread
      | label => simp [Kind.read] at hread
    rw [hshown]
    exact (List.of_mem_zip hmem).1
  next => cases h

/-! ## §7 Which exports can be read -/

theorem csvHeader_notMem : '\n' ∉ csvHeader := by decide

/-- Plain records are written as one line each. -/
theorem decodes_of_plain {records : List DamonRegionSample} (h : ∀ record ∈ records, record.Plain) :
    Decodes (csvText records) records (records.map DamonRegionSample.csvLine) := by
  have hline : ∀ record ∈ records, '\n' ∉ record.csvLine := by
    intro record hrecord hmem
    cases mem_of_mem_intercalate hmem with
    | inl hmem => simp at hmem
    | inr hmem =>
      obtain ⟨part, hpart, hmem⟩ := hmem
      obtain ⟨column, hcolumn, rfl⟩ := List.mem_map.1 hpart
      exact ((h record hrecord).notMem_write hcolumn).2 hmem
  constructor
  · apply splitOn_lines
    intro line hmem
    cases List.mem_cons.1 hmem with
    | inl hmem =>
      rw [hmem]
      exact csvHeader_notMem
    | inr hmem =>
      obtain ⟨record, hrecord, rfl⟩ := List.mem_map.1 hmem
      exact hline record hrecord
  · rw [List.map_map]
    apply List.map_congr_left
    intro record hrecord
    exact readLine_csvLine (h record hrecord)

/-- What is read back from lines was plain. -/
theorem plain_of_decodes {output : List Char} {records : List DamonRegionSample}
    {lines : List (List Char)} (h : Decodes output records lines) :
    ∀ record ∈ records, record.Plain := by
  intro record hrecord text htext
  have hread : some (record.columns.map Column.cell) ∈ lines.map decodeLine := by
    rw [h.read]
    exact List.mem_map_of_mem hrecord
  obtain ⟨line, hline, hreadings⟩ := List.mem_map.1 hread
  have hcell : Cell.text text ∈ record.columns.map Column.cell :=
    List.mem_map.2 ⟨.text text, text_mem_columns.2 htext, rfl⟩
  have hpart := mem_parts_of_decodeLine hreadings hcell
  have hsplit : line ∈ output.splitOn '\n' := by
    rw [h.split]
    simp [hline]
  exact ⟨notMem_of_mem_splitOn hpart,
    fun hmem => notMem_of_mem_splitOn hsplit (mem_of_mem_splitOn hpart hmem)⟩

/-- **An export can be read back exactly when its texts are plain**: it has one line for each
    record behind the header, every line has the columns of the header, and from them come all
    exported fields, the fractions to six decimals. -/
theorem decodes_csvText_iff (records : List DamonRegionSample) :
    (∃ lines, Decodes (csvText records) records lines) ↔ ∀ record ∈ records, record.Plain :=
  ⟨fun ⟨_, h⟩ => plain_of_decodes h, fun h => ⟨_, decodes_of_plain h⟩⟩

/-- A record with a comma in the name of its target. -/
def commaSample : DamonRegionSample where
  schemaVersion := "nemor-damon-dataset-v1"
  sessionId := "session"
  timestampNs := 1
  targetId := 1
  pid := 7
  stableIdentity := "a,b"
  regionStart := 0
  regionEnd := 4096
  regionSize := 4096
  hotOverlapBytes := 0
  warmOverlapBytes := 0
  coldOverlapBytes := 0
  hotOverlapFraction := 0.0
  warmOverlapFraction := 0.0
  coldOverlapFraction := 0.0
  otherBytes := 4096
  nrAccesses := 0
  age := 3
  sampleUs := 5000
  aggrUs := 100000
  updateUs := 1000000
  expectedSamples := 20
  normalizedAccessRatio := 0.0
  observationalLabel := .cold
  labelRuleVersion := "v1"
  confidence := "low"
  evidence := []
  source := "damon_aggregated"
  kernel := "7.1.4"
  operationSet := "vaddr"

theorem commaSample_lost : ¬ ∃ lines, Decodes (csvText [commaSample]) [commaSample] lines := by
  rintro ⟨lines, h⟩
  have hplain := plain_of_decodes h commaSample (by simp) "a,b"
    (by simp [DamonRegionSample.texts, commaSample])
  exact hplain.1 (by decide)

end Nemor.Damon
