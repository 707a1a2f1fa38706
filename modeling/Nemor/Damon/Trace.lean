import Nemor.Damon.Windows
import Nemor.Lib.Fallible
import Nemor.Lib.MachineNumbers
import Nemor.Lib.Rendering

/-!
# DAMON: aggregation events as text

The kernel writes an aggregation event as one line of its trace, either with a name in front of
every number or with the range and the counters by position. `parseAggregated` reads both. What
it reads is what was written, whatever stands in front of the event, and what it accepts from
any line at all is a region with at least one byte.
-/

namespace Nemor.Damon

open Fallible MachineNumbers U64 Text

/-! ## §1 Parsing -/

/-- The assignments of a line. -/
abbrev Fields := List (String × List Char)

/-- A name and its value, from one token. -/
def fieldOf (token : List Char) : Option (String × List Char) :=
  (splitOnce '=' (trimMatches ',' token)).map fun (key, value) =>
    (String.ofList key, trimMatches ',' value)

/-- The tokens of the form `key=value`, in the order of the payload. -/
def fields (payload : List Char) : Fields :=
  (splitWhitespace payload).filterMap fieldOf

/-- The value of a key. Where a key is given twice, the later value replaces the earlier. -/
def Fields.get (values : Fields) (key : String) : Option (List Char) :=
  (values.reverse.find? fun entry => entry.1 == key).map fun entry => entry.2

/-- The number under a name or the other name it may have. -/
def number (values : Fields) (name : String) (others : List String) : Except String UInt64 := do
  let value ← okOr ((name :: others).findSome? values.get) ("missing " ++ name)
  let parsed :=
    match stripPrefix "0x".toList value with
    | some hex => parseHexU64 hex
    | none => parseU64 value
  okOr parsed ("invalid " ++ name)

/-- An address in decimal, or else in hexadecimal. -/
def parseAddress (value : List Char) : Except String UInt64 :=
  okOr ((parseU64 value).or (parseHexU64 (trimStartMatches "0x".toList value)))
    "invalid region address"

/-- The token of a range ends with a colon. -/
def isRangeToken (token : List Char) : Bool := token.getLast? == some ':' && token.contains '-'

/-- The format with the range and the two counters behind it. -/
def positionalRegion (payload : List Char) (values : Fields) : Except String TraceRegion := do
  let targetId ← okOr ((values.get "target_id").or (values.get "target_idx")) "missing target_id"
  let targetId ← okOr (parseU64 targetId) "invalid target_id"
  let nrRegions ← okOr (values.get "nr_regions") "missing nr_regions"
  let nrRegions ← okOr (parseU32 nrRegions) "invalid nr_regions"
  let tokens := splitWhitespace payload
  let index ← okOr (tokens.findIdx? isRangeToken) "missing region range"
  let range ← okOr (splitOnce '-' (trimEndMatches ':' (tokens.getD index []))) "invalid region range"
  let start ← parseAddress range.1
  let end_ ← parseAddress range.2
  let nrAccesses ← okOr tokens[index + 1]? "missing nr_accesses"
  let nrAccesses ← okOr (parseU64 nrAccesses) "invalid nr_accesses"
  let age ← okOr tokens[index + 2]? "missing age"
  let age ← okOr (parseU64 age) "invalid age"
  return { targetId, nrRegions, start, end_, nrAccesses, age }

/-- The format with a name for everything. -/
def namedRegion (values : Fields) : Except String TraceRegion := do
  let targetId ← number values "target_id" ["target_idx"]
  let nrRegions ← number values "nr_regions" []
  let nrRegions ← okOr (tryU32 nrRegions) "nr_regions overflow"
  let start ← number values "start" []
  let end_ ← number values "end" []
  let nrAccesses ← number values "nr_accesses" ["accesses"]
  let age ← number values "age" []
  return { targetId, nrRegions, start, end_, nrAccesses, age }

/-- A region has an address. -/
def nonemptyRegion (region : TraceRegion) : Except String TraceRegion :=
  if region.end_ ≤ region.start then .error "region range is empty" else .ok region

/-- A line of the kernel. -/
def parsePositionalAggregated (payload : List Char) (values : Fields) : Except String TraceRegion :=
  positionalRegion payload values >>= nonemptyRegion

/-- A line without the marker is its own payload. -/
def aggregatedPayload (line : List Char) : List Char :=
  match splitOnceAt "damon_aggregated:".toList line with
  | some (_, payload) => payload
  | none => line

/-- A line of either format. -/
def parseAggregated (line : List Char) : Except String TraceRegion :=
  let payload := aggregatedPayload line
  let values := fields payload
  if (values.get "start").isNone then parsePositionalAggregated payload values
  else namedRegion values >>= nonemptyRegion

/-- An event as the kernel writes it, and one with names. -/
example :
    parseAggregated "0.1: damon:damon_aggregated: target_id=0 nr_regions=11 12-20: 7 864".toList =
      .ok ⟨0, 11, 12, 20, 7, 864⟩ ∧
    parseAggregated "target_id=2 nr_regions=3 start=0x10 end=0x20 accesses=8 age=4 x=y".toList =
      .ok ⟨2, 3, 16, 32, 8, 4⟩ := by
  decide +kernel

/-! ## §2 What is accepted -/

theorem nonemptyRegion_eq_ok {region result : TraceRegion} :
    nonemptyRegion region = .ok result ↔ region.start < region.end_ ∧ region = result := by
  simp [nonemptyRegion, ite_error_eq_ok]

/-- Whatever the line, a region that is read from it has a byte. -/
theorem start_lt_of_parseAggregated {line : List Char} {region : TraceRegion}
    (h : parseAggregated line = .ok region) : region.start < region.end_ := by
  have hchecked : ∀ x : Except String TraceRegion, x >>= nonemptyRegion = .ok region →
      region.start < region.end_ := by
    intro x hx
    obtain ⟨read, -, hread⟩ := bind_eq_ok.1 hx
    obtain ⟨hlt, rfl⟩ := nonemptyRegion_eq_ok.1 hread
    exact hlt
  simp only [parseAggregated] at h
  split at h
  · exact hchecked _ h
  · exact hchecked _ h

/-! ## §3 Writing -/

/-- The two ways to write a number. -/
inductive Numeral where
  | decimal
  | hexadecimal

/-- A number in the numeral. -/
def Numeral.write : Numeral → ℕ → List Char
  | .decimal, n => Text.decimal n
  | .hexadecimal, n => "0x".toList ++ Text.hexadecimal n

/-- `name=value`. -/
def assign (name : String) (value : List Char) : List Char := name.toList ++ '=' :: value

/-- A line of the trace: what stands in front of the event, the marker and the event. -/
def aggregatedLine (front event : List Char) : List Char :=
  front ++ ("damon_aggregated:".toList ++ ' ' :: event)

/-- The numbers of a region under the names they are written with. -/
def TraceRegion.entries (region : TraceRegion) : List (String × ℕ) := [
  ("target_id", region.targetId.toNat),
  ("nr_regions", region.nrRegions.toNat),
  ("start", region.start.toNat),
  ("end", region.end_.toNat),
  ("nr_accesses", region.nrAccesses.toNat),
  ("age", region.age.toNat)]

/-- An event with a name for everything, each number in its own way. -/
def renderNamed (numeral : String → Numeral) (region : TraceRegion) : List Char :=
  unwords (region.entries.map fun (name, n) => assign name ((numeral name).write n))

/-- A range with the colon behind it. -/
def rangeToken (numeral : Numeral) (start end_ : UInt64) : List Char :=
  (numeral.write start.toNat ++ '-' :: numeral.write end_.toNat) ++ [':']

/-- The tokens of a line of the kernel. -/
def positionalTokens (numeral : Numeral) (region : TraceRegion) : List (List Char) := [
  assign "target_id" (decimal region.targetId.toNat),
  assign "nr_regions" (decimal region.nrRegions.toNat),
  rangeToken numeral region.start region.end_,
  decimal region.nrAccesses.toNat,
  decimal region.age.toNat]

/-- The line. -/
def renderPositional (numeral : Numeral) (region : TraceRegion) : List Char :=
  unwords (positionalTokens numeral region)

namespace Numeral

variable {numeral : Numeral} {n : ℕ} {c : Char}

theorem isAlphanum_of_mem_write (h : c ∈ numeral.write n) : c.isAlphanum = true := by
  cases numeral with
  | decimal => exact isAlphanum_of_mem_toDigits (by omega) (by omega) h
  | hexadecimal =>
    cases List.mem_append.1 h with
    | inl h =>
      have hprefix : "0x".toList.all Char.isAlphanum = true := by decide
      exact List.all_eq_true.1 hprefix c h
    | inr h => exact isAlphanum_of_mem_toDigits (by omega) (by omega) h

theorem notMem_write (hc : c.isAlphanum = false) : c ∉ numeral.write n := by
  intro h
  simp [isAlphanum_of_mem_write h] at hc

theorem solid_write : ∀ c ∈ numeral.write n, UnixPath.isWhiteSpace c = false :=
  fun _ h => isWhiteSpace_of_isAlphanum (isAlphanum_of_mem_write h)

theorem x_notMem_toDigits {radix : ℕ} (hradix : 1 < radix) (h16 : radix ≤ 16) :
    'x' ∉ Nat.toDigits radix n := by
  intro h
  have hdigit : ∀ d < 16, 'x' ≠ Nat.digitChar d := by decide
  obtain ⟨d, hd, hx⟩ := digitChar_of_mem_toDigits hradix h
  exact hdigit d (by omega) hx

/-- Digits do not start like a hexadecimal numeral. -/
theorem stripPrefix_toDigits {radix : ℕ} (hradix : 1 < radix) (h16 : radix ≤ 16) :
    stripPrefix "0x".toList (Nat.toDigits radix n) = none := by
  have hprefix : ¬ "0x".toList <+: Nat.toDigits radix n := by
    intro h
    exact x_notMem_toDigits hradix h16 (h.subset (by decide))
  simpa [stripPrefix] using hprefix

/-- A named number is read back, however it is written. -/
theorem parse_write (numeral : Numeral) (n : UInt64) :
    (match stripPrefix "0x".toList (numeral.write n.toNat) with
      | some hex => parseHexU64 hex
      | none => parseU64 (numeral.write n.toNat)) = some n := by
  cases numeral with
  | decimal =>
    have hprefix : stripPrefix "0x".toList (Nat.toDigits 10 n.toNat) = none :=
      stripPrefix_toDigits (by omega) (by omega)
    simp only [write, Text.decimal, hprefix]
    exact parseU64_decimal n
  | hexadecimal => simp only [write, stripPrefix_append, parseHexU64_hexadecimal]

theorem parseAddress_write (numeral : Numeral) (n : UInt64) :
    parseAddress (numeral.write n.toNat) = .ok n := by
  cases numeral with
  | decimal => simp [parseAddress, write]
  | hexadecimal =>
    -- the letter is no decimal digit
    have hdecimal : parseU64 ("0x".toList ++ Text.hexadecimal n.toNat) = none := by
      simp [parseU64, fromRadix, parseDigits, digitValue]
    have hrest : stripPrefix "0x".toList (Nat.toDigits 16 n.toNat) = none :=
      stripPrefix_toDigits (by omega) (by omega)
    have hdone : ∀ k, trimStartMatches.go "0x".toList k (Text.hexadecimal n.toNat) =
        Text.hexadecimal n.toNat := by
      intro k
      cases k with
      | zero => rfl
      | succ k => simp only [trimStartMatches.go, Text.hexadecimal, hrest]
    have htrim : trimStartMatches "0x".toList ("0x".toList ++ Text.hexadecimal n.toNat) =
        Text.hexadecimal n.toNat := by
      have hlength : ("0x".toList ++ Text.hexadecimal n.toNat).length =
          (Text.hexadecimal n.toNat).length + 1 + 1 := by simp
      rw [trimStartMatches, hlength, trimStartMatches.go, stripPrefix_append]
      exact hdone _
    simp only [parseAddress, write, hdecimal, htrim, parseHexU64_hexadecimal, Option.none_or,
      okOr_some]

end Numeral

/-! ## §4 Reading back -/

theorem aggregatedPayload_line {front : List Char}
    (h : ¬ "damon_aggregated:".toList <:+: front) (event : List Char) :
    aggregatedPayload (aggregatedLine front event) = ' ' :: event := by
  have hmarker : "damon_aggregated".toList ++ [':'] = "damon_aggregated:".toList := by decide
  have hbody : ':' ∉ "damon_aggregated".toList := by decide
  have hsplit := splitOnceAt_marker hbody (by rwa [hmarker]) (' ' :: event)
  rw [hmarker] at hsplit
  simp only [aggregatedPayload, aggregatedLine, hsplit]

theorem splitWhitespace_event {tokens : List (List Char)} (h : ∀ token ∈ tokens, Word token) :
    splitWhitespace (' ' :: unwords tokens) = tokens := by
  have hspace := splitWhitespace_append_cons (c := ' ') (by decide) [] (unwords tokens)
  simpa [splitWhitespace_unwords h] using hspace

/-- A token is read as its name and its value. -/
theorem fieldOf_assign {name : String} {value : List Char} (heq : '=' ∉ name.toList)
    (hname : ',' ∉ name.toList) (hvalue : ',' ∉ value) :
    fieldOf (assign name value) = some (name, value) := by
  have hcomma : ',' ∉ assign name value := by simp [assign, hname, hvalue]
  rw [fieldOf, trimMatches_of_notMem hcomma, assign, splitOnce_append heq]
  simp [trimMatches_of_notMem hvalue]

/-- A token without `=` is no field. -/
theorem fieldOf_eq_none {token : List Char} (hcomma : ',' ∉ token) (heq : '=' ∉ token) :
    fieldOf token = none := by
  simp [fieldOf, trimMatches_of_notMem hcomma, splitOnce, heq]

theorem word_assign {name : String} {value : List Char}
    (hname : ∀ c ∈ name.toList, UnixPath.isWhiteSpace c = false)
    (hvalue : ∀ c ∈ value, UnixPath.isWhiteSpace c = false) : Word (assign name value) where
  nonempty := by simp [assign]
  solid := by
    intro c hc
    simp only [assign, List.mem_append, List.mem_cons] at hc
    rcases hc with hc | rfl | hc
    · exact hname c hc
    · decide
    · exact hvalue c hc

theorem fields_event {tokens : List (List Char)} (h : ∀ token ∈ tokens, Word token) :
    fields (' ' :: unwords tokens) = tokens.filterMap fieldOf := by
  rw [fields, splitWhitespace_event h]

/-- A name that a token can carry. -/
structure PlainName (name : String) : Prop where
  noSign : '=' ∉ name.toList
  noComma : ',' ∉ name.toList
  solid : ∀ c ∈ name.toList, UnixPath.isWhiteSpace c = false

theorem entries_plain (region : TraceRegion) : ∀ entry ∈ region.entries, PlainName entry.1 := by
  have hnames : ∀ name ∈ ["target_id", "nr_regions", "start", "end", "nr_accesses", "age"],
      '=' ∉ name.toList ∧ ',' ∉ name.toList ∧
        (name.toList.all fun c => !UnixPath.isWhiteSpace c) = true := by
    decide
  intro entry hentry
  have hname : entry.1 ∈ region.entries.map fun entry => entry.1 := List.mem_map_of_mem hentry
  obtain ⟨hsign, hcomma, hsolid⟩ := hnames entry.1 hname
  exact ⟨hsign, hcomma, solid_of_all hsolid⟩

/-- Named numbers are read back name by name. -/
theorem fields_entries {entries : List (String × ℕ)} (h : ∀ entry ∈ entries, PlainName entry.1)
    (numeral : String → Numeral) :
    fields (' ' :: unwords (entries.map fun (name, n) => assign name ((numeral name).write n))) =
      entries.map fun (name, n) => (name, (numeral name).write n) := by
  have hword : ∀ token ∈ entries.map (fun (name, n) => assign name ((numeral name).write n)),
      Word token := by
    intro token htoken
    obtain ⟨entry, hentry, rfl⟩ := List.mem_map.1 htoken
    exact word_assign (h entry hentry).solid Numeral.solid_write
  rw [fields_event hword, List.filterMap_map, ← List.filterMap_eq_map]
  apply List.filterMap_congr
  intro entry hentry
  exact fieldOf_assign (h entry hentry).noSign (h entry hentry).noComma
    (Numeral.notMem_write (by decide))

theorem number_of_get {values : Fields} {name : String} (numeral : Numeral) {n : UInt64}
    (h : values.get name = some (numeral.write n.toNat)) (others : List String) :
    number values name others = .ok n := by
  have hparse := numeral.parse_write n
  simp only [number, List.findSome?_cons, h]
  simp only [okOr_some, bind, Except.bind, hparse]

/-- Every name of a named event has its number. -/
theorem get_entry (numeral : String → Numeral) (region : TraceRegion) :
    ∀ entry ∈ region.entries, (fields (' ' :: renderNamed numeral region)).get entry.1 =
      some ((numeral entry.1).write entry.2) := by
  rw [renderNamed, fields_entries (entries_plain region)]
  simp [TraceRegion.entries, Fields.get]

theorem namedRegion_render (numeral : String → Numeral) (region : TraceRegion) :
    namedRegion (fields (' ' :: renderNamed numeral region)) = .ok region := by
  have hget := get_entry numeral region
  simp only [TraceRegion.entries, List.forall_mem_cons] at hget
  obtain ⟨htarget, hregions, hstart, hend, haccesses, hage, -⟩ := hget
  have hregions' : (fields (' ' :: renderNamed numeral region)).get "nr_regions" =
      some ((numeral "nr_regions").write region.nrRegions.toUInt64.toNat) := by simpa using hregions
  rw [namedRegion, number_of_get _ htarget, number_of_get _ hregions', number_of_get _ hstart,
    number_of_get _ hend, number_of_get _ haccesses, number_of_get _ hage]
  simp [bind, Except.bind, pure, Except.pure]

theorem notMem_decimal {n : ℕ} {c : Char} (hc : c.isAlphanum = false) : c ∉ decimal n :=
  @Numeral.notMem_write .decimal n c hc

theorem notMem_rangeToken {numeral : Numeral} {start end_ : UInt64} {c : Char}
    (hc : c.isAlphanum = false) (hminus : c ≠ '-') (hcolon : c ≠ ':') :
    c ∉ rangeToken numeral start end_ := by
  simp [rangeToken, Numeral.notMem_write hc, hminus, hcolon]

theorem word_rangeToken (numeral : Numeral) (start end_ : UInt64) :
    Word (rangeToken numeral start end_) where
  nonempty := by simp [rangeToken]
  solid := by
    intro c hc
    simp only [rangeToken, List.mem_append, List.mem_cons, List.not_mem_nil, or_false] at hc
    rcases hc with (hc | rfl | hc) | rfl
    · exact Numeral.solid_write c hc
    · decide
    · exact Numeral.solid_write c hc
    · decide

theorem positionalTokens_words (numeral : Numeral) (region : TraceRegion) :
    ∀ token ∈ positionalTokens numeral region, Word token := by
  have hassign : ∀ name ∈ ["target_id", "nr_regions"], ∀ n, Word (assign name (decimal n)) := by
    intro name hname n
    have hsolid : ∀ name ∈ ["target_id", "nr_regions"],
        (name.toList.all fun c => !UnixPath.isWhiteSpace c) = true := by decide
    exact word_assign (solid_of_all (hsolid name hname)) (word_decimal n).solid
  simp only [positionalTokens, List.forall_mem_cons]
  exact ⟨hassign _ (by simp) _, hassign _ (by simp) _, word_rangeToken _ _ _, word_decimal _,
    word_decimal _, by simp⟩

/-- Of a positional event only the first two tokens are fields. -/
theorem fields_positional (numeral : Numeral) (region : TraceRegion) :
    fields (' ' :: renderPositional numeral region) = [
      ("target_id", decimal region.targetId.toNat),
      ("nr_regions", decimal region.nrRegions.toNat)] := by
  have htarget : ∀ n, fieldOf (assign "target_id" (decimal n)) = some ("target_id", decimal n) :=
    fun _ => fieldOf_assign (by decide) (by decide) (notMem_decimal (by decide))
  have hregions : ∀ n, fieldOf (assign "nr_regions" (decimal n)) = some ("nr_regions", decimal n) :=
    fun _ => fieldOf_assign (by decide) (by decide) (notMem_decimal (by decide))
  have hnone : ∀ n, fieldOf (decimal n) = none := fun n =>
    fieldOf_eq_none (notMem_decimal (by decide)) (notMem_decimal (by decide))
  have hrange : fieldOf (rangeToken numeral region.start region.end_) = none :=
    fieldOf_eq_none (notMem_rangeToken (by decide) (by decide) (by decide))
      (notMem_rangeToken (by decide) (by decide) (by decide))
  rw [renderPositional, fields_event (positionalTokens_words numeral region)]
  simp [positionalTokens, htarget, hregions, hnone, hrange]

/-- The range is the first token with a hyphen that ends with a colon. -/
theorem findIdx_rangeToken (numeral : Numeral) (region : TraceRegion) :
    (positionalTokens numeral region).findIdx? isRangeToken = some 2 := by
  have hassign : ∀ name ∈ ["target_id", "nr_regions"], ∀ n,
      isRangeToken (assign name (decimal n)) = false := by
    intro name hname n
    have hminus : ∀ name ∈ ["target_id", "nr_regions"], '-' ∉ name.toList := by decide
    have hminus' : '-' ∉ assign name (decimal n) := by
      simp [assign, hminus name hname, notMem_decimal]
    simp [isRangeToken, hminus']
  have hrange : isRangeToken (rangeToken numeral region.start region.end_) = true := by
    simp only [isRangeToken, rangeToken, List.getLast?_concat]
    simp
  simp [positionalTokens, List.findIdx?_cons, hassign, hrange]

theorem splitOnce_rangeToken (numeral : Numeral) (start end_ : UInt64) :
    splitOnce '-' (trimEndMatches ':' (rangeToken numeral start end_)) =
      some (numeral.write start.toNat, numeral.write end_.toNat) := by
  have hcolon : ':' ∉ numeral.write start.toNat ++ '-' :: numeral.write end_.toNat := by
    simp [Numeral.notMem_write]
  rw [rangeToken, trimEndMatches_append hcolon, splitOnce_append (Numeral.notMem_write (by decide))]

theorem positionalRegion_render (numeral : Numeral) (region : TraceRegion) :
    positionalRegion (' ' :: renderPositional numeral region)
      (fields (' ' :: renderPositional numeral region)) = .ok region := by
  have htokens : splitWhitespace (' ' :: renderPositional numeral region) =
      positionalTokens numeral region :=
    splitWhitespace_event (positionalTokens_words numeral region)
  have hfind := findIdx_rangeToken numeral region
  simp only [positionalRegion, fields_positional, htokens, hfind]
  simp [Fields.get, positionalTokens, splitOnce_rangeToken, Numeral.parseAddress_write, bind,
    Except.bind, pure, Except.pure]

/-! ## §5 The round trip -/

theorem nonemptyRegion_of_lt {region : TraceRegion} (h : region.start < region.end_) :
    nonemptyRegion region = .ok region := nonemptyRegion_eq_ok.2 ⟨h, rfl⟩

/-- A named event is read back. -/
theorem parseAggregated_named {front : List Char} (hfront : ¬ "damon_aggregated:".toList <:+: front)
    (numeral : String → Numeral) {region : TraceRegion} (h : region.start < region.end_) :
    parseAggregated (aggregatedLine front (renderNamed numeral region)) = .ok region := by
  have hstart := get_entry numeral region ("start", region.start.toNat)
    (by simp [TraceRegion.entries])
  simp only [parseAggregated, aggregatedPayload_line hfront, hstart, namedRegion_render]
  simp [nonemptyRegion_of_lt h, bind, Except.bind]

/-- A positional event is read back. -/
theorem parseAggregated_positional {front : List Char}
    (hfront : ¬ "damon_aggregated:".toList <:+: front)
    (numeral : Numeral) {region : TraceRegion} (h : region.start < region.end_) :
    parseAggregated (aggregatedLine front (renderPositional numeral region)) = .ok region := by
  have hstart : (fields (' ' :: renderPositional numeral region)).get "start" = none := by
    simp [fields_positional, Fields.get]
  simp only [parseAggregated, aggregatedPayload_line hfront, hstart, parsePositionalAggregated,
    positionalRegion_render]
  simp [nonemptyRegion_of_lt h, bind, Except.bind]

end Nemor.Damon
