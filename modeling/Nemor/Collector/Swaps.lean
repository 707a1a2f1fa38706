import Nemor.Collector.Source

/-!
# The active swaps

`swap::parse` reads `/proc/swaps`, a table with a heading, and tells in one word what kinds of
swap there are. §2 is what that word says of any list of entries, §3 that the table of the kernel
is read back.
-/

namespace Nemor.Collector.Swaps

open Fallible MachineNumbers Text UnixPath

/-! ## §1 Reading the table -/

/-- One swap area. -/
structure SwapEntry where
  path : List Char
  kind : List Char
  sizeBytes : UInt64
  usedBytes : UInt64
  priority : Int32
  deriving DecidableEq

/-- What kind of swap the host has. -/
inductive SwapConfiguration where
  | none
  | swapfile
  | partition
  | zram
  | mixed
  deriving DecidableEq

/-- The areas and what they amount to. -/
structure SwapState where
  entries : List SwapEntry
  configuration : SwapConfiguration
  deriving DecidableEq

/-- An error about a line, counted from one. -/
def lineError (index : ℕ) (complaint : String) : CollectorError :=
  .invalid "swaps" ("line " ++ toString (index + 1) ++ " " ++ complaint)

/-- A size in KiB. -/
def parseSize (index : ℕ) (value : List Char) : Except CollectorError UInt64 :=
  okOr (parseU64 value) (lineError index ("has invalid size: " ++ unsignedError (2 ^ 64) value))

/-- A priority. -/
def parsePriority (index : ℕ) (value : List Char) : Except CollectorError Int32 :=
  okOr (parseI32 value) (lineError index ("has invalid priority: " ++ signedError (2 ^ 31) value))

/-- A size in bytes, unless it overflows. -/
def kibToBytes (index : ℕ) (value : UInt64) : Except CollectorError UInt64 :=
  okOr (U64.mul value 1024) (lineError index "size overflows bytes")

/-- A line has five words. -/
def parseEntry (index : ℕ) (line : List Char) : Except CollectorError SwapEntry :=
  match splitWhitespace line with
  | [path, kind, size, used, priority] => do
    let sizeKib ← parseSize index size
    let usedKib ← parseSize index used
    let priority ← parsePriority index priority
    let sizeBytes ← kibToBytes index sizeKib
    let usedBytes ← kibToBytes index usedKib
    return { path, kind, sizeBytes, usedBytes, priority }
  | _ => .error (lineError index "must contain five fields")

/-- The first line when it is a heading. -/
def isHeading (index : ℕ) (line : List Char) : Bool :=
  index == 0 && decide ("filename".toList <:+: toAsciiLowercase line)

/-- The lines with their numbers. The heading and empty lines are skipped. -/
def parseLines : ℕ → List (List Char) → Except CollectorError (List SwapEntry)
  | _, [] => .ok []
  | index, line :: rest =>
    if isHeading index line || decide (trim line = []) then parseLines (index + 1) rest
    else do
      let entry ← parseEntry index line
      let entries ← parseLines (index + 1) rest
      return entry :: entries

/-- The kinds that were seen. -/
structure Seen where
  file : Bool
  partition : Bool
  zram : Bool

/-- Note the kind of an area. -/
def Seen.see (seen : Seen) (e : SwapEntry) : Seen :=
  if decide ("/zram".toList <:+: e.path) then { seen with zram := true }
  else if toAsciiLowercase e.kind == "file".toList then { seen with file := true }
  else { seen with partition := true }

/-- The kind that all areas have, if they have the same. -/
def summarize (entries : List SwapEntry) : SwapConfiguration :=
  if entries = [] then .none
  else
    match entries.foldl Seen.see ⟨false, false, false⟩ with
    | ⟨true, false, false⟩ => .swapfile
    | ⟨false, true, false⟩ => .partition
    | ⟨false, false, true⟩ => .zram
    | _ => .mixed

/-- `parse`. -/
def parse (input : List Char) : Except CollectorError SwapState := do
  let entries ← parseLines 0 (lines input)
  return { entries, configuration := summarize entries }

/-- Read and parse `/proc/swaps`. -/
def collect (source : TelemetrySource) : Except CollectorError SwapState :=
  match source.readToString "/proc/swaps" with
  | .error e => .error (.requiredRead "swaps" "/proc/swaps" e)
  | .ok text => parse text

/-! ## §2 The kinds of swap -/

/-- The word for a single entry. -/
def SwapEntry.configuration (e : SwapEntry) : SwapConfiguration :=
  if decide ("/zram".toList <:+: e.path) then .zram
  else if toAsciiLowercase e.kind == "file".toList then .swapfile
  else .partition

theorem SwapEntry.configuration_cases (e : SwapEntry) :
    e.configuration = .zram ∨ e.configuration = .swapfile ∨ e.configuration = .partition := by
  unfold SwapEntry.configuration
  split
  · exact .inl rfl
  · split
    · exact .inr (.inl rfl)
    · exact .inr (.inr rfl)

/-- Some area is of this kind. -/
def hasKind (entries : List SwapEntry) (c : SwapConfiguration) : Bool :=
  entries.any fun e => decide (e.configuration = c)

theorem hasKind_iff {entries : List SwapEntry} {c : SwapConfiguration} :
    hasKind entries c = true ↔ ∃ e ∈ entries, e.configuration = c := by
  simp [hasKind]

/-- The kinds that were seen are those of the entries. -/
theorem foldl_see (entries : List SwapEntry) (seen : Seen) :
    entries.foldl Seen.see seen = ⟨seen.file || hasKind entries .swapfile,
      seen.partition || hasKind entries .partition, seen.zram || hasKind entries .zram⟩ := by
  induction entries generalizing seen with
  | nil => simp [hasKind]
  | cons e entries ih =>
    have hsee : seen.see e = ⟨seen.file || decide (e.configuration = .swapfile),
        seen.partition || decide (e.configuration = .partition),
        seen.zram || decide (e.configuration = .zram)⟩ := by
      unfold Seen.see SwapEntry.configuration
      split
      · simp
      · split <;> simp
    rw [List.foldl_cons, hsee, ih]
    simp [hasKind, Bool.or_assoc]

theorem summarize_of_ne_nil {entries : List SwapEntry} (h : entries ≠ []) : summarize entries =
    match hasKind entries .swapfile, hasKind entries .partition, hasKind entries .zram with
    | true, false, false => .swapfile
    | false, true, false => .partition
    | false, false, true => .zram
    | _, _, _ => .mixed := by
  rw [summarize, if_neg h, foldl_see]
  simp only [Bool.false_or]
  cases hasKind entries .swapfile <;> cases hasKind entries .partition <;>
    cases hasKind entries .zram <;> rfl

/-- Entries of one kind have its word. -/
theorem summarize_of_forall {entries : List SwapEntry} {c : SwapConfiguration} (hne : entries ≠ [])
    (h : ∀ e ∈ entries, e.configuration = c) : summarize entries = c := by
  have hkind (d : SwapConfiguration) : hasKind entries d = decide (c = d) := by
    rw [Bool.eq_iff_iff, hasKind_iff, decide_eq_true_eq]
    constructor
    · rintro ⟨e, he, rfl⟩
      exact (h e he).symm
    · rintro rfl
      obtain ⟨e, he⟩ := List.exists_mem_of_ne_nil entries hne
      exact ⟨e, he, h e he⟩
  obtain ⟨e, he⟩ := List.exists_mem_of_ne_nil entries hne
  rw [summarize_of_ne_nil hne, hkind, hkind, hkind]
  rcases e.configuration_cases with hc | hc | hc <;> rw [h e he] at hc <;> subst hc <;> rfl

/-- Entries of different kinds are mixed. -/
theorem summarize_of_ne {entries : List SwapEntry} {e e' : SwapEntry} (he : e ∈ entries)
    (he' : e' ∈ entries) (h : e.configuration ≠ e'.configuration) : summarize entries = .mixed := by
  have hkind : hasKind entries e.configuration = true := hasKind_iff.2 ⟨e, he, rfl⟩
  have hkind' : hasKind entries e'.configuration = true := hasKind_iff.2 ⟨e', he', rfl⟩
  rw [summarize_of_ne_nil (List.ne_nil_of_mem he)]
  -- two of the three kinds were seen
  revert hkind hkind' h
  rcases e.configuration_cases with hc | hc | hc <;>
    rcases e'.configuration_cases with hc' | hc' | hc' <;> rw [hc, hc'] <;>
    cases hasKind entries .swapfile <;> cases hasKind entries .partition <;>
    cases hasKind entries .zram <;> simp

/-- **What the word for the swaps says.** -/
theorem summarize_spec (entries : List SwapEntry) :
    (summarize entries = .none ↔ entries = []) ∧
      (summarize entries = .mixed ↔
        ∃ e ∈ entries, ∃ e' ∈ entries, e.configuration ≠ e'.configuration) ∧
      ∀ c, c ≠ .none → c ≠ .mixed →
        (summarize entries = c ↔ entries ≠ [] ∧ ∀ e ∈ entries, e.configuration = c) := by
  have hsingle (e : SwapEntry) : e.configuration ≠ .none ∧ e.configuration ≠ .mixed := by
    rcases e.configuration_cases with hc | hc | hc <;> rw [hc] <;> decide
  by_cases hne : entries = []
  · subst hne
    refine ⟨by simp [summarize], by simp [summarize], fun c hc _ => ?_⟩
    simpa [summarize] using hc.symm
  · obtain ⟨first, hfirst⟩ := List.exists_mem_of_ne_nil entries hne
    by_cases hall : ∀ e ∈ entries, e.configuration = first.configuration
    · have hsum := summarize_of_forall hne hall
      rw [hsum]
      refine ⟨by simp [hne, hsingle first], ?_, fun c _ _ => ⟨fun h => ⟨hne, h ▸ hall⟩, ?_⟩⟩
      · simp only [(hsingle first).2, false_iff, not_exists, not_and, not_not]
        intro e he e' he'
        rw [hall e he, hall e' he']
      · rintro ⟨-, h⟩
        exact h first hfirst
    · obtain ⟨e, he, hdiff⟩ : ∃ e ∈ entries, e.configuration ≠ first.configuration := by
        simpa using hall
      rw [summarize_of_ne he hfirst hdiff]
      refine ⟨by simp [hne], iff_of_true rfl ⟨e, he, first, hfirst, hdiff⟩, fun c _ hc => ?_⟩
      refine iff_of_false (fun h => hc h.symm) ?_
      rintro ⟨-, h⟩
      exact hdiff ((h e he).trans (h first hfirst).symm)

/-! ## §3 The table of the kernel -/

/-- What separates two columns: spaces and tabs, at least one. -/
structure Gap where
  text : List Char
  nonempty : text ≠ []
  blank : ∀ c ∈ text, c = ' ' ∨ c = '\t'

/-- A line of the table. Sizes are in kB and fit as bytes; white space in a path is written as an
    escape. -/
structure SwapLine where
  path : List Char
  kind : List Char
  sizeKib : UInt64
  usedKib : UInt64
  priority : Int32
  gap₁ : Gap
  gap₂ : Gap
  gap₃ : Gap
  gap₄ : Gap
  path_word : Word path
  kind_word : Word kind
  size_fits : sizeKib.toNat * 1024 < 2 ^ 64
  used_fits : usedKib.toNat * 1024 < 2 ^ 64

namespace SwapLine

/-- The line as the kernel writes it. -/
def render (l : SwapLine) : List Char :=
  l.path ++ (l.gap₁.text ++ (l.kind ++ (l.gap₂.text ++ (decimal l.sizeKib.toNat ++
    (l.gap₃.text ++ (decimal l.usedKib.toNat ++ (l.gap₄.text ++ signed l.priority.toInt)))))))

/-- What a parser should read of the line. -/
def entry (l : SwapLine) : SwapEntry where
  path := l.path
  kind := l.kind
  sizeBytes := .ofNat (l.sizeKib.toNat * 1024)
  usedBytes := .ofNat (l.usedKib.toNat * 1024)
  priority := l.priority

end SwapLine

/-- The first line of `/proc/swaps`. -/
def heading : List Char := "Filename\t\t\t\tType\t\tSize\t\tUsed\t\tPriority".toList

/-- The whole file. -/
def renderTable (table : List SwapLine) : List Char :=
  (heading :: table.map SwapLine.render).flatMap fun line => line ++ ['\n']

theorem Gap.isWhiteSpace (g : Gap) {c : Char} (hc : c ∈ g.text) : isWhiteSpace c = true := by
  rcases g.blank c hc with rfl | rfl <;> decide

/-- A gap ends a word. -/
theorem splitWhitespace_gap {w : List Char} (hw : Word w) (g : Gap) (rest : List Char) :
    splitWhitespace (w ++ (g.text ++ rest)) = w :: splitWhitespace rest := by
  have hgap : ∀ blank : List Char, (∀ c ∈ blank, UnixPath.isWhiteSpace c = true) →
      splitWhitespace (blank ++ rest) = splitWhitespace rest := by
    intro blank hblank
    induction blank with
    | nil => rfl
    | cons c blank ih =>
      obtain ⟨hc, hblank⟩ := List.forall_mem_cons.1 hblank
      have hcons := splitWhitespace_append_cons hc [] (blank ++ rest)
      simpa [ih hblank] using hcons
  cases htext : g.text with
  | nil => exact absurd htext g.nonempty
  | cons c blank =>
    have hall : ∀ d ∈ c :: blank, UnixPath.isWhiteSpace d = true := fun d hd =>
      g.isWhiteSpace (htext ▸ hd)
    rw [List.cons_append, splitWhitespace_append_cons (hall c List.mem_cons_self),
      splitWhitespace_of_word hw, hgap blank fun d hd => hall d (List.mem_cons_of_mem c hd)]
    rfl

theorem word_signed (v : ℤ) : Word (signed v) := by
  cases v with
  | ofNat n => exact word_decimal n
  | negSucc n =>
    refine ⟨List.cons_ne_nil _ _, ?_⟩
    simp only [signed, List.forall_mem_cons]
    exact ⟨by decide, (word_decimal (n + 1)).solid⟩

theorem splitWhitespace_render (l : SwapLine) : splitWhitespace l.render =
    [l.path, l.kind, decimal l.sizeKib.toNat, decimal l.usedKib.toNat,
      signed l.priority.toInt] := by
  rw [SwapLine.render, splitWhitespace_gap l.path_word, splitWhitespace_gap l.kind_word,
    splitWhitespace_gap (word_decimal _), splitWhitespace_gap (word_decimal _),
    splitWhitespace_of_word (word_signed _)]

theorem kibToBytes_of_fits (index : ℕ) {n : UInt64} (h : n.toNat * 1024 < 2 ^ 64) :
    kibToBytes index n = .ok (.ofNat (n.toNat * 1024)) := by
  have hmul : U64.mul n 1024 = some (.ofNat (n.toNat * 1024)) := if_pos h
  rw [kibToBytes, hmul, okOr_some]

theorem parseEntry_render (index : ℕ) (l : SwapLine) :
    parseEntry index l.render = .ok l.entry := by
  rw [parseEntry, splitWhitespace_render]
  simp [parseSize, parsePriority, kibToBytes_of_fits index l.size_fits,
    kibToBytes_of_fits index l.used_fits, ok_bind]
  rfl

/-- A line of five words is not blank. -/
theorem trim_render_ne_nil (l : SwapLine) : trim l.render ≠ [] := by
  intro h
  have hsplit := splitWhitespace_trim l.render
  rw [h, splitWhitespace_nil, splitWhitespace_render] at hsplit
  cases hsplit

/-- Only the first line can be a heading. -/
theorem parseLines_render (index : ℕ) (table : List SwapLine) :
    parseLines (index + 1) (table.map SwapLine.render) = .ok (table.map SwapLine.entry) := by
  induction table generalizing index with
  | nil => rfl
  | cons l table ih =>
    have hheading : (isHeading (index + 1) l.render || decide (trim l.render = [])) = false := by
      simp [isHeading, trim_render_ne_nil]
    rw [List.map_cons, parseLines, hheading, parseEntry_render, ok_bind, ih]
    rfl

theorem render_line (l : SwapLine) : '\n' ∉ l.render ∧ l.render.getLast? ≠ some '\r' := by
  have hword {w : List Char} (hw : Word w) : '\n' ∉ w := fun h =>
    absurd (hw.solid _ h) (by decide)
  have hgap (g : Gap) : '\n' ∉ g.text := fun h => by
    rcases g.blank _ h with h | h <;> exact absurd h (by decide)
  constructor
  · simp only [SwapLine.render, List.mem_append, not_or]
    exact ⟨hword l.path_word, hgap _, hword l.kind_word, hgap _, hword (word_decimal _), hgap _,
      hword (word_decimal _), hgap _, hword (word_signed _)⟩
  · -- a line ends with the digits of the priority
    intro hlast
    have hsigned := word_signed l.priority.toInt
    have hend : l.render = (l.path ++ l.gap₁.text ++ l.kind ++ l.gap₂.text ++
        decimal l.sizeKib.toNat ++ l.gap₃.text ++ decimal l.usedKib.toNat ++ l.gap₄.text) ++
          signed l.priority.toInt := by
      simp [SwapLine.render]
    rw [hend, List.getLast?_append_of_ne_nil _ hsigned.nonempty] at hlast
    exact absurd (hsigned.solid _ (List.mem_of_getLast? hlast)) (by decide)

/-- **The table of the kernel is read back.** -/
theorem parse_renderTable (table : List SwapLine) : parse (renderTable table) =
    .ok ⟨table.map SwapLine.entry, summarize (table.map SwapLine.entry)⟩ := by
  have hlines : lines (renderTable table) = heading :: table.map SwapLine.render := by
    apply lines_flatMap
    simp only [List.forall_mem_cons, List.forall_mem_map]
    exact ⟨by decide, fun l _ => render_line l⟩
  have hheading : (isHeading 0 heading || decide (trim heading = [])) = true := by decide
  rw [parse, hlines, parseLines, hheading, if_pos rfl, parseLines_render]
  rfl

/-- What is read of a table: its entries in their order, and the word that fits all of them. -/
structure SwapState.Reads (state : SwapState) (table : List SwapLine) : Prop where
  entries : state.entries = table.map SwapLine.entry
  none_iff : state.configuration = .none ↔ table = []
  mixed_iff : state.configuration = .mixed ↔
    ∃ l ∈ table, ∃ l' ∈ table, l.entry.configuration ≠ l'.entry.configuration
  single_iff : ∀ c, c ≠ .none → c ≠ .mixed →
    (state.configuration = c ↔ table ≠ [] ∧ ∀ l ∈ table, l.entry.configuration = c)

/-- **Every table is read in full**, and the word for it is that of its lines. -/
theorem parse_reads_table (table : List SwapLine) :
    ∃ state, parse (renderTable table) = .ok state ∧ state.Reads table := by
  obtain ⟨hnone, hmixed, hsingle⟩ := summarize_spec (table.map SwapLine.entry)
  refine ⟨_, parse_renderTable table, rfl, ?_, ?_, fun c hc hc' => ?_⟩
  · rw [hnone, List.map_eq_nil_iff]
  · simpa using hmixed
  · simpa using hsingle c hc hc'

end Nemor.Collector.Swaps
