import Nemor.Lib.Rendering
import Nemor.Tiering.BootV6.Completion

/-!
# Boot validation v6: reading a boot entry back

A boot entry is read line by line: a key, white space, and a value without white space at its
ends. `renderType1Entry` writes the fields of the manifest as they are, and no check of the
manifest looks at their characters, so a field with a line end in it writes further directives.
-/

namespace Nemor.Tiering.BootV6

open Text UnixPath

/-! ## §1 The reader -/

/-- The value of a line, if its key is this one. -/
def entryLineValue (key line : List Char) : Option (List Char) :=
  match stripPrefix key (trim line) with
  | none => none
  | some rest =>
    if rest.head?.any isWhiteSpace && trim rest ≠ [] then some (trim rest) else none

/-- The values of a key, from the top. -/
def entryValues (key text : List Char) : List (List Char) :=
  (lines text).filterMap (entryLineValue key)

/-- A value that can stand on a line. -/
structure Plain (value : List Char) : Prop extends Trimmed value where
  oneLine : '\n' ∉ value

theorem plain_of_mem_entryValues {key text value : List Char} (h : value ∈ entryValues key text) :
    Plain value := by
  obtain ⟨line, hline, hvalue⟩ := List.mem_filterMap.1 h
  unfold entryLineValue at hvalue
  split at hvalue
  · contradiction
  · next rest hrest =>
    split_ifs at hvalue with hsome
    simp only [Bool.and_eq_true, decide_eq_true_eq] at hsome
    cases hvalue
    refine ⟨trimmed_trim hsome.2, fun hmem => ?_⟩
    -- the value is a part of the line, and the line has no line end
    have hmem := mem_of_mem_trim hmem
    simp only [stripPrefix] at hrest
    split_ifs at hrest
    cases hrest
    exact notMem_of_mem_lines hline (mem_of_mem_trim (List.mem_of_mem_drop hmem))

/-! ## §2 Directives -/

/-- A line of an entry. -/
def directive (d : List Char × List Char) : List Char := d.1 ++ ' ' :: d.2

section Directives

variable {key key' value : List Char}

theorem trimmed_directive (hkey : Word key) (hvalue : Trimmed value) :
    Trimmed (directive (key, value)) := by
  refine ⟨by simp [directive], ?_, ?_⟩
  · intro c hc
    cases key with
    | nil => exact absurd rfl hkey.nonempty
    | cons d rest =>
      simp only [directive, List.cons_append, List.head?_cons, Option.mem_some_iff] at hc
      exact hc ▸ hkey.solid d (by simp)
  · intro c hc
    apply hvalue.last
    have hne := hvalue.nonempty
    rw [directive, List.getLast?_append_of_ne_nil _ (by simp)] at hc
    rwa [List.getLast?_cons_of_ne_nil hne] at hc

/-- A key is read off a line by the white space behind it. -/
theorem takeWhile_key (rest : List Char) {c : Char} (hkey : Word key)
    (hc : isWhiteSpace c = true) :
    (key ++ c :: rest).takeWhile (fun d => !isWhiteSpace d) = key := by
  rw [List.takeWhile_append_of_pos fun d hd => by simp [hkey.solid d hd]]
  simp [hc]

theorem entryLineValue_directive (hkey : Word key) (hkey' : Word key') (hvalue : Trimmed value) :
    entryLineValue key' (directive (key, value)) = if key' = key then some value else none := by
  have hspace : isWhiteSpace ' ' = true := by decide
  rw [entryLineValue, (trimmed_directive hkey hvalue).trim_eq, directive]
  split_ifs with heq
  · subst heq
    simp [hspace, trim_cons, hvalue.trim_eq, hvalue.nonempty]
  · cases hstrip : stripPrefix key' (key ++ ' ' :: value) with
    | none => rfl
    | some rest =>
      simp only [stripPrefix] at hstrip
      split_ifs at hstrip with hprefix
      cases hstrip
      obtain ⟨rest, hrest⟩ := List.isPrefixOf_iff_prefix.1 hprefix
      simp only [← hrest, List.drop_left]
      cases rest with
      | nil => rfl
      | cons c rest =>
        cases hc : isWhiteSpace c with
        | false => simp [hc]
        | true =>
          have htake := takeWhile_key rest hkey' hc
          rw [hrest, takeWhile_key value hkey hspace] at htake
          exact absurd htake.symm heq

/-- The text of directives, one on a line. -/
def directiveText (ds : List (List Char × List Char)) : List Char :=
  ds.flatMap fun d => directive d ++ ['\n']

/-- Directives with plain values are read back. -/
theorem entryValues_directiveText {ds : List (List Char × List Char)} (hkey' : Word key')
    (h : ∀ d ∈ ds, Word d.1 ∧ Plain d.2) :
    entryValues key' (directiveText ds) =
      ds.filterMap fun d => if key' = d.1 then some d.2 else none := by
  have hlines : lines (directiveText ds) = ds.map directive := by
    apply lines_flatMap_map
    intro d hd
    obtain ⟨hword, hplain⟩ := h d hd
    constructor
    · simp only [directive, List.mem_append, List.mem_cons, not_or]
      refine ⟨fun hmem => ?_, by decide, hplain.oneLine⟩
      exact absurd (hword.solid _ hmem) (by decide)
    · intro hlast
      exact absurd ((trimmed_directive hword hplain.toTrimmed).last _ hlast) (by decide)
  rw [entryValues, hlines, List.filterMap_map]
  apply List.filterMap_congr
  intro d hd
  obtain ⟨hword, hplain⟩ := h d hd
  exact entryLineValue_directive hword hkey' hplain.toTrimmed

end Directives

/-! ## §3 The entry of a manifest -/

/-- The keys of the rendered text. -/
inductive EntryKey where
  | title
  | linux
  | initrd
  | options
  deriving DecidableEq

/-- The key as it is written. -/
def EntryKey.text : EntryKey → List Char
  | .title => "title".toList
  | .linux => "linux".toList
  | .initrd => "initrd".toList
  | .options => "options".toList

theorem EntryKey.word_text (key : EntryKey) : Word key.text := by
  cases key <;> exact ⟨by decide, solid_of_all (by decide)⟩

@[simp] theorem EntryKey.text_inj {key key' : EntryKey} : key.text = key'.text ↔ key = key' := by
  cases key <;> cases key' <;> decide

/-- The lines of a rendered entry. -/
def entryDirectives (entry : BootEntryIdentity) : List (EntryKey × List Char) :=
  (.title, entry.title.toList) :: (.linux, entry.linuxOrEfi.text.toList) ::
    (entry.initrds.map fun initrd => (.initrd, initrd.text.toList)) ++
    [(.options, entry.options.toList)]

/-- The directives as texts. -/
def spelled (ds : List (EntryKey × List Char)) : List (List Char × List Char) :=
  ds.map fun d => (d.1.text, d.2)

theorem renderType1Entry_toList (entry : BootEntryIdentity) :
    (renderType1Entry entry).toList = directiveText (spelled (entryDirectives entry)) := by
  have htitle : "title ".toList = EntryKey.title.text ++ [' '] := by decide
  have hlinux : "linux ".toList = EntryKey.linux.text ++ [' '] := by decide
  have hinitrd : "initrd ".toList = EntryKey.initrd.text ++ [' '] := by decide
  have hoptions : "options ".toList = EntryKey.options.text ++ [' '] := by decide
  have hend : "\n".toList = ['\n'] := by decide
  unfold renderType1Entry
  simp only [String.toList_append, String.toList_join]
  rw [htitle, hlinux, hoptions, hend]
  simp [directiveText, spelled, entryDirectives, directive, List.flatMap_map, hinitrd, hend]

/-- What is read from the text is the entry: one title, one kernel, its initial disks in order
    and one set of options. -/
structure ReadsBack (text : List Char) (entry : BootEntryIdentity) : Prop where
  title : entryValues EntryKey.title.text text = [entry.title.toList]
  linux : entryValues EntryKey.linux.text text = [entry.linuxOrEfi.text.toList]
  initrds : entryValues EntryKey.initrd.text text =
    entry.initrds.map fun initrd => initrd.text.toList
  options : entryValues EntryKey.options.text text = [entry.options.toList]

/-- Every field can stand on a line. -/
structure BootEntryIdentity.PlainFields (entry : BootEntryIdentity) : Prop where
  title : Plain entry.title.toList
  linux : Plain entry.linuxOrEfi.text.toList
  initrds : ∀ initrd ∈ entry.initrds, Plain initrd.text.toList
  options : Plain entry.options.toList

section Entry

variable {entry : BootEntryIdentity}

theorem plain_of_readsBack {text : List Char} (h : ReadsBack text entry) : entry.PlainFields where
  title := plain_of_mem_entryValues (h.title ▸ List.mem_singleton_self _)
  linux := plain_of_mem_entryValues (h.linux ▸ List.mem_singleton_self _)
  initrds := fun _ hinitrd =>
    plain_of_mem_entryValues (h.initrds ▸ List.mem_map_of_mem hinitrd)
  options := plain_of_mem_entryValues (h.options ▸ List.mem_singleton_self _)

theorem plain_of_mem_entryDirectives (h : entry.PlainFields) :
    ∀ d ∈ entryDirectives entry, Plain d.2 := by
  intro d hd
  simp only [entryDirectives, List.cons_append, List.mem_cons, List.mem_append, List.mem_map,
    List.not_mem_nil, or_false] at hd
  rcases hd with rfl | rfl | ⟨initrd, hinitrd, rfl⟩ | rfl
  · exact h.title
  · exact h.linux
  · exact h.initrds initrd hinitrd
  · exact h.options

/-- Each key gets back the values written under it. -/
theorem entryValues_render (h : entry.PlainFields) (key : EntryKey) :
    entryValues key.text (renderType1Entry entry).toList =
      (entryDirectives entry).filterMap fun d => if key = d.1 then some d.2 else none := by
  have hplain : ∀ d ∈ spelled (entryDirectives entry), Word d.1 ∧ Plain d.2 := by
    intro _ hd
    obtain ⟨d, hmem, rfl⟩ := List.mem_map.1 hd
    exact ⟨d.1.word_text, plain_of_mem_entryDirectives h d hmem⟩
  rw [renderType1Entry_toList, entryValues_directiveText key.word_text hplain, spelled,
    List.filterMap_map]
  simp

theorem readsBack_of_plain (h : entry.PlainFields) :
    ReadsBack (renderType1Entry entry).toList entry := by
  constructor <;> rw [entryValues_render h] <;> simp [entryDirectives]

end Entry

/-- **The rendered entry of an accepted manifest is read back exactly when its fields are
    plain**, because acceptance does not ask for that. -/
theorem renderType1Entry_faithful_iff (c : Codec) (m : PreparedManifest) :
    (m.validate c = .ok () →
      ReadsBack (renderType1Entry m.payload.experimentalEntry).toList
        m.payload.experimentalEntry) ↔
      (m.validate c = .ok () → m.payload.experimentalEntry.PlainFields) :=
  ⟨fun h hvalid => plain_of_readsBack (h hvalid), fun h hvalid => readsBack_of_plain (h hvalid)⟩

/-- Digests that say nothing. -/
def blindCodec : Codec where
  toVec := fun _ => []
  sha256 := fun _ => digits 'a' 64

/-- An accepted manifest whose title brings a second kernel, in front of the frozen one. -/
theorem renderType1Entry_injected :
    (titledManifest blindCodec "A\nlinux /b").validate blindCodec = .ok () ∧
    ¬ ReadsBack (renderType1Entry
      (titledManifest blindCodec "A\nlinux /b").payload.experimentalEntry).toList
      (titledManifest blindCodec "A\nlinux /b").payload.experimentalEntry := by
  refine ⟨titledManifest_valid _ _, fun hreads => ?_⟩
  have hline := (plain_of_readsBack hreads).title.oneLine
  have hmem : '\n' ∈ "A\nlinux /b".toList := by decide
  exact hline hmem

end Nemor.Tiering.BootV6
