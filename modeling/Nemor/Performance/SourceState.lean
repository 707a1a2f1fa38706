import Mathlib.Data.List.Sort
import Mathlib.Data.List.Flatten
import Mathlib.Data.Prod.Lex
import Mathlib.Data.String.Basic
import Nemor.Lib.OrderedMap
import Nemor.Lib.Streaming

/-!
# The identity of a source state

What a benchmark was built from is identified by one digest over the commit, the diff of the
tracked files and the names and content hashes of the other sources, which are sorted first. The
parts are fed to the digest one after the other, without their lengths and with nothing between
them, so that two states with the same bytes in all have the same identity, wherever the bytes of
one part end and those of the next begin.

- §1: the identity
- §2: what it identifies
- §3: names that run together
-/

namespace Nemor.Performance

open Streaming

/-! ## §1 The identity -/

/-- The bytes of a text. -/
def utf8 (text : String) : List UInt8 := text.toByteArray.data.toList

/-- Names with content hashes are compared by their names first. -/
def sortSources (sources : List (String × String)) : List (String × String) :=
  sources.insertionSort fun a b => toLex a ≤ toLex b

/-- `calculate_source_state_id`: the parts go into the digest one after the other. -/
def calculateSourceStateId (D : Digest UInt8) (gitHead : String) (trackedDiff : List UInt8)
    (extraSources : List (String × String)) : String :=
  let digest := D.update (D.update D.new (utf8 gitHead)) trackedDiff
  let digest := (sortSources extraSources).foldl (fun digest source =>
    D.update (D.update digest (utf8 source.1)) (utf8 source.2)) digest
  D.finalize digest

/-! ## §2 What it identifies -/

/-- What the identity is calculated from. -/
structure SourceState where
  gitHead : String
  trackedDiff : List UInt8
  extraSources : List (String × String)

namespace SourceState

variable {D : Digest UInt8} {s t : SourceState}

/-- The identity of a state of the sources. -/
def sourceStateId (D : Digest UInt8) (s : SourceState) : String :=
  calculateSourceStateId D s.gitHead s.trackedDiff s.extraSources

/-- The names and hashes of sources, one after the other. -/
def sourceParts (sources : List (String × String)) : List (List UInt8) :=
  sources.flatMap fun source => [utf8 source.1, utf8 source.2]

/-- The parts in the order in which they are fed. -/
def parts (s : SourceState) : List (List UInt8) :=
  utf8 s.gitHead :: s.trackedDiff :: sourceParts (sortSources s.extraSources)

/-- All bytes that the digest sees. -/
def fed (s : SourceState) : List UInt8 := s.parts.flatten

/-- The lengths of the parts. -/
def layout (s : SourceState) : List ℕ := s.parts.map List.length

/-- The same commit and diff and, but for their order, the same other sources. -/
structure Same (s t : SourceState) : Prop where
  gitHead : s.gitHead = t.gitHead
  trackedDiff : s.trackedDiff = t.trackedDiff
  extraSources : s.extraSources.Perm t.extraSources

theorem utf8_injective : Function.Injective utf8 := by
  intro a b h
  apply String.toByteArray_inj.1
  exact ByteArray.ext (Array.toList_inj.1 h)

theorem utf8_append (a b : String) : utf8 (a ++ b) = utf8 a ++ utf8 b := by
  simp [utf8]

theorem sortSources_perm (sources : List (String × String)) :
    (sortSources sources).Perm sources :=
  List.perm_insertionSort _ sources

theorem sortSources_eq_iff {sources others : List (String × String)} :
    sortSources sources = sortSources others ↔ sources.Perm others := by
  constructor
  · intro h
    exact (sortSources_perm sources).symm.trans (h ▸ sortSources_perm others)
  · intro h
    -- sorted lists of the same elements
    refine List.Perm.eq_of_pairwise (fun a b _ _ hab hba => ?_)
      (List.pairwise_insertionSort _ sources) (List.pairwise_insertionSort _ others) ?_
    · exact toLex.injective (le_antisymm hab hba)
    · exact (sortSources_perm sources).trans (h.trans (sortSources_perm others).symm)

theorem foldl_update (sources : List (String × String)) (digest : D.State) :
    sources.foldl (fun digest source =>
      D.update (D.update digest (utf8 source.1)) (utf8 source.2)) digest =
      D.update digest (sourceParts sources).flatten := by
  induction sources generalizing digest with
  | nil => exact (D.update_nil digest).symm
  | cons source sources ih =>
    rw [List.foldl_cons, ih, D.update_append, D.update_append]
    simp [sourceParts]

/-- The identity is the digest of all bytes. -/
theorem sourceStateId_eq_digest (D : Digest UInt8) (s : SourceState) :
    s.sourceStateId D = D.digest s.fed := by
  rw [sourceStateId, calculateSourceStateId, foldl_update, D.update_append, D.update_append]
  simp [Digest.digest, fed, parts]

theorem sourceParts_injective : Function.Injective sourceParts := by
  intro sources others h
  induction sources generalizing others with
  | nil =>
    cases others with
    | nil => rfl
    | cons other others => simp [sourceParts] at h
  | cons source sources ih =>
    cases others with
    | nil => simp [sourceParts] at h
    | cons other others =>
      obtain ⟨hname, hhash, hrest⟩ : utf8 source.1 = utf8 other.1 ∧ utf8 source.2 = utf8 other.2 ∧
          sourceParts sources = sourceParts others := by simpa [sourceParts] using h
      rw [ih hrest, Prod.ext (utf8_injective hname) (utf8_injective hhash)]

/-- The parts say which state it is. -/
theorem parts_eq_iff : s.parts = t.parts ↔ s.Same t := by
  rw [parts, parts, List.cons.injEq, List.cons.injEq, sourceParts_injective.eq_iff,
    utf8_injective.eq_iff, sortSources_eq_iff]
  exact ⟨fun h => ⟨h.1, h.2.1, h.2.2⟩, fun h => ⟨h.gitHead, h.trackedDiff, h.extraSources⟩⟩

/-- States with the same bytes are the same exactly when the bytes are cut in the same way. -/
theorem same_iff_of_fed_eq (h : s.fed = t.fed) : s.Same t ↔ s.layout = t.layout := by
  rw [← parts_eq_iff, List.eq_iff_flatten_eq]
  exact and_iff_right h

/-- The identity does not depend on the order of the other sources. -/
theorem sourceStateId_congr (h : s.Same t) : s.sourceStateId D = t.sourceStateId D := by
  rw [sourceStateId_eq_digest, sourceStateId_eq_digest, fed, fed, parts_eq_iff.2 h]

/-- Sources that are given once are the same list, but for the order, when they are the same set. -/
theorem same_iff_of_nodup (hs : s.extraSources.Nodup) (ht : t.extraSources.Nodup) :
    s.Same t ↔ s.gitHead = t.gitHead ∧ s.trackedDiff = t.trackedDiff ∧
      ∀ source, source ∈ s.extraSources ↔ source ∈ t.extraSources := by
  rw [← List.perm_ext_iff_of_nodup hs ht]
  exact ⟨fun h => ⟨h.gitHead, h.trackedDiff, h.extraSources⟩, fun h => ⟨h.1, h.2.1, h.2.2⟩⟩

/-- **Identity.** The order of the other sources does not count; and two states with one identity
    are the same if and only if their bytes in all differ or are cut in the same way. -/
theorem sourceStateId_identifies_iff (hD : Function.Injective D.digest) (s t : SourceState) :
    (∀ sources, sources.Perm s.extraSources →
      calculateSourceStateId D s.gitHead s.trackedDiff sources = s.sourceStateId D) ∧
    ((s.sourceStateId D = t.sourceStateId D → s.Same t) ↔
      s.fed ≠ t.fed ∨ s.layout = t.layout) ∧
    (s.extraSources.Nodup → t.extraSources.Nodup →
      ((s.sourceStateId D = t.sourceStateId D → s.gitHead = t.gitHead ∧
          s.trackedDiff = t.trackedDiff ∧
          ∀ source, source ∈ s.extraSources ↔ source ∈ t.extraSources) ↔
        s.fed ≠ t.fed ∨ s.layout = t.layout)) := by
  have hid : s.sourceStateId D = t.sourceStateId D ↔ s.fed = t.fed := by
    rw [sourceStateId_eq_digest, sourceStateId_eq_digest, hD.eq_iff]
  have hsame : (s.sourceStateId D = t.sourceStateId D → s.Same t) ↔
      s.fed ≠ t.fed ∨ s.layout = t.layout := by
    rw [hid, ← imp_iff_not_or]
    exact forall_congr' same_iff_of_fed_eq
  refine ⟨fun sources hperm => ?_, hsame, fun hs ht => ?_⟩
  · exact @sourceStateId_congr D ⟨s.gitHead, s.trackedDiff, sources⟩ s ⟨rfl, rfl, hperm⟩
  · rw [← same_iff_of_nodup hs ht]
    exact hsame

/-! ## §3 Names that run together -/

/-- Two sources and one with a name made of the first of them and the name of the second have the
    same bytes. -/
theorem fed_run_together (gitHead : String) (trackedDiff : List UInt8)
    {name hash name' hash' : String} (h : toLex (name, hash) ≤ toLex (name', hash')) :
    fed ⟨gitHead, trackedDiff, [(name, hash), (name', hash')]⟩ =
      fed ⟨gitHead, trackedDiff, [(name ++ hash ++ name', hash')]⟩ := by
  simp [fed, parts, sourceParts, sortSources, h, utf8_append]

/-- The content hash of an empty file. -/
def emptyHash : String := "e3b0c44298fc1c149afbf4c8996fb92427ae41e4649b934ca495991b7852b855"

/-- Two empty files, and one with a long name. -/
theorem run_together_same_identity :
    (∀ D : Digest UInt8,
      sourceStateId D ⟨"head", [], [("a.rs", emptyHash), ("b.rs", emptyHash)]⟩ =
        sourceStateId D ⟨"head", [], [("a.rs" ++ emptyHash ++ "b.rs", emptyHash)]⟩) ∧
    ¬ Same ⟨"head", [], [("a.rs", emptyHash), ("b.rs", emptyHash)]⟩
      ⟨"head", [], [("a.rs" ++ emptyHash ++ "b.rs", emptyHash)]⟩ := by
  constructor
  · intro D
    rw [sourceStateId_eq_digest, sourceStateId_eq_digest, fed_run_together]
    decide
  · intro hsame
    exact absurd hsame.extraSources.length_eq (by decide)

/-- What the hash gives for a clean and for a changed tree. -/
def knownStates : List (List UInt8 × String) :=
  [([104, 101, 97, 100], "9f2e6d33a3717ee826353a404ba4618d1aeeb6879ad7936bce8ed5f46814924d"),
    ([104, 101, 97, 100, 100, 105, 102, 102],
      "f05c29d1b7a0dfe13f3d3b691a4e47f412300a5fd1b6559f36a163f03f686e9b")]

/-- A byte as a character. -/
def byteChar (b : UInt8) : Char :=
  ⟨b.toUInt32, .inl (Nat.lt_trans (UInt8.toNat_toUInt32 b ▸ b.toNat_lt) (by decide))⟩

/-- A text that tells bytes apart. -/
def byteText (bytes : List UInt8) : String := "other:" ++ String.ofList (bytes.map byteChar)

/-- A digest with these values; any other input stays what it is, with a mark. -/
def knownStateDigest : Digest UInt8 where
  State := List UInt8
  new := []
  update := fun seen bytes => seen ++ bytes
  finalize := fun seen => (knownStates.lookup seen).getD (byteText seen)
  update_nil := List.append_nil
  update_append := List.append_assoc

theorem byteText_injective : Function.Injective byteText := by
  intro a b h
  have hchar : Function.Injective byteChar := fun a b h =>
    UInt8.toUInt32_inj.1 (congrArg Char.val h)
  exact hchar.list_map (String.ofList_injective (by simpa [byteText, ← String.toList_inj] using h))

theorem knownStateDigest_injective : Function.Injective knownStateDigest.digest := by
  have hmark : ∀ e ∈ knownStates, e.2.toList.head? ≠ some 'o' := by decide
  have hvalues : ∀ e ∈ knownStates, ∀ e' ∈ knownStates, e.2 = e'.2 → e.1 = e'.1 := by decide
  change Function.Injective fun bytes => (knownStates.lookup bytes).getD (byteText bytes)
  refine HashMap.lookup_getD_injective byteText_injective hvalues fun e he bytes h => ?_
  exact hmark e he (by simp [← h, byteText])

/-- A clean tree and one with a diff. -/
theorem sourceStateId_identifies_diff :
    fed ⟨"head", [], []⟩ ≠ fed ⟨"head", [100, 105, 102, 102], []⟩ ∧
      (sourceStateId knownStateDigest ⟨"head", [], []⟩ =
          sourceStateId knownStateDigest ⟨"head", [100, 105, 102, 102], []⟩ →
        Same ⟨"head", [], []⟩ ⟨"head", [100, 105, 102, 102], []⟩) := by
  have hfed : fed ⟨"head", [], []⟩ ≠ fed ⟨"head", [100, 105, 102, 102], []⟩ := by decide
  exact ⟨hfed, (sourceStateId_identifies_iff knownStateDigest_injective ⟨"head", [], []⟩
    ⟨"head", [100, 105, 102, 102], []⟩).2.1.2 (.inl hfed)⟩

end SourceState

end Nemor.Performance
