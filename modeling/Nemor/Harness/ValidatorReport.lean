import Nemor.Lib.Fallible
import Nemor.Lib.JsonText
import Nemor.Lib.OrderedMap

/-!
# The digest of a report

A report of the validator may be written down in more than one way. Before it is hashed its members
are put in the order of their names, so that the digest depends on what the report says and not
on the order in which it says it.
-/

namespace Nemor.Harness.ValidatorReport

open Fallible Json JsonValue

/-- The members of an object in the order in which its names are given. The names come in ascending
order here, so that a map that keeps the order of insertion has the same members in the same
order. -/
def insertAll (values : List (String × JsonValue)) (keys : List String) :
    List (String × JsonValue) :=
  keys.foldl
    (fun sorted key =>
      match values.lookup key with
      | some value => OrderedMap.insertEntry key value sorted
      | none => sorted) []

mutual

/-- The value with the members of every object in order. -/
def sortJson : JsonValue → JsonValue
  | .null => .null
  | .bool b => .bool b
  | .number n => .number n
  | .string s => .string s
  | .array values => .array (sortItems values)
  | .object values =>
    let keys := (values.map Prod.fst).insertionSort (· ≤ ·)
    .object (insertAll (sortMembers values) keys)

/-- The same in an array. -/
def sortItems : List JsonValue → List JsonValue
  | [] => []
  | value :: values => sortJson value :: sortItems values

/-- The same in the members of an object. -/
def sortMembers : List (String × JsonValue) → List (String × JsonValue)
  | [] => []
  | (key, value) :: values => (key, sortJson value) :: sortMembers values

end

variable {ε : Type}

/-- The text of a report with its members in order, and a line break. -/
def canonicalJsonBytes (toVecPretty : JsonValue → Except ε (List UInt8)) (value : JsonValue) :
    Except ε (List UInt8) := do
  let bytes ← toVecPretty (sortJson value)
  return bytes ++ [10]

/-- The digest of the canonical bytes. -/
def canonicalSha256 (toVecPretty : JsonValue → Except ε (List UInt8))
    (rawSha256 : List UInt8 → String) (value : JsonValue) : Except ε String := do
  let bytes ← canonicalJsonBytes toVecPretty value
  return rawSha256 bytes

/-! ## What sorting does -/

theorem sortItems_eq_map (values : List JsonValue) : sortItems values = values.map sortJson := by
  induction values with
  | nil => rfl
  | cons value values ih => rw [sortItems, ih, List.map_cons]

theorem sortMembers_eq_map (values : List (String × JsonValue)) :
    sortMembers values = values.map fun member => (member.1, sortJson member.2) := by
  induction values with
  | nil => rfl
  | cons member values ih => rw [sortMembers, ih, List.map_cons]

/-- Names in ascending order are put behind each other. -/
theorem foldl_insertEntry (values : List (String × JsonValue)) {keys : List String}
    (hkeys : keys.Pairwise (· < ·)) (sorted : List (String × JsonValue))
    (hsorted : ∀ member ∈ sorted, ∀ key ∈ keys, member.1 < key) :
    keys.foldl
        (fun sorted key =>
          match values.lookup key with
          | some value => OrderedMap.insertEntry key value sorted
          | none => sorted) sorted =
      sorted ++ keys.filterMap fun key => (values.lookup key).map (Prod.mk key) := by
  induction keys generalizing sorted with
  | nil => simp
  | cons key keys ih =>
    obtain ⟨habove, hkeys⟩ := List.pairwise_cons.1 hkeys
    have hrest : ∀ member ∈ sorted, ∀ key ∈ keys, member.1 < key :=
      fun member hmember key hkey => hsorted member hmember key (List.mem_cons_of_mem _ hkey)
    rw [List.foldl_cons, List.filterMap_cons]
    cases hvalue : values.lookup key with
    | none => exact ih hkeys sorted hrest
    | some value =>
      have hlast : ∀ member ∈ sorted, member.1 < key :=
        fun member hmember => hsorted member hmember key List.mem_cons_self
      have hnext : ∀ member ∈ sorted ++ [(key, value)], ∀ key ∈ keys, member.1 < key := by
        intro member hmember later hlater
        rcases List.mem_append.1 hmember with hmember | hmember
        · exact hrest member hmember later hlater
        · rw [List.mem_singleton.1 hmember]
          exact habove later hlater
      simp only [OrderedMap.insertEntry_above value hlast, Option.map_some]
      rw [ih hkeys _ hnext, List.append_assoc, List.singleton_append]

/-- **The members of a sorted object**: the same names in order, each with its value sorted. -/
theorem sortJson_object {values : List (String × JsonValue)}
    (hnames : (values.map Prod.fst).Nodup) :
    ∃ members, sortJson (.object values) = .object members ∧
      (members.map Prod.fst).Pairwise (· < ·) ∧
      (members.map Prod.fst).Perm (values.map Prod.fst) ∧
      ∀ name w, (name, w) ∈ members → ∃ v, (name, v) ∈ values ∧ w = sortJson v := by
  have hperm := List.perm_insertionSort (· ≤ ·) (values.map Prod.fst)
  have hkeys : ((values.map Prod.fst).insertionSort (· ≤ ·)).Pairwise (· < ·) :=
    ((List.pairwise_insertionSort _ _).and (hperm.nodup_iff.2 hnames)).imp
      fun h => lt_of_le_of_ne h.1 h.2
  have hmembers : (sortMembers values).map Prod.fst = values.map Prod.fst := by
    simp [sortMembers_eq_map]
  have hsorted := foldl_insertEntry (sortMembers values) hkeys []
    fun member hmember => absurd hmember List.not_mem_nil
  rw [List.nil_append] at hsorted
  -- each name of the object has a value
  have hfst : ((values.map Prod.fst).insertionSort (· ≤ ·)).filterMap (fun key =>
      ((sortMembers values).lookup key).map fun _ => key) =
        (values.map Prod.fst).insertionSort (· ≤ ·) := by
    refine Eq.trans (List.filterMap_congr fun key hkey => ?_) List.filterMap_some
    rw [hperm.mem_iff, ← hmembers] at hkey
    obtain ⟨⟨_, value⟩, hvalue, rfl⟩ := List.mem_map.1 hkey
    rw [(HashMap.lookup_eq_some_iff_mem (hmembers ▸ hnames)).2 hvalue, Option.map_some]
  refine ⟨_, by rw [sortJson, insertAll, hsorted], ?_, ?_, ?_⟩
  · simp only [List.map_filterMap, Option.map_map, Function.comp_def]
    rw [hfst]
    exact hkeys
  · simp only [List.map_filterMap, Option.map_map, Function.comp_def]
    rw [hfst]
    exact hperm
  · intro name w hmem
    obtain ⟨key, -, hkey⟩ := List.mem_filterMap.1 hmem
    obtain ⟨value, hvalue, heq⟩ := Option.map_eq_some_iff.1 hkey
    obtain ⟨rfl, rfl⟩ := Prod.mk.inj heq
    rw [HashMap.lookup_eq_some_iff_mem (hmembers ▸ hnames), sortMembers_eq_map] at hvalue
    obtain ⟨member, hmember, heq⟩ := List.mem_map.1 hvalue
    obtain ⟨rfl, rfl⟩ := Prod.mk.inj heq
    exact ⟨member.2, hmember, rfl⟩

/-! ## What is left of a report -/

theorem sameUpToOrder_sortJson {v : JsonValue} (h : v.WellFormed) :
    (sortJson v).SameUpToOrder v := by
  induction h with
  | null => exact .null
  | bool b => exact .bool b
  | number _ => exact .number _
  | string s => exact .string s
  | @array items _ ih =>
    rw [sortJson, sortItems_eq_map]
    refine .array (by simp) fun i v w hv hw => ?_
    obtain rfl : sortJson w = v := by simpa [hw] using hv
    exact ih w (List.mem_of_getElem? hw)
  | object hnames _ ih =>
    obtain ⟨members, hmembers, -, hperm, hvalues⟩ := sortJson_object hnames
    rw [hmembers]
    refine .object hperm fun name v w hv hw => ?_
    obtain ⟨u, hu, rfl⟩ := hvalues name v hv
    obtain rfl := value_unique hnames hu hw
    exact ih _ hw

theorem inOrder_sortJson {v : JsonValue} (h : v.WellFormed) : (sortJson v).InOrder := by
  induction h with
  | null => exact .null
  | bool b => exact .bool b
  | number _ => exact .number _
  | string s => exact .string s
  | array _ ih =>
    rw [sortJson, sortItems_eq_map]
    refine .array fun v hv => ?_
    obtain ⟨w, hw, rfl⟩ := List.mem_map.1 hv
    exact ih w hw
  | object hnames _ ih =>
    obtain ⟨members, hmembers, hordered, -, hvalues⟩ := sortJson_object hnames
    rw [hmembers]
    refine .object hordered fun member hmember => ?_
    obtain ⟨v, hv, hsorted⟩ := hvalues member.1 member.2 hmember
    rw [hsorted]
    exact ih _ hv

/-- What is assumed of the printer: it prints each report, and two reports with their members in
order that are printed alike are one report. -/
structure Unambiguous (toVecPretty : JsonValue → Except ε (List UInt8)) : Prop where
  prints : ∀ v : JsonValue, v.WellFormed → ∃ bytes, toVecPretty v = .ok bytes
  injective : ∀ v w : JsonValue, v.WellFormed → w.WellFormed → v.InOrder → w.InOrder →
    toVecPretty v = toVecPretty w → v = w

theorem wellFormed_sortJson {v : JsonValue} (h : v.WellFormed) : (sortJson v).WellFormed :=
  (sameUpToOrder_sortJson h).wellFormed h

/-- Sorted reports are equal exactly when the reports are the same up to the order. -/
theorem sortJson_eq_iff {v w : JsonValue} (hv : v.WellFormed) (hw : w.WellFormed) :
    sortJson v = sortJson w ↔ v.SameUpToOrder w := by
  have hsv := sameUpToOrder_sortJson hv
  have hsw := sameUpToOrder_sortJson hw
  constructor
  · intro h
    exact hsv.symm.trans (h ▸ hsw)
  · intro h
    exact (hsv.trans (h.trans hsw.symm)).eq_of_inOrder (inOrder_sortJson hv) (inOrder_sortJson hw)

theorem canonicalJsonBytes_eq_iff {toVecPretty : JsonValue → Except ε (List UInt8)}
    (h : Unambiguous toVecPretty) {v w : JsonValue} (hv : v.WellFormed) (hw : w.WellFormed) :
    canonicalJsonBytes toVecPretty v = canonicalJsonBytes toVecPretty w ↔
      sortJson v = sortJson w := by
  constructor
  · intro heq
    obtain ⟨bytes, hbytes⟩ := h.prints _ (wellFormed_sortJson hv)
    obtain ⟨bytes', hbytes'⟩ := h.prints _ (wellFormed_sortJson hw)
    -- both texts end with the line break
    simp only [canonicalJsonBytes, hbytes, hbytes', ok_bind] at heq
    have hsame : bytes = bytes' := List.append_cancel_right (Except.ok.inj heq)
    refine h.injective _ _ (wellFormed_sortJson hv) (wellFormed_sortJson hw) (inOrder_sortJson hv)
      (inOrder_sortJson hw) ?_
    rw [hbytes, hbytes', hsame]
  · intro heq
    rw [canonicalJsonBytes, canonicalJsonBytes, heq]

/-- The digest does not depend on the order of the members. -/
theorem canonicalSha256_congr (toVecPretty : JsonValue → Except ε (List UInt8))
    (rawSha256 : List UInt8 → String) {v w : JsonValue} (hw : w.WellFormed)
    (h : v.SameUpToOrder w) :
    canonicalSha256 toVecPretty rawSha256 v = canonicalSha256 toVecPretty rawSha256 w := by
  have hsorted : sortJson v = sortJson w := (sortJson_eq_iff (h.wellFormed hw) hw).2 h
  rw [canonicalSha256, canonicalSha256, canonicalJsonBytes, canonicalJsonBytes, hsorted]

/-- **The canonical text of a report.** Two reports have the same bytes exactly when they are equal
up to the order of their members at every depth. Sorting twice is sorting once, and a sorted
report has all members and all items that the report has. -/
theorem canonical_json_bytes_exact {toVecPretty : JsonValue → Except ε (List UInt8)}
    (h : Unambiguous toVecPretty) (v w : Document) :
    (canonicalJsonBytes toVecPretty v.value = canonicalJsonBytes toVecPretty w.value ↔
        v.value.SameUpToOrder w.value) ∧
      (∃ bytes, canonicalJsonBytes toVecPretty v.value = .ok bytes) ∧
      sortJson (sortJson v.value) = sortJson v.value ∧
      (sortJson v.value).SameUpToOrder v.value := by
  obtain ⟨v, hv⟩ := v
  obtain ⟨w, hw⟩ := w
  refine ⟨(canonicalJsonBytes_eq_iff h hv hw).trans (sortJson_eq_iff hv hw), ?_, ?_,
    sameUpToOrder_sortJson hv⟩
  · obtain ⟨bytes, hbytes⟩ := h.prints _ (wellFormed_sortJson hv)
    exact ⟨bytes ++ [10], by rw [canonicalJsonBytes, hbytes, ok_bind]; rfl⟩
  · exact (sortJson_eq_iff (wellFormed_sortJson hv) hv).2 (sameUpToOrder_sortJson hv)

/-! ## A report in two orders -/

/-- A printer that prints each report. -/
def printer (v : JsonValue) : Except String (List UInt8) := .ok (prettyBytes v)

theorem unambiguous_printer : Unambiguous printer where
  prints v _ := ⟨prettyBytes v, rfl⟩
  injective _ _ hv hw _ _ h := prettyBytes_injective hv hw (Except.ok.inj h)

/-- A report whose members are not in order. -/
def rawReport : Document where
  value := .object [("z", .number (.posInt 1)),
    ("a", .object [("y", .number (.posInt 2)), ("x", .number (.posInt 3))])]
  wellFormed := by
    have hnumber (n : UInt64) : (JsonValue.number (.posInt n)).WellFormed := .number trivial
    have hinner : (JsonValue.object
        [("y", .number (.posInt 2)), ("x", .number (.posInt 3))]).WellFormed :=
      .object (by decide) (by simp [hnumber])
    exact .object (by decide) (by simp [hnumber, hinner])

/-- The same report as it is read back from its canonical text. -/
def reserializedReport : Document where
  value := sortJson rawReport.value
  wellFormed := wellFormed_sortJson rawReport.wellFormed

theorem reserialized_report_same_bytes :
    rawReport.value ≠ reserializedReport.value ∧
      canonicalJsonBytes printer rawReport.value =
        canonicalJsonBytes printer reserializedReport.value := by
  have hsorted : reserializedReport.value = .object [
      ("a", .object [("x", .number (.posInt 3)), ("y", .number (.posInt 2))]),
      ("z", .number (.posInt 1))] := rfl
  have hexact := canonical_json_bytes_exact unambiguous_printer rawReport reserializedReport
  refine ⟨?_, hexact.1.2 (sameUpToOrder_sortJson rawReport.wellFormed).symm⟩
  rw [hsorted, rawReport]
  simp

end Nemor.Harness.ValidatorReport
