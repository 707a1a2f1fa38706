import Mathlib.Data.List.Sort
import Mathlib.Data.String.Basic
import Nemor.Lib.JsonDocument

/-!
# The order of members

The members of an object have no order of their own, but a text shows them in some order. Two
documents are the same up to that order if their arrays agree item by item and their objects
member by member. A document with its members in the order of their names stands for all that are
the same: no two of these are.
-/

namespace Json

namespace JsonValue

/-- Each name is there once in its object, and each number is a number. -/
inductive WellFormed : JsonValue → Prop
  | null : WellFormed .null
  | bool (b : Bool) : WellFormed (.bool b)
  | number {n : JsonNumber} (h : n.Valid) : WellFormed (.number n)
  | string (s : String) : WellFormed (.string s)
  | array {items : List JsonValue} (h : ∀ v ∈ items, WellFormed v) : WellFormed (.array items)
  | object {fields : List (String × JsonValue)} (hnames : (fields.map Prod.fst).Nodup)
      (h : ∀ field ∈ fields, WellFormed field.2) : WellFormed (.object fields)

/-- The members of each object come in the order of their names. -/
inductive InOrder : JsonValue → Prop
  | null : InOrder .null
  | bool (b : Bool) : InOrder (.bool b)
  | number (n : JsonNumber) : InOrder (.number n)
  | string (s : String) : InOrder (.string s)
  | array {items : List JsonValue} (h : ∀ v ∈ items, InOrder v) : InOrder (.array items)
  | object {fields : List (String × JsonValue)}
      (hnames : (fields.map Prod.fst).Pairwise (· < ·))
      (h : ∀ field ∈ fields, InOrder field.2) : InOrder (.object fields)

/-- Equal up to the order of the members at every depth. -/
inductive SameUpToOrder : JsonValue → JsonValue → Prop
  | null : SameUpToOrder .null .null
  | bool (b : Bool) : SameUpToOrder (.bool b) (.bool b)
  | number (n : JsonNumber) : SameUpToOrder (.number n) (.number n)
  | string (s : String) : SameUpToOrder (.string s) (.string s)
  | array {items items' : List JsonValue} (hlength : items.length = items'.length)
      (h : ∀ (i : ℕ) (v w : JsonValue), items[i]? = some v → items'[i]? = some w →
        SameUpToOrder v w) : SameUpToOrder (.array items) (.array items')
  | object {fields fields' : List (String × JsonValue)}
      (hnames : (fields.map Prod.fst).Perm (fields'.map Prod.fst))
      (h : ∀ (name : String) (v w : JsonValue), (name, v) ∈ fields → (name, w) ∈ fields' →
        SameUpToOrder v w) : SameUpToOrder (.object fields) (.object fields')

variable {u v w : JsonValue}

/-! ## Both ways and on -/

/-- A name that is there once has one value. -/
theorem value_unique {fields : List (String × JsonValue)} (h : (fields.map Prod.fst).Nodup)
    {name : String} (hv : (name, v) ∈ fields) (hw : (name, w) ∈ fields) : v = w :=
  congrArg Prod.snd (List.inj_on_of_nodup_map h hv hw rfl)

theorem SameUpToOrder.symm (h : v.SameUpToOrder w) : w.SameUpToOrder v := by
  induction h with
  | null => exact .null
  | bool b => exact .bool b
  | number n => exact .number n
  | string s => exact .string s
  | array hlength _ ih => exact .array hlength.symm fun i v w hv hw => ih i w v hw hv
  | object hnames _ ih => exact .object hnames.symm fun name v w hv hw => ih name w v hw hv

theorem SameUpToOrder.trans (h : u.SameUpToOrder v) (h' : v.SameUpToOrder w) :
    u.SameUpToOrder w := by
  induction h generalizing w with
  | null => exact h'
  | bool b => exact h'
  | number n => exact h'
  | string s => exact h'
  | @array items items' hlength _ ih =>
    cases h' with
    | array hlength' h' =>
      refine .array (hlength.trans hlength') fun i u w hu hw => ?_
      -- the item between the two
      obtain ⟨hi, -⟩ := List.getElem?_eq_some_iff.1 hu
      have hv : items'[i]? = some items'[i] := List.getElem?_eq_getElem (hlength ▸ hi)
      exact ih i u _ hu hv (h' i _ w hv hw)
  | @object fields fields' hnames _ ih =>
    cases h' with
    | object hnames' h' =>
      refine .object (hnames.trans hnames') fun name u w hu hw => ?_
      have hname : name ∈ fields'.map Prod.fst := hnames.mem_iff.1 (List.mem_map_of_mem hu)
      obtain ⟨⟨_, v⟩, hv, rfl⟩ := List.mem_map.1 hname
      exact ih _ u v hu hv (h' _ v w hv hw)

/-- What is the same as a document is a document. -/
theorem SameUpToOrder.wellFormed (h : v.SameUpToOrder w) (hw : w.WellFormed) : v.WellFormed := by
  induction h with
  | null => exact hw
  | bool b => exact hw
  | number n => exact hw
  | string s => exact hw
  | @array items items' hlength _ ih =>
    cases hw with | array hw =>
    refine .array fun v hv => ?_
    obtain ⟨i, hi, rfl⟩ := List.mem_iff_getElem.1 hv
    have hi' : i < items'.length := hlength ▸ hi
    exact ih i _ _ (List.getElem?_eq_getElem hi) (List.getElem?_eq_getElem hi')
      (hw _ (List.getElem_mem hi'))
  | object hnames _ ih =>
    cases hw with | object hdistinct hw =>
    refine .object (hnames.nodup_iff.2 hdistinct) fun field hfield => ?_
    obtain ⟨other, hother, hname⟩ := List.mem_map.1 (hnames.mem_iff.1 (List.mem_map_of_mem hfield))
    exact ih field.1 field.2 other.2 hfield (hname ▸ hother) (hw other hother)

/-! ## One document for all that are the same -/

/-- Names in order that are the same up to their order are the same. -/
theorem names_eq {names names' : List String} (h : names.Pairwise (· < ·))
    (h' : names'.Pairwise (· < ·)) (hperm : names.Perm names') : names = names' :=
  hperm.eq_of_pairwise (fun _ _ _ _ hlt hgt => absurd hlt hgt.asymm) h h'

/-- **Documents with their members in order are the same only if they are equal.** -/
theorem SameUpToOrder.eq_of_inOrder (h : v.SameUpToOrder w) (hv : v.InOrder) (hw : w.InOrder) :
    v = w := by
  induction h with
  | null => rfl
  | bool b => rfl
  | number n => rfl
  | string s => rfl
  | array hlength _ ih =>
    cases hv with | array hv =>
    cases hw with | array hw =>
    refine congrArg _ (List.ext_getElem hlength fun i hi hi' => ?_)
    exact ih i _ _ (List.getElem?_eq_getElem hi) (List.getElem?_eq_getElem hi')
      (hv _ (List.getElem_mem hi)) (hw _ (List.getElem_mem hi'))
  | @object fields fields' hnames _ ih =>
    cases hv with | object hordered hv =>
    cases hw with | object hordered' hw =>
    have heq := names_eq hordered hordered' hnames
    have hlength : fields.length = fields'.length := by simpa using congrArg List.length heq
    refine congrArg _ (List.ext_getElem hlength fun i hi hi' => ?_)
    have hname : fields[i].1 = fields'[i].1 := by
      have := congrArg (fun names => names[i]?) heq
      simpa [hi, hi'] using this
    refine Prod.ext hname (ih fields[i].1 _ _ (List.getElem_mem hi) ?_ ?_ ?_)
    · rw [hname]
      exact List.getElem_mem hi'
    · exact hv _ (List.getElem_mem hi)
    · exact hw _ (List.getElem_mem hi')

end JsonValue

/-- A value that a reader can return. -/
structure Document where
  value : JsonValue
  wellFormed : value.WellFormed

end Json
