import Mathlib.Data.List.Induction
import Nemor.Lib.OrderedMap

/-!
# Values collected under keys

Values that arrive with keys are pushed to the list of their key. What stands under a key in the end
are the values that came with it, in the order in which they came, whatever the other keys were.
-/

namespace OrderedMap

variable {κ α β : Type} [LinearOrder κ]

/-! ## §1 What a map holds under a key -/

/-- The value of a key. -/
def get? (m : OrderedMap κ α) (k : κ) : Option α := m.entries.lookup k

variable {m : OrderedMap κ α} {k : κ} {v : α} {e : κ × α}

theorem nodup_keys (m : OrderedMap κ α) : (m.entries.map Prod.fst).Nodup := by
  rw [List.Nodup, List.pairwise_map]
  exact m.sorted.imp fun h => h.ne

theorem get?_eq_some_iff : m.get? k = some v ↔ (k, v) ∈ m.entries :=
  HashMap.lookup_eq_some_iff_mem m.nodup_keys

/-- Setting a key leaves the entries of the others. -/
theorem mem_insert : e ∈ (m.insert k v).entries ↔ e = (k, v) ∨ (e ∈ m.entries ∧ e.1 ≠ k) := by
  have hsorted := m.sorted
  show e ∈ insertEntry k v m.entries ↔ _
  generalize m.entries = entries at hsorted ⊢
  induction entries with
  | nil => simp [insertEntry]
  | cons x rest ih =>
    obtain ⟨hx, hrest⟩ := List.pairwise_cons.1 hsorted
    have hlater : e ∈ rest → x.1 < e.1 := fun he => hx e he
    unfold insertEntry
    split_ifs with hlt hgt
    · -- in front of a greater key, so in front of all that follow
      have hne : e ∈ x :: rest → e.1 ≠ k := by
        intro he
        rcases List.mem_cons.1 he with rfl | he
        · exact hlt.ne'
        · exact (hlt.trans (hlater he)).ne'
      rw [List.mem_cons]
      grind
    · -- behind a smaller key
      have hne : e = x → e.1 ≠ k := by
        rintro rfl
        exact hgt.ne
      rw [List.mem_cons, ih hrest, List.mem_cons]
      grind
    · -- in the place of an entry with this key
      have hk : k = x.1 := le_antisymm (not_lt.1 hgt) (not_lt.1 hlt)
      have hne : e ∈ rest → e.1 ≠ k := fun he => by
        rw [hk]
        exact (hlater he).ne'
      have hself : e = x → e.1 = k := by
        rintro rfl
        exact hk.symm
      rw [List.mem_cons, List.mem_cons]
      grind

theorem get?_insert {k' : κ} : (m.insert k v).get? k' = if k' = k then some v else m.get? k' := by
  apply Option.ext
  intro w
  rw [get?_eq_some_iff, mem_insert]
  split_ifs with hk
  · subst hk
    simp [eq_comm]
  · rw [get?_eq_some_iff]
    simp [hk]

/-! ## §2 Lists under keys -/

/-- `entry(k).or_default().push(v)`. -/
def push (m : OrderedMap κ (List α)) (pair : κ × α) : OrderedMap κ (List α) :=
  m.insert pair.1 ((m.get? pair.1).getD [] ++ [pair.2])

/-- The values of each key, in the order in which they come. -/
def grouped (pairs : List (κ × α)) : OrderedMap κ (List α) := pairs.foldl push empty

/-- The values that come with a key. -/
def valuesOf (k : κ) (pairs : List (κ × α)) : List α :=
  (pairs.filter fun pair => pair.1 = k).map Prod.snd

theorem valuesOf_map {ι : Type} (l : List ι) (key : ι → κ) (f : ι → α) (k : κ) :
    valuesOf k (l.map fun i => (key i, f i)) = (l.filter fun i => key i = k).map f := by
  rw [valuesOf, List.filter_map, List.map_map]
  rfl

theorem valuesOf_flatMap {ι : Type} (l : List ι) (f : ι → List (κ × α)) (k : κ) :
    valuesOf k (l.flatMap f) = l.flatMap fun i => valuesOf k (f i) := by
  rw [valuesOf, List.filter_flatMap, List.map_flatMap]
  rfl

/-- Of values that can be missing, with keys of their own, one arrives at most. -/
theorem valuesOf_present {l : List (κ × Option β)} (hkeys : (l.map Prod.fst).Nodup) (f : β → α)
    (k : κ) :
    valuesOf k (l.filterMap fun e => e.2.map fun v => (e.1, f v)) =
      (((l.lookup k).join).map f).toList := by
  induction l with
  | nil => rfl
  | cons e l ih =>
    obtain ⟨name, value⟩ := e
    obtain ⟨hfresh, hrest⟩ := List.nodup_cons.1 hkeys
    have ih := ih hrest
    by_cases hk : k = name
    · subst hk
      have habsent : l.lookup k = none := by
        rw [List.lookup_eq_none_iff]
        intro e he
        rw [bne_iff_ne]
        intro heq
        exact hfresh (List.mem_map.2 ⟨e, he, heq.symm⟩)
      rw [habsent] at ih
      cases value with
      | none => simpa [valuesOf] using ih
      | some v => simpa [valuesOf] using ih
    · have hlookup : ((name, value) :: l).lookup k = l.lookup k := by
        rw [List.lookup_cons, beq_false_of_ne hk]
      rw [hlookup, ← ih]
      cases value with
      | none => rfl
      | some v => simp [valuesOf, Ne.symm hk]

theorem get?_grouped (pairs : List (κ × α)) (k : κ) :
    (grouped pairs).get? k = if valuesOf k pairs = [] then none else some (valuesOf k pairs) := by
  induction pairs using List.reverseRecOn with
  | nil => rfl
  | append_singleton pairs pair ih =>
    have hgrouped : grouped (pairs ++ [pair]) = (grouped pairs).push pair := List.foldl_append
    rw [hgrouped, push, get?_insert]
    by_cases hk : k = pair.1
    · subst hk
      have hvalues : valuesOf pair.1 (pairs ++ [pair]) = valuesOf pair.1 pairs ++ [pair.2] := by
        simp [valuesOf]
      have hne : valuesOf pair.1 pairs ++ [pair.2] ≠ [] := by simp
      rw [if_pos rfl, hvalues, if_neg hne, ih]
      split_ifs with hnil
      · rw [hnil]
        rfl
      · rfl
    · have hvalues : valuesOf k (pairs ++ [pair]) = valuesOf k pairs := by
        simp [valuesOf, Ne.symm hk]
      rw [if_neg hk, hvalues, ih]

/-- **What is collected under a key.** -/
theorem mem_grouped {pairs : List (κ × α)} {k : κ} {values : List α} :
    (k, values) ∈ (grouped pairs).entries ↔ values ≠ [] ∧ values = valuesOf k pairs := by
  rw [← get?_eq_some_iff, get?_grouped]
  split_ifs with hnil
  · simp [hnil]
  · rw [Option.some.injEq, eq_comm]
    constructor
    · rintro rfl
      exact ⟨hnil, rfl⟩
    · exact And.right

end OrderedMap
