import Mathlib.Order.Lattice
import Mathlib.Tactic.Common

/-!
# Maps

A map with ordered keys as the list of its entries in the order of their keys. Reading the values
in key order is then reading the list. A map without an order is only looked up.
-/

/-- A map with its entries in strictly increasing order of their keys. -/
structure OrderedMap (κ α : Type) [LinearOrder κ] where
  entries : List (κ × α)
  sorted : entries.Pairwise fun a b => a.1 < b.1

namespace OrderedMap

variable {κ α : Type} [LinearOrder κ]

/-- No entry. -/
def empty : OrderedMap κ α := ⟨[], List.Pairwise.nil⟩

/-- Set the value of a key, keeping the order. -/
def insertEntry (k : κ) (v : α) : List (κ × α) → List (κ × α)
  | [] => [(k, v)]
  | e :: rest =>
    if k < e.1 then (k, v) :: e :: rest
    else if e.1 < k then e :: insertEntry k v rest
    else (k, v) :: rest

theorem mem_insertEntry {k : κ} {v : α} {l : List (κ × α)} {e : κ × α}
    (h : e ∈ insertEntry k v l) : e = (k, v) ∨ e ∈ l := by
  induction l with
  | nil => simpa [insertEntry] using h
  | cons x rest ih =>
    unfold insertEntry at h
    split_ifs at h
    · simpa using h
    · rcases List.mem_cons.1 h with rfl | h
      · simp
      · rcases ih h with h | h <;> simp [h]
    · rcases List.mem_cons.1 h with h | h <;> simp [h]

theorem pairwise_insertEntry (k : κ) (v : α) {l : List (κ × α)}
    (h : l.Pairwise fun a b => a.1 < b.1) :
    (insertEntry k v l).Pairwise fun a b => a.1 < b.1 := by
  induction l with
  | nil => exact List.pairwise_singleton _ _
  | cons x rest ih =>
    obtain ⟨hx, hrest⟩ := List.pairwise_cons.1 h
    unfold insertEntry
    split_ifs with hlt hgt
    · apply List.pairwise_cons.2 ⟨_, h⟩
      intro y hy
      rcases List.mem_cons.1 hy with rfl | hy
      · exact hlt
      · exact hlt.trans (hx y hy)
    · apply List.pairwise_cons.2 ⟨_, ih hrest⟩
      intro y hy
      rcases mem_insertEntry hy with rfl | hy
      · exact hgt
      · exact hx y hy
    · -- the key is there: only the value changes
      have hk : k = x.1 := le_antisymm (not_lt.1 hgt) (not_lt.1 hlt)
      apply List.pairwise_cons.2 ⟨_, hrest⟩
      intro y hy
      rw [hk]
      exact hx y hy

/-- Set the value of a key. -/
def insert (m : OrderedMap κ α) (k : κ) (v : α) : OrderedMap κ α :=
  ⟨insertEntry k v m.entries, pairwise_insertEntry k v m.sorted⟩

/-- The key has a value. -/
def containsKey (m : OrderedMap κ α) (k : κ) : Bool := m.entries.any fun e => e.1 == k

/-- The values in the order of their keys. -/
def values (m : OrderedMap κ α) : List α := m.entries.map Prod.snd

/-- A key above all others goes to the end. -/
theorem insertEntry_above {k : κ} (v : α) {l : List (κ × α)} (h : ∀ e ∈ l, e.1 < k) :
    insertEntry k v l = l ++ [(k, v)] := by
  induction l with
  | nil => rfl
  | cons x rest ih =>
    have hx : x.1 < k := h x (by simp)
    have hrest := ih fun e he => h e (by simp [he])
    simp [insertEntry, hx, hx.not_gt, hrest]

/-- Setting a key that is there changes its entry only. -/
theorem insertEntry_present {k : κ} (v : α) {l : List (κ × α)}
    (hsorted : l.Pairwise fun a b => a.1 < b.1) (h : ∃ e ∈ l, e.1 = k) :
    insertEntry k v l = l.map fun e => if e.1 = k then (k, v) else e := by
  induction l with
  | nil => simp at h
  | cons x rest ih =>
    obtain ⟨hx, hrest⟩ := List.pairwise_cons.1 hsorted
    by_cases hk : x.1 = k
    · -- found: no later entry has this key
      have hlater : rest.map (fun e => if e.1 = k then (k, v) else e) = rest.map id := by
        apply List.map_congr_left
        intro e he
        have hlt := hx e he
        rw [hk] at hlt
        simp [hlt.ne']
      simp [insertEntry, hk, hlater]
    · obtain ⟨e, he, hek⟩ := h
      have he' : e ∈ rest := by
        rcases List.mem_cons.1 he with rfl | he
        · exact absurd hek hk
        · exact he
      have hlt : x.1 < k := hek ▸ hx e he'
      simp [insertEntry, hlt, hlt.not_gt, hk, ih hrest ⟨e, he', hek⟩]

end OrderedMap

/-! ## Maps that are only looked up -/

namespace HashMap

variable {κ α : Type} [DecidableEq κ]

/-- A map collected from pairs, as what it answers; the last pair of a key counts. -/
def collect (pairs : List (κ × α)) (k : κ) : Option α := pairs.reverse.lookup k

theorem lookup_eq_some_iff_mem {ι β : Type} [BEq ι] [LawfulBEq ι] {pairs : List (ι × β)}
    (hkeys : (pairs.map Prod.fst).Nodup) {k : ι} {v : β} :
    pairs.lookup k = some v ↔ (k, v) ∈ pairs := by
  induction pairs with
  | nil => simp
  | cons pair pairs ih =>
    obtain ⟨hfresh, hkeys⟩ := List.nodup_cons.1 hkeys
    by_cases hk : k = pair.1
    · subst hk
      rw [List.lookup_cons_self, Option.some.injEq, List.mem_cons, Prod.ext_iff]
      constructor
      · rintro rfl
        exact .inl ⟨rfl, rfl⟩
      · rintro (⟨-, hv⟩ | hmem)
        · exact hv.symm
        · exact absurd (List.mem_map_of_mem hmem) hfresh
    · have hne : (k, v) ≠ pair := fun h => hk (congrArg Prod.fst h)
      rw [List.lookup_cons, beq_false_of_ne hk, List.mem_cons, or_iff_right hne]
      exact ih hkeys

/-- A table of different values, and something else for any other key: no two keys have the same
    value. -/
theorem lookup_getD_injective {ι β : Type} [BEq ι] [LawfulBEq ι] {table : List (ι × β)}
    {other : ι → β} (hother : Function.Injective other)
    (hvalues : ∀ e ∈ table, ∀ e' ∈ table, e.2 = e'.2 → e.1 = e'.1)
    (hfresh : ∀ e ∈ table, ∀ k, other k ≠ e.2) :
    Function.Injective fun k => (table.lookup k).getD (other k) := by
  have hmem : ∀ {k v}, table.lookup k = some v → (k, v) ∈ table := by
    intro k v h
    obtain ⟨front, back, heq, -⟩ := List.lookup_eq_some_iff.1 h
    rw [heq]
    simp
  intro a b h
  cases ha : table.lookup a with
  | none =>
    cases hb : table.lookup b with
    | none => exact hother (by simpa [ha, hb] using h)
    | some v => exact absurd (by simpa [ha, hb] using h) (hfresh _ (hmem hb) a)
  | some u =>
    cases hb : table.lookup b with
    | none => exact absurd (by simpa [ha, hb] using h.symm) (hfresh _ (hmem ha) b)
    | some v => exact hvalues _ (hmem ha) _ (hmem hb) (by simpa [ha, hb] using h)

theorem collect_eq_some_iff {pairs : List (κ × α)} (hkeys : (pairs.map Prod.fst).Nodup) {k : κ}
    {v : α} : collect pairs k = some v ↔ (k, v) ∈ pairs := by
  have hreverse : (pairs.reverse.map Prod.fst).Nodup := by
    rw [List.map_reverse]
    exact (List.reverse_perm _).nodup_iff.2 hkeys
  rw [collect, lookup_eq_some_iff_mem hreverse, List.mem_reverse]

/-- With one pair for each key the order of the pairs does not count. -/
theorem collect_perm {pairs pairs' : List (κ × α)} (hkeys : (pairs.map Prod.fst).Nodup)
    (hperm : pairs.Perm pairs') : collect pairs = collect pairs' := by
  have hkeys' : (pairs'.map Prod.fst).Nodup := (hperm.map Prod.fst).nodup hkeys
  funext k
  apply Option.ext
  intro v
  rw [collect_eq_some_iff hkeys, collect_eq_some_iff hkeys', hperm.mem_iff]

end HashMap
