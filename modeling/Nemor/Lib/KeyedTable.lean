import Mathlib.Data.List.Induction
import Mathlib.Data.List.Nodup
import Mathlib.Data.List.Perm.Basic
import Mathlib.Tactic.Common

/-!
# Tables with a primary key

A table holds at most one row of a key. A row that is inserted over another one takes its place,
and what the other one held is gone. So a table into which a list of rows is written holds that
list if and only if the rows have keys of their own.
-/

/-- Rows under their keys, no key twice. -/
structure KeyedTable (κ α : Type) where
  rows : List (κ × α)
  unique : (rows.map Prod.fst).Nodup

namespace KeyedTable

variable {κ α : Type} [DecidableEq κ]

/-- No row. -/
def empty : KeyedTable κ α := ⟨[], List.nodup_nil⟩

/-- `INSERT OR REPLACE`: a row of that key is deleted before the new one is inserted. -/
def replace (t : KeyedTable κ α) (row : κ × α) : KeyedTable κ α where
  rows := (t.rows.filter fun r => r.1 ≠ row.1) ++ [row]
  unique := by
    rw [List.map_append, List.map_singleton, List.nodup_append]
    refine ⟨t.unique.sublist (List.filter_sublist.map _), List.nodup_singleton _, ?_⟩
    intro a ha b hb
    obtain ⟨r, hr, rfl⟩ := List.mem_map.1 ha
    rw [List.mem_singleton.1 hb]
    simpa using (List.mem_filter.1 hr).2

/-- Rows written one after the other. -/
def replaceAll (t : KeyedTable κ α) (rows : List (κ × α)) : KeyedTable κ α :=
  rows.foldl replace t

variable {t : KeyedTable κ α} {row r : κ × α} {rows rows' : List (κ × α)}

@[simp] theorem replaceAll_nil : t.replaceAll [] = t := rfl

@[simp] theorem replaceAll_singleton : t.replaceAll [row] = t.replace row := rfl

@[simp] theorem replaceAll_append :
    t.replaceAll (rows ++ rows') = (t.replaceAll rows).replaceAll rows' :=
  List.foldl_append

@[simp] theorem mem_replace :
    r ∈ (t.replace row).rows ↔ (r ∈ t.rows ∧ r.1 ≠ row.1) ∨ r = row := by
  simp [replace]

theorem mem_replaceAll_concat :
    r ∈ (t.replaceAll (rows ++ [row])).rows ↔
      (r ∈ (t.replaceAll rows).rows ∧ r.1 ≠ row.1) ∨ r = row := by
  rw [replaceAll_append, replaceAll_singleton, mem_replace]

/-- What is in a table after some rows were written is one of them, or an old row whose key was
    not written. -/
theorem mem_of_mem_replaceAll (h : r ∈ (t.replaceAll rows).rows) :
    r ∈ rows ∨ (r ∈ t.rows ∧ r.1 ∉ rows.map Prod.fst) := by
  induction rows using List.reverseRecOn with
  | nil => exact .inr ⟨h, by simp⟩
  | append_singleton rows row ih =>
    rcases mem_replaceAll_concat.1 h with ⟨hr, hne⟩ | rfl
    · rcases ih hr with hr | ⟨hr, hfresh⟩
      · exact .inl (by simp [hr])
      · refine .inr ⟨hr, ?_⟩
        rw [List.map_append, List.mem_append, not_or]
        exact ⟨hfresh, by simpa using hne⟩
    · exact .inl (by simp)

/-- Whatever is written, the keys are old ones or written ones. -/
theorem keys_replaceAll {K : κ → Prop} (hold : ∀ r ∈ t.rows, K r.1) (hnew : ∀ r ∈ rows, K r.1) :
    ∀ r ∈ (t.replaceAll rows).rows, K r.1 := by
  intro r h
  rcases mem_of_mem_replaceAll h with h | ⟨h, -⟩
  · exact hnew r h
  · exact hold r h

/-- `INSERT … ON CONFLICT DO UPDATE`: a row of that key is changed in its place. -/
def upsert (t : KeyedTable κ α) (row : κ × α) : KeyedTable κ α :=
  if row.1 ∈ t.rows.map Prod.fst then
    { rows := t.rows.map fun r => if r.1 = row.1 then row else r
      unique := by
        have hkeys : (t.rows.map fun r => if r.1 = row.1 then row else r).map Prod.fst =
            t.rows.map Prod.fst := by
          rw [List.map_map]
          apply List.map_congr_left
          intro r _
          by_cases h : r.1 = row.1 <;> simp [h]
        rw [hkeys]
        exact t.unique }
  else t.replace row

end KeyedTable
