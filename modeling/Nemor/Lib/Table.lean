import Mathlib.Data.List.MinMax
import Mathlib.Data.List.Nodup
import Mathlib.Data.Prod.Lex
import Mathlib.Order.Lattice

/-!
# Tables with automatic ids

A table whose rows get an id of their own when they are inserted, larger than every id given
out before. Rows are kept in the order of their ids. Reading "the last row by time, then by
id" is reading the last inserted row as long as times never go back.
-/

/-- Rows with their ids, in the order of the ids, and the last id given out. -/
structure Table (α : Type) where
  rows : List (ℕ × α)
  lastId : ℕ
  ordered : rows.Pairwise fun a b => a.1 < b.1
  bounded : ∀ r ∈ rows, r.1 ≤ lastId

namespace Table

variable {α : Type}

/-- No row. -/
def empty : Table α := ⟨[], 0, List.Pairwise.nil, by simp⟩

/-- Insert a row under the next id. -/
def insert (t : Table α) (x : α) : Table α where
  rows := t.rows ++ [(t.lastId + 1, x)]
  lastId := t.lastId + 1
  ordered := by
    refine List.pairwise_append.2 ⟨t.ordered, List.pairwise_singleton _ _, ?_⟩
    intro a ha b hb
    rw [List.mem_singleton.1 hb]
    exact Nat.lt_succ_of_le (t.bounded a ha)
  bounded := by
    intro r hr
    rcases List.mem_append.1 hr with hr | hr
    · exact Nat.le_succ_of_le (t.bounded r hr)
    · rw [List.mem_singleton.1 hr]

/-- Change the rows that satisfy a condition; their ids stay. -/
def modify (t : Table α) (p : α → Bool) (f : α → α) : Table α where
  rows := t.rows.map fun r => (r.1, if p r.2 then f r.2 else r.2)
  lastId := t.lastId
  ordered := List.pairwise_map.2 t.ordered
  bounded := by
    intro r hr
    obtain ⟨old, hold, rfl⟩ := List.mem_map.1 hr
    exact t.bounded old hold

/-- The id of the first row that satisfies a condition. -/
def idOf (t : Table α) (p : α → Bool) : Option ℕ := (t.rows.find? fun r => p r.2).map Prod.fst

/-- The values of the rows that satisfy a condition, in the order of their ids. -/
def select (t : Table α) (p : α → Bool) : List α := (t.rows.map Prod.snd).filter p

/-- Times are compared first, ids second. -/
@[reducible] def keyOrder : LinearOrder (ℤ ×ₗ ℕ) :=
  @Prod.Lex.instLinearOrder ℤ ℕ Int.instLinearOrder Nat.instLinearOrder

/-- The last of some rows by time, then by id. -/
def lastByKey (time : α → ℤ) (rows : List (ℕ × α)) : Option (ℕ × α) :=
  @List.argmax (ℕ × α) (ℤ ×ₗ ℕ) keyOrder.toPreorder keyOrder.toDecidableLT
    (fun r => toLex (time r.2, r.1)) rows

/-- The value of the last of these rows by time, then by id. -/
def latest (t : Table α) (time : α → ℤ) (p : α → Bool) : Option α :=
  (lastByKey time (t.rows.filter fun r => p r.2)).map Prod.snd

theorem mem_of_lastByKey {time : α → ℤ} {rows : List (ℕ × α)} {r : ℕ × α}
    (h : lastByKey time rows = some r) : r ∈ rows :=
  @List.argmax_mem _ _ keyOrder.toPreorder keyOrder.toDecidableLT _ _ _ h

/-- A row that is not older than the others and has a larger id is the last one. -/
theorem lastByKey_concat {time : α → ℤ} {rows : List (ℕ × α)} {r : ℕ × α}
    (h : ∀ a ∈ rows, time a.2 ≤ time r.2 ∧ a.1 < r.1) :
    lastByKey time (rows ++ [r]) = some r := by
  unfold lastByKey
  rw [@List.argmax_concat _ _ keyOrder.toPreorder keyOrder.toDecidableLT]
  cases hold : lastByKey time rows with
  | none =>
    unfold lastByKey at hold
    rw [hold]
  | some a =>
    obtain ⟨htime, hid⟩ := h a (mem_of_lastByKey hold)
    unfold lastByKey at hold
    rw [hold]
    have hlt : toLex (time a.2, a.1) < toLex (time r.2, r.1) := by
      rw [Prod.Lex.toLex_lt_toLex]
      rcases htime.lt_or_eq with hlt | heq
      · exact .inl hlt
      · exact .inr ⟨heq, hid⟩
    exact if_pos hlt

/-- In the order of time and ids the last row is the last one of the list. -/
theorem lastByKey_eq_getLast? {time : α → ℤ} {rows : List (ℕ × α)}
    (h : rows.Pairwise fun a b => time a.2 ≤ time b.2 ∧ a.1 < b.1) :
    lastByKey time rows = rows.getLast? := by
  induction rows using List.reverseRecOn with
  | nil => rfl
  | append_singleton rows r _ =>
    obtain ⟨-, -, hlast⟩ := List.pairwise_append.1 h
    rw [List.getLast?_concat, lastByKey_concat fun a ha => hlast a ha r (List.mem_singleton_self r)]

@[simp] theorem select_empty (p : α → Bool) : (empty : Table α).select p = [] := rfl

theorem select_insert (t : Table α) (x : α) (p : α → Bool) :
    (t.insert x).select p = t.select p ++ if p x then [x] else [] := by
  unfold select insert
  by_cases h : p x <;> simp [h, List.filter_append]

/-- A change that keeps the condition changes the selected values in place. -/
theorem select_modify {t : Table α} {p q : α → Bool} {f : α → α} (h : ∀ x, p x → q (f x) = q x) :
    (t.modify p f).select q = (t.select q).map fun x => if p x then f x else x := by
  have hq : ∀ r : ℕ × α, q (if p r.2 then f r.2 else r.2) = q r.2 := by
    intro r
    by_cases hp : p r.2
    · rw [if_pos hp, h r.2 hp]
    · rw [if_neg hp]
  unfold select modify
  simp [List.filter_map, Function.comp_def, hq]

/-- A change of other rows is not seen. -/
theorem select_modify_other {t : Table α} {p q : α → Bool} {f : α → α}
    (h : ∀ x, p x → q x = false ∧ q (f x) = false) : (t.modify p f).select q = t.select q := by
  have hkeep : ∀ x, p x → q (f x) = q x := by
    intro x hx
    rw [(h x hx).1, (h x hx).2]
  have hsame : (t.select q).map (fun x => if p x then f x else x) = (t.select q).map id := by
    apply List.map_congr_left
    intro x hx
    have hq : q x := (List.mem_filter.1 hx).2
    have hp : ¬ p x := fun hp => by simp [(h x hp).1] at hq
    rw [if_neg hp, id]
  rw [select_modify hkeep, hsame, List.map_id]

theorem mem_select {t : Table α} {p : α → Bool} {x : α} :
    x ∈ t.select p ↔ (∃ id, (id, x) ∈ t.rows) ∧ p x := by
  simp [select]

/-- The last row is one of the rows. -/
theorem mem_of_latest {t : Table α} {x : α} {time : α → ℤ} {p : α → Bool}
    (h : t.latest time p = some x) : ∃ id, (id, x) ∈ t.rows := by
  obtain ⟨r, hr, rfl⟩ := Option.map_eq_some_iff.1 h
  exact ⟨r.1, List.mem_of_mem_filter (mem_of_lastByKey hr)⟩

/-- A row that does not satisfy the condition is not seen. -/
theorem latest_insert_other {t : Table α} {x : α} {time : α → ℤ} {p : α → Bool} (h : p x = false) :
    (t.insert x).latest time p = t.latest time p := by
  unfold latest insert
  simp [h, List.filter_append]

/-- A row that is not older than the others is the last one. -/
theorem latest_insert {t : Table α} {x : α} {time : α → ℤ} {p : α → Bool} (h : p x = true)
    (hle : ∀ y ∈ t.select p, time y ≤ time x) : (t.insert x).latest time p = some x := by
  unfold latest insert
  have hrows : (t.rows ++ [(t.lastId + 1, x)]).filter (fun r => p r.2) =
      (t.rows.filter fun r => p r.2) ++ [(t.lastId + 1, x)] := by
    simp [h, List.filter_append]
  -- the rows before it are not newer and have smaller ids
  have hnewest : ∀ a ∈ t.rows.filter (fun r => p r.2), time a.2 ≤ time x ∧ a.1 < t.lastId + 1 := by
    intro a ha
    obtain ⟨hmem, hp⟩ := List.mem_filter.1 ha
    exact ⟨hle a.2 (mem_select.2 ⟨⟨a.1, hmem⟩, hp⟩), Nat.lt_succ_of_le (t.bounded a hmem)⟩
  dsimp only
  rw [hrows, lastByKey_concat hnewest]
  rfl

/-- As long as times never go back the last row by time is the last one inserted. -/
theorem latest_eq_getLast? {t : Table α} {time : α → ℤ} {p : α → Bool}
    (h : (t.select p).Pairwise fun a b => time a ≤ time b) :
    t.latest time p = (t.select p).getLast? := by
  have hselect : t.select p = (t.rows.filter fun r => p r.2).map Prod.snd := by
    simp [select, List.filter_map, Function.comp_def]
  have hkeys : (t.rows.filter fun r => p r.2).Pairwise fun a b =>
      time a.2 ≤ time b.2 ∧ a.1 < b.1 := by
    rw [hselect, List.pairwise_map] at h
    exact h.and (t.ordered.filter _)
  rw [latest, hselect, List.getLast?_map, lastByKey_eq_getLast? hkeys]

/-- Two conditions with the same rows have the same last row. -/
theorem latest_congr {t : Table α} {time : α → ℤ} {p q : α → Bool}
    (h : ∀ r ∈ t.rows, p r.2 = q r.2) : t.latest time p = t.latest time q := by
  unfold latest
  rw [List.filter_congr h]

/-! ## Deletion -/

/-- Delete the rows that satisfy a condition; their ids are not given out again. -/
def delete (t : Table α) (p : α → Bool) : Table α where
  rows := t.rows.filter fun r => !p r.2
  lastId := t.lastId
  ordered := t.ordered.filter _
  bounded r hr := t.bounded r (List.mem_of_mem_filter hr)

/-- What is left of some rows are those that are not deleted. -/
theorem select_delete (t : Table α) (p q : α → Bool) :
    (t.delete p).select q = (t.select q).filter fun x => !p x := by
  simp [select, delete, List.filter_map, Function.comp_def, Bool.and_comm]

@[simp] theorem rows_insert (t : Table α) (x : α) :
    (t.insert x).rows = t.rows ++ [(t.lastId + 1, x)] := rfl

@[simp] theorem rows_modify (t : Table α) (p : α → Bool) (f : α → α) :
    (t.modify p f).rows = t.rows.map fun r => (r.1, if p r.2 then f r.2 else r.2) := rfl

theorem mem_of_idOf {t : Table α} {p : α → Bool} {id : ℕ} (h : t.idOf p = some id) :
    ∃ x, (id, x) ∈ t.rows ∧ p x := by
  obtain ⟨r, hr, rfl⟩ := Option.map_eq_some_iff.1 h
  have hp := List.find?_some hr
  exact ⟨r.2, List.mem_of_find?_eq_some hr, hp⟩

/-- Rows of one id are one row. -/
theorem eq_of_mem_rows {t : Table α} {id : ℕ} {x y : α} (hx : (id, x) ∈ t.rows)
    (hy : (id, y) ∈ t.rows) : x = y := by
  have hids : (t.rows.map Prod.fst).Nodup := List.pairwise_map.2 (t.ordered.imp fun h => h.ne)
  exact (Prod.mk.inj (List.inj_on_of_nodup_map hids hx hy rfl)).2

/-- A row that is inserted has a larger id than the others. -/
theorem lt_of_mem_rows {t : Table α} {r : ℕ × α} (h : r ∈ t.rows) : r.1 < t.lastId + 1 :=
  Nat.lt_succ_of_le (t.bounded r h)

end Table
