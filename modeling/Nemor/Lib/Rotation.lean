import Mathlib.Data.List.Rotate
import Mathlib.Data.Finset.Card
import Mathlib.Data.Nat.Notation

/-!
# Going round a list

A window is taken from a list again and again, and each time it goes on where the last one has
stopped; behind the last item comes the first one. The window at a place is the front of the list
as it is rotated to that place.
-/

namespace Rotation

variable {α : Type} [DecidableEq α] {l : List α} {start count : ℕ}

/-- The next items from a place on. -/
def window (l : List α) (start count : ℕ) : Finset α := ((l.rotate start).take count).toFinset

theorem window_mod (l : List α) (start count : ℕ) :
    window l (start % l.length) count = window l start count := by
  rw [window, List.rotate_mod, window]

/-- A window of a list without repetitions is as large as it can be. -/
theorem card_window (h : l.Nodup) (start count : ℕ) :
    (window l start count).card = min count l.length := by
  have hnodup : ((l.rotate start).take count).Nodup :=
    (List.nodup_rotate.2 h).sublist (List.take_sublist _ _)
  rw [window, List.toFinset_card_of_nodup hnodup, List.length_take, List.length_rotate]

/-- The item at a place of the rotated list is in the window that has the place. -/
theorem mem_window {a : α} {place k : ℕ} (hat : (l.rotate start)[place]? = some a)
    (hlow : k ≤ place) (hhigh : place < k + count) : a ∈ window l (start + k) count := by
  have hlength : place < l.length := by
    obtain ⟨h, -⟩ := List.getElem?_eq_some_iff.1 hat
    rwa [List.length_rotate] at h
  have hrotated : ((l.rotate start).rotate k)[place - k]? = some a := by
    rw [List.getElem?_rotate (by rw [List.length_rotate]; omega), List.length_rotate,
      Nat.sub_add_cancel hlow, Nat.mod_eq_of_lt hlength, hat]
  rw [window, List.mem_toFinset, ← List.rotate_rotate, List.mem_iff_getElem?]
  exact ⟨place - k, by rw [List.getElem?_take_of_lt (by omega), hrotated]⟩

/-- **Windows that are together as long as the list have every item between them.** -/
theorem exists_window {a : α} (ha : a ∈ l) {rounds : ℕ} (h : l.length ≤ rounds * count) :
    ∃ k < rounds, a ∈ window l (start + k * count) count := by
  obtain ⟨place, hat⟩ := List.mem_iff_getElem?.1 (List.mem_rotate.2 ha : a ∈ l.rotate start)
  have hplace : place < rounds * count := by
    obtain ⟨hlength, -⟩ := List.getElem?_eq_some_iff.1 hat
    rw [List.length_rotate] at hlength
    omega
  have hcount : 0 < count := Nat.pos_of_mul_pos_left (Nat.zero_lt_of_lt hplace)
  -- the window with the place is the one that the quotient counts
  refine ⟨place / count, (Nat.div_lt_iff_lt_mul hcount).2 hplace, mem_window hat ?_ ?_⟩
  · exact Nat.div_mul_le_self place count
  · exact Nat.lt_div_mul_add hcount

omit [DecidableEq α] in
/-- The items at the places of a window, each place reduced by itself. -/
theorem filterMap_eq_take_rotate (h : count ≤ l.length) :
    ((List.range count).filterMap fun offset => l[(start + offset) % l.length]?) =
      (l.rotate start).take count := by
  induction count with
  | zero => simp
  | succ count ih =>
    have hat : l[(start + count) % l.length]? = (l.rotate start)[count]? := by
      rw [List.getElem?_rotate (by omega), Nat.add_comm]
    rw [List.range_succ, List.filterMap_append, ih (by omega), List.take_add_one, ← hat]
    cases hitem : l[(start + count) % l.length]? with
    | none => simp only [List.filterMap_cons, hitem, List.filterMap_nil, Option.toList_none]
    | some a => simp only [List.filterMap_cons, hitem, List.filterMap_nil, Option.toList_some]

end Rotation
