import Mathlib.Data.List.Destutter
import Mathlib.Data.List.Sort

/-!
# Sorted without duplicates

A list that is sorted and from which adjacent duplicates are taken out is the one strictly
increasing list with its elements. So it depends on nothing but which elements there are.
-/

namespace SortedSet

variable {α : Type} [LinearOrder α]

/-- Sort, then leave out what equals the element before it. -/
def sortDedup (l : List α) : List α := (l.insertionSort (· ≤ ·)).destutter (· ≠ ·)

/-- Leaving out repeated elements leaves each element. -/
theorem mem_destutter'_ne {a : α} {l : List α} {x : α} :
    x ∈ l.destutter' (· ≠ ·) a ↔ x = a ∨ x ∈ l := by
  induction l generalizing a with
  | nil => simp
  | cons b l ih =>
    rw [List.destutter'_cons]
    by_cases hab : a = b
    · subst hab
      simp [ih]
    · simp [hab, ih]

@[simp] theorem mem_sortDedup {l : List α} {x : α} : x ∈ sortDedup l ↔ x ∈ l := by
  have hdestutter (l : List α) : x ∈ l.destutter (· ≠ ·) ↔ x ∈ l := by
    cases l with
    | nil => simp
    | cons a l => rw [List.destutter_cons', mem_destutter'_ne, List.mem_cons]
  rw [sortDedup, hdestutter, List.mem_insertionSort]

/-- In a sorted list whose neighbours differ each element is below the next. -/
theorem isChain_lt {l : List α} (hle : l.Pairwise (· ≤ ·)) (hne : l.IsChain (· ≠ ·)) :
    l.IsChain (· < ·) := by
  induction hne with
  | nil => exact .nil
  | singleton a => exact .singleton a
  | cons_cons hab _ ih =>
    obtain ⟨hfirst, hrest⟩ := List.pairwise_cons.1 hle
    exact .cons_cons (lt_of_le_of_ne (hfirst _ List.mem_cons_self) hab) (ih hrest)

theorem sortDedup_pairwise (l : List α) : (sortDedup l).Pairwise (· < ·) := by
  have hsorted : (sortDedup l).Pairwise (· ≤ ·) :=
    (List.pairwise_insertionSort (· ≤ ·) l).sublist (List.destutter_sublist _ _)
  exact (isChain_lt hsorted (List.isChain_destutter _ _)).pairwise

/-- Two such lists with the same elements are equal. -/
theorem eq_of_pairwise_of_mem_iff {l l' : List α} (hl : l.Pairwise (· < ·))
    (hl' : l'.Pairwise (· < ·)) (h : ∀ x, x ∈ l ↔ x ∈ l') : l = l' := by
  have hnodup (l : List α) (hl : l.Pairwise (· < ·)) : l.Nodup := hl.imp fun h => h.ne
  have hperm : l.Perm l' := (List.perm_ext_iff_of_nodup (hnodup l hl) (hnodup l' hl')).2 h
  exact hperm.eq_of_pairwise (fun a b _ _ hab hba => absurd hab (lt_asymm hba)) hl hl'

/-- **It depends on nothing but the elements.** -/
theorem sortDedup_eq_iff {l l' : List α} : sortDedup l = sortDedup l' ↔ ∀ x, x ∈ l ↔ x ∈ l' := by
  constructor
  · intro h x
    rw [← mem_sortDedup, h, mem_sortDedup]
  · intro h
    apply eq_of_pairwise_of_mem_iff (sortDedup_pairwise l) (sortDedup_pairwise l')
    simpa using h

end SortedSet
