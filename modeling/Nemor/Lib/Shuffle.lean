import Mathlib.Tactic.Common

/-!
# Shuffling in place

From the last position down, the element of every position is swapped with one at or below it. The
positions are drawn from a state that changes with every draw; whatever is drawn, the elements stay
the same.
-/

namespace Shuffle

variable {α σ : Type} {n : ℕ} (next : σ → σ) (pick : (index : ℕ) → σ → Fin (index + 1))

/-- The swaps for the positions from `index` down to 1. -/
def downFrom : (index : ℕ) → index < n → σ → Vector α n → Vector α n
  | 0, _, _, items => items
  | index + 1, h, state, items =>
    let choice := pick (index + 1) (next state)
    downFrom index (Nat.lt_of_succ_lt h) (next state)
      (items.swap (index + 1) choice h (Nat.lt_of_le_of_lt (Nat.le_of_lt_succ choice.isLt) h))

theorem downFrom_perm (index : ℕ) (h : index < n) (state : σ) (items : Vector α n) :
    (downFrom next pick index h state items).Perm items := by
  induction index generalizing state items with
  | zero => exact Vector.Perm.refl _
  | succ index ih => exact (ih _ _ _).trans (Vector.swap_perm _ _)

/-- A shuffled list; one without elements has no last position. -/
def shuffle (seed : σ) (items : List α) : List α :=
  if h : items.length - 1 < items.length then
    (downFrom next pick (items.length - 1) h seed ⟨items.toArray, List.size_toArray⟩).toList
  else items

/-- **A shuffle is a permutation**. -/
theorem shuffle_perm (seed : σ) (items : List α) : (shuffle next pick seed items).Perm items := by
  unfold shuffle
  split
  · exact (downFrom_perm next pick _ _ seed _).toList
  · exact .refl _

end Shuffle
