import Mathlib.Algebra.BigOperators.Group.Finset.Basic
import Mathlib.Algebra.Order.BigOperators.Group.Finset
import Mathlib.Order.Interval.Finset.Nat

/-!
# Loops that run for a time

A loop reads the clock before each of its passes and goes on while less than a given time has
passed. How many passes it makes depends on how long they take: on what all of them before the
last one take together, not on any of them alone.
-/

namespace Polling

variable {duration : ℕ → ℕ} {limit m n step : ℕ}

/-- The time at the start of pass `n`. -/
def clock (duration : ℕ → ℕ) (n : ℕ) : ℕ := ∑ i ∈ Finset.range n, duration i

@[simp] theorem clock_zero : clock duration 0 = 0 := Finset.sum_range_zero _

@[simp] theorem clock_succ : clock duration (n + 1) = clock duration n + duration n :=
  Finset.sum_range_succ _ _

theorem clock_mono (h : m ≤ n) : clock duration m ≤ clock duration n :=
  Finset.sum_le_sum_of_subset (Finset.range_mono h)

/-- Passes of at least `step` take at least so many steps. -/
theorem mul_le_clock (h : ∀ i, step ≤ duration i) : n * step ≤ clock duration n := by
  induction n with
  | zero => simp
  | succ n ih =>
    have := h n
    rw [clock_succ, Nat.succ_mul]
    omega

/-- The loop makes `n` passes: before each of them there is time left, and after them none. -/
structure Makes (duration : ℕ → ℕ) (limit n : ℕ) : Prop where
  ended : limit ≤ clock duration n
  running : ∀ k < n, clock duration k < limit

/-- **Enough passes.** The loop makes `m + 1` passes exactly when the first `m` of them leave time
    for another one. -/
theorem Makes.succ_le_iff (h : Makes duration limit n) : m + 1 ≤ n ↔ clock duration m < limit := by
  constructor
  · exact fun hle => h.running m hle
  · intro hlt
    by_contra hle
    have := @clock_mono duration n m (Nat.le_of_lt_succ (Nat.not_le.1 hle))
    have := h.ended
    omega

/-- Passes that take time come to an end. -/
theorem exists_makes (hstep : 0 < step) (h : ∀ i, step ≤ duration i) :
    ∃ n ≤ (limit + (step - 1)) / step, Makes duration limit n := by
  -- after so many passes the time is over
  have hover : ∃ n, limit ≤ clock duration n :=
    ⟨limit, le_trans (Nat.le_mul_of_pos_right limit hstep) (mul_le_clock h)⟩
  classical
  refine ⟨Nat.find hover, ?_, Nat.find_spec hover, fun k hk => ?_⟩
  · apply Nat.find_min' hover
    refine le_trans ?_ (mul_le_clock h)
    have hsplit := Nat.div_add_mod (limit + (step - 1)) step
    have hrest := Nat.mod_lt (limit + (step - 1)) hstep
    rw [Nat.mul_comm]
    omega
  · exact Nat.not_le.1 (Nat.find_min hover hk)

end Polling
