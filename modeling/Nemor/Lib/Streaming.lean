import Mathlib.Data.List.Basic
import Mathlib.Order.Lattice
import Mathlib.Tactic.Common

/-!
# Filling a buffer chunk by chunk

A buffer is filled from a generator, one chunk after the other, and each chunk is fed to a
running digest. However the range is cut, the buffer ends up with the generated values and
the digest has seen them in order.
-/

namespace Streaming

variable {α : Type}

/-- A digest that is fed in pieces and does not depend on how they are cut. -/
structure Digest (α : Type) where
  State : Type
  new : State
  update : State → List α → State
  finalize : State → String
  update_nil : ∀ s, update s [] = s
  update_append : ∀ s xs ys, update (update s xs) ys = update s (xs ++ ys)

/-- The digest of a whole list. -/
def Digest.digest (D : Digest α) (xs : List α) : String := D.finalize (D.update D.new xs)

/-- The values of a generator from `start` on. -/
def slice (gen : ℕ → α) (start len : ℕ) : List α := (List.range' start len).map gen

/-- The first `n` values of a generator. -/
def generated (gen : ℕ → α) (n : ℕ) : List α := slice gen 0 n

@[simp] theorem length_slice (gen : ℕ → α) (start len : ℕ) : (slice gen start len).length = len := by
  simp [slice]

@[simp] theorem length_generated (gen : ℕ → α) (n : ℕ) : (generated gen n).length = n := by
  simp [generated]

@[simp] theorem slice_zero (gen : ℕ → α) (start : ℕ) : slice gen start 0 = [] := rfl

theorem slice_append (gen : ℕ → α) (start len len' : ℕ) :
    slice gen start len ++ slice gen (start + len) len' = slice gen start (len + len') := by
  simp [slice, ← List.map_append, List.range'_append_1]

theorem generated_append_slice (gen : ℕ → α) (n len : ℕ) :
    generated gen n ++ slice gen n len = generated gen (n + len) := by
  simpa [generated] using slice_append gen 0 n len

theorem getElem?_generated (gen : ℕ → α) {n i : ℕ} (h : i < n) :
    (generated gen n)[i]? = some (gen i) := by
  simp [generated, slice, h]

/-- Cut or pad a list to a length. -/
def resize (blank : α) (n : ℕ) (xs : List α) : List α :=
  xs.take n ++ List.replicate (n - xs.length) blank

/-- The positions `start`, `start + step`, … below `stop`. -/
def stepBy (start stop step : ℕ) : List ℕ :=
  List.range' start ((stop - start + step - 1) / step) step

theorem stepBy_of_le {start stop step : ℕ} (h : stop ≤ start) (hstep : 0 < step) :
    stepBy start stop step = [] := by
  have hzero : (stop - start + step - 1) / step = 0 := Nat.div_eq_of_lt (by omega)
  simp [stepBy, hzero]

theorem stepBy_of_lt {start stop step : ℕ} (h : start < stop) (hstep : 0 < step) :
    stepBy start stop step = start :: stepBy (start + step) stop step := by
  have hcount : (stop - start + step - 1) / step =
      (stop - (start + step) + step - 1) / step + 1 := by
    by_cases hle : start + step ≤ stop
    · have hsplit : stop - start + step - 1 = (stop - (start + step) + step - 1) + step := by omega
      rw [hsplit, Nat.add_div_right _ hstep]
    · have hone : (stop - start + step - 1) / step = 1 := by
        rw [Nat.div_eq_iff hstep]
        omega
      rw [hone, Nat.div_eq_of_lt (by omega)]
  rw [stepBy, hcount, List.range'_succ]
  rfl

theorem mem_stepBy_lt {start stop step i : ℕ} (h : i ∈ stepBy start stop step) : i < stop := by
  obtain ⟨k, hk, rfl⟩ := List.mem_range'.1 h
  have hpos : 0 < step := by
    by_contra hzero
    rw [Nat.eq_zero_of_not_pos hzero, Nat.div_zero] at hk
    omega
  have hle : (k + 1) * step ≤ stop - start + step - 1 := (Nat.le_div_iff_mul_le hpos).1 hk
  rw [Nat.mul_comm, Nat.mul_add_one] at hle
  omega

section Chunks

variable (D : Digest α) (gen : ℕ → α) (size stop : ℕ)

/-- Fill the chunk at `start` and feed it to the digest. -/
def fillChunk (acc : List α × D.State) (start : ℕ) : List α × D.State :=
  let chunkEnd := min (start + size) stop
  let buffer := acc.1.take start ++ slice gen start (chunkEnd - start) ++ acc.1.drop chunkEnd
  (buffer, D.update acc.2 ((buffer.drop start).take (chunkEnd - start)))

/-- Fill the buffer from `start` to `stop`. -/
def fill (start : ℕ) (acc : List α × D.State) : List α × D.State :=
  (stepBy start stop size).foldl (fillChunk D gen size stop) acc

/-- One chunk extends what is generated and what the digest has seen. -/
theorem fillChunk_eq {rest : List α} {start : ℕ} {h : D.State} (hstart : start ≤ stop) :
    fillChunk D gen size stop (generated gen start ++ rest, h) start =
      (generated gen (min (start + size) stop) ++ rest.drop (min (start + size) stop - start),
        D.update h (slice gen start (min (start + size) stop - start))) := by
  have hend : start + (min (start + size) stop - start) = min (start + size) stop := by omega
  have hbuffer : (generated gen start ++ rest).take start ++
        slice gen start (min (start + size) stop - start) ++
        (generated gen start ++ rest).drop (min (start + size) stop) =
      generated gen start ++ slice gen start (min (start + size) stop - start) ++
        rest.drop (min (start + size) stop - start) := by
    congr 1
    · simp
    · rw [List.drop_append, List.drop_eq_nil_of_le (by simp; omega)]
      simp
  unfold fillChunk
  dsimp only
  rw [hbuffer, List.append_assoc (generated gen start), List.drop_left' (by simp),
    List.take_left' (by simp), ← List.append_assoc, generated_append_slice, hend]

/-- However the range is cut into chunks, the buffer holds the generated values and the digest
    has seen the new ones. -/
theorem fill_eq (hsize : 0 < size) {rest : List α} {start : ℕ} {h : D.State}
    (hstart : start ≤ stop) (hlen : rest.length = stop - start) :
    fill D gen size stop start (generated gen start ++ rest, h) =
      (generated gen stop, D.update h (slice gen start (stop - start))) := by
  -- the induction is on what is left to fill
  induction hleft : stop - start using Nat.strongRecOn generalizing start rest h with
  | ind left ih =>
    unfold fill at ih ⊢
    rcases Nat.eq_or_lt_of_le hstart with rfl | hlt
    · have hnil : rest = [] := List.length_eq_zero_iff.1 (by omega)
      rw [stepBy_of_le le_rfl hsize, hnil]
      subst hleft
      simp [D.update_nil]
    · rw [stepBy_of_lt hlt hsize, List.foldl_cons, fillChunk_eq D gen size stop hstart]
      by_cases hle : start + size ≤ stop
      · rw [min_eq_left hle]
        rw [ih (stop - (start + size)) (by omega) hle (by simp; omega) rfl, D.update_append]
        congr 2
        have hsplit := slice_append gen start size (stop - (start + size))
        rw [show start + size - start = size by omega, hsplit]
        congr 1
        omega
      · -- the last chunk is cut short
        rw [min_eq_right (by omega), stepBy_of_le (by omega) hsize, List.foldl_nil,
          List.drop_eq_nil_of_le (by omega), List.append_nil, hleft]

end Chunks

end Streaming
