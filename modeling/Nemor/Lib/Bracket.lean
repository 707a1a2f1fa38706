import Mathlib.Tactic.Common

/-!
# Narrowing a bracket

A search for the end of a range knows a point where the answer is yes and a point above it where
the answer is no. It asks for a point between the two and puts it in the place of one of them. The
points asked for may be chosen in any way and the answers need not be monotone: as long as every
point lies strictly inside, the search comes to an end.
-/

/-- A point where the answer is yes, and one where it is no. -/
structure SearchBracket where
  low : ℕ
  high : ℕ

namespace SearchBracket

variable {b : SearchBracket} {point : ℕ}

/-- How many points are left. -/
def width (b : SearchBracket) : ℕ := b.high - b.low

/-- The point is still to be decided. -/
structure Inside (b : SearchBracket) (point : ℕ) : Prop where
  above : b.low < point
  below : point < b.high

/-- The bracket after an answer. -/
def narrow (b : SearchBracket) (point : ℕ) (answer : Bool) : SearchBracket :=
  if answer then { b with low := point } else { b with high := point }

@[simp] theorem narrow_true : b.narrow point true = ⟨point, b.high⟩ := rfl

@[simp] theorem narrow_false : b.narrow point false = ⟨b.low, point⟩ := rfl

theorem width_narrow_lt (h : b.Inside point) (answer : Bool) :
    (b.narrow point answer).width < b.width := by
  have habove := h.above
  have hbelow := h.below
  cases answer <;> simp only [narrow_true, narrow_false, width] <;> omega

/-! ## Searches -/

section Search

variable {σ : Type} {next : σ → Option σ} {bracket : σ → SearchBracket} {s t : σ} {n : ℕ}

/-- A search from state to state, with the number of its steps. -/
inductive Search (next : σ → Option σ) : ℕ → σ → σ → Prop where
  | start (s : σ) : Search next 0 s s
  | step (n : ℕ) (s u t : σ) (hnext : next s = some u) (hrest : Search next n u t) :
      Search next (n + 1) s t

/-- What every step preserves holds wherever the search comes. -/
theorem Search.preserves {I : σ → Prop} (hstep : ∀ s t, I s → next s = some t → I t)
    (h : Search next n s t) (hs : I s) : I t := by
  induction h with
  | start s => exact hs
  | step n s u t hnext hrest ih => exact ih (hstep s u hs hnext)

/-- Every step of a state asks for a point inside its bracket. -/
def Narrows (next : σ → Option σ) (bracket : σ → SearchBracket) (s : σ) : Prop :=
  ∀ t, next s = some t →
    ∃ point answer, (bracket s).Inside point ∧ bracket t = (bracket s).narrow point answer

/-- **A search ends**, after as many steps as the bracket is wide at most, when all states it
    comes to ask for points inside. -/
theorem exists_search_end (h : ∀ n t, Search next n s t → Narrows next bracket t) :
    ∃ n ≤ (bracket s).width, ∃ t, Search next n s t ∧ next t = none := by
  induction hwidth : (bracket s).width using Nat.strongRecOn generalizing s with
  | ind width ih =>
    cases hnext : next s with
    | none => exact ⟨0, Nat.zero_le _, s, .start s, hnext⟩
    | some u =>
      obtain ⟨point, answer, hinside, hbracket⟩ := h 0 s (.start s) u hnext
      have hlt := width_narrow_lt hinside answer
      rw [← hbracket, hwidth] at hlt
      -- the rest of the search is one from a narrower bracket
      obtain ⟨n, hn, t, hsearch, hend⟩ :=
        ih _ hlt (fun n t hrest => h (n + 1) t (.step n s u t hnext hrest)) rfl
      exact ⟨n + 1, by omega, t, .step n s u t hnext hsearch, hend⟩

end Search

end SearchBracket
