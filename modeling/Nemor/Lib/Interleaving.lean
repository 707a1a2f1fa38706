import Mathlib.Logic.Function.Basic
import Mathlib.Tactic.Common

/-!
# Processes that share a store

Processes with a state of their own take turns on one store. Who moves next, and what that
process does or suffers, is decided from outside, so a list of moves is one interleaving.

What one process may rely on is told by two things: an invariant of the store, and a relation
between the store before and after a move of anybody. An assertion that this relation cannot
break is kept by the moves of the others; its own moves it has to keep itself.
-/

namespace Interleaving

/-- A store and the states of the processes. -/
structure Config (σ ι π : Type) where
  store : σ
  process : ι → π

variable {σ ι π ε : Type} [DecidableEq ι] (move : ε → σ → π → σ × π)

/-- One process moves; the others stay where they are. -/
def step (c : Config σ ι π) (m : ι × ε) : Config σ ι π where
  store := (move m.2 c.store (c.process m.1)).1
  process := Function.update c.process m.1 (move m.2 c.store (c.process m.1)).2

/-- The moves of one interleaving, in order. -/
def run (c : Config σ ι π) (moves : List (ι × ε)) : Config σ ι π := moves.foldl (step move) c

@[simp] theorem run_nil (c : Config σ ι π) : run move c [] = c := rfl

@[simp] theorem run_cons (c : Config σ ι π) (m : ι × ε) (moves : List (ι × ε)) :
    run move c (m :: moves) = run move (step move c m) moves := rfl

theorem run_append (c : Config σ ι π) (first second : List (ι × ε)) :
    run move c (first ++ second) = run move (run move c first) second := by
  simp [run]

theorem step_process_self (c : Config σ ι π) (i : ι) (e : ε) :
    (step move c (i, e)).process i = (move e c.store (c.process i)).2 := by
  simp [step]

theorem step_process_other (c : Config σ ι π) {i j : ι} (e : ε) (h : j ≠ i) :
    (step move c (i, e)).process j = c.process j := by
  simp [step, Function.update_of_ne h]

/-! ## Relying on the others -/

/-- The invariant of the store, what every move guarantees the others, and what a process knows
    about the store in its state. -/
structure Discipline (allowed : ε → Prop) (inv : σ → Prop) (guarantee : σ → σ → Prop)
    (assertion : σ → π → Prop) : Prop where
  /-- A move keeps the invariant. -/
  keeps : ∀ {e s p}, allowed e → inv s → assertion s p → inv (move e s p).1
  /-- A move guarantees the others what they rely on. -/
  guarantees : ∀ {e s p}, allowed e → inv s → assertion s p → guarantee s (move e s p).1
  /-- The process that moves has its assertion afterwards. -/
  reaches : ∀ {e s p}, allowed e → inv s → assertion s p → assertion (move e s p).1 (move e s p).2
  /-- The assertions of the others survive what is guaranteed. -/
  stable : ∀ {s t p}, inv s → guarantee s t → assertion s p → assertion t p

/-- The store has its invariant, and every process its assertion. -/
structure Sound (inv : σ → Prop) (assertion : σ → π → Prop) (c : Config σ ι π) : Prop where
  store : inv c.store
  process : ∀ i, assertion c.store (c.process i)

namespace Discipline

variable {move} {allowed : ε → Prop} {inv : σ → Prop} {guarantee : σ → σ → Prop}
  {assertion : σ → π → Prop}

/-- One move of one process. -/
theorem sound_step (d : Discipline move allowed inv guarantee assertion) {c : Config σ ι π}
    {m : ι × ε} (hm : allowed m.2) (h : Sound inv assertion c) :
    Sound inv assertion (step move c m) := by
  obtain ⟨hstore, hprocess⟩ := h
  refine ⟨d.keeps hm hstore (hprocess m.1), ?_⟩
  intro j
  by_cases hj : j = m.1
  · subst hj
    rw [step_process_self]
    exact d.reaches hm hstore (hprocess m.1)
  · rw [step_process_other move c m.2 hj]
    exact d.stable hstore (d.guarantees hm hstore (hprocess m.1)) (hprocess j)

/-- A whole interleaving. -/
theorem sound_run (d : Discipline move allowed inv guarantee assertion) {moves : List (ι × ε)}
    {c : Config σ ι π} (hmoves : ∀ m ∈ moves, allowed m.2) (h : Sound inv assertion c) :
    Sound inv assertion (run move c moves) := by
  induction moves generalizing c with
  | nil => exact h
  | cons m moves ih =>
    obtain ⟨hm, hrest⟩ := List.forall_mem_cons.1 hmoves
    exact ih hrest (d.sound_step hm h)

/-- Over a whole interleaving the store changes as guaranteed. -/
theorem guarantee_run (d : Discipline move allowed inv guarantee assertion)
    (hrefl : ∀ s, guarantee s s) (htrans : ∀ {s t u}, guarantee s t → guarantee t u → guarantee s u)
    {moves : List (ι × ε)} {c : Config σ ι π} (hmoves : ∀ m ∈ moves, allowed m.2)
    (h : Sound inv assertion c) : guarantee c.store (run move c moves).store := by
  induction moves generalizing c with
  | nil => exact hrefl _
  | cons m moves ih =>
    obtain ⟨hm, hrest⟩ := List.forall_mem_cons.1 hmoves
    exact htrans (d.guarantees hm h.store (h.process m.1)) (ih hrest (d.sound_step hm h))

end Discipline

/-! ## Moving alone -/

/-- What one process does by itself to a store. -/
def solo (s : σ) (p : π) : List ε → σ × π
  | [] => (s, p)
  | e :: es => solo (move e s p).1 (move e s p).2 es

@[simp] theorem solo_nil (s : σ) (p : π) : solo move s p [] = (s, p) := rfl

@[simp] theorem solo_cons (s : σ) (p : π) (e : ε) (es : List ε) :
    solo move s p (e :: es) = solo move (move e s p).1 (move e s p).2 es := rfl

theorem solo_append (s : σ) (p : π) (first second : List ε) :
    solo move s p (first ++ second) =
      solo move (solo move s p first).1 (solo move s p first).2 second := by
  induction first generalizing s p with
  | nil => rfl
  | cons e first ih => simp [ih]

/-- In a stretch where only one process moves, it is as if it were alone. -/
theorem run_alone (c : Config σ ι π) (i : ι) (es : List ε) :
    (run move c (es.map (i, ·))).store = (solo move c.store (c.process i) es).1 ∧
      (run move c (es.map (i, ·))).process i = (solo move c.store (c.process i) es).2 := by
  induction es generalizing c with
  | nil => exact ⟨rfl, rfl⟩
  | cons e es ih =>
    rw [List.map_cons, run_cons, solo_cons]
    have h := ih (step move c (i, e))
    rw [step_process_self] at h
    exact h

end Interleaving
