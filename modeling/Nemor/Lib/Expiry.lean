import Mathlib.Data.List.Forall2
import Mathlib.Data.List.Induction
import Mathlib.Order.Lattice
import Mathlib.Tactic.Common

/-!
# Logs with expiry

Things with a time are added to a log, and from time to time everything that is older than a
cutoff is taken out. What is left at the end can be told from the history: what no later cutoff
was newer than.
-/

namespace Expiry

variable {α β τ : Type} [LinearOrder τ]

/-- An element comes, or all elements before a time go. -/
inductive Event (α τ : Type) where
  | add (x : α)
  | expire (cutoff : τ)

/-- No cutoff of a history is newer than a time. -/
def outlives (t : τ) : List (Event α τ) → Bool
  | [] => true
  | .add _ :: later => outlives t later
  | .expire cutoff :: later => decide (cutoff ≤ t) && outlives t later

variable (time : α → τ)

/-- What one event does to what is kept. -/
def apply (kept : List α) : Event α τ → List α
  | .add x => kept ++ [x]
  | .expire cutoff => kept.filter fun x => decide (cutoff ≤ time x)

/-- What was added and outlived everything after it. -/
def survivors : List (Event α τ) → List α
  | [] => []
  | .add x :: later => if outlives (time x) later then x :: survivors later else survivors later
  | .expire _ :: later => survivors later

theorem outlives_append (t : τ) (first second : List (Event α τ)) :
    outlives t (first ++ second) = (outlives t first && outlives t second) := by
  induction first with
  | nil => rfl
  | cons e first ih =>
    cases e with
    | add x => exact ih
    | expire cutoff => simp [outlives, ih, Bool.and_assoc]

@[simp] theorem survivors_nil : survivors time ([] : List (Event α τ)) = [] := rfl

theorem survivors_append (first second : List (Event α τ)) :
    survivors time (first ++ second) =
      (survivors time first).filter (fun x => outlives (time x) second) ++
        survivors time second := by
  induction first with
  | nil => rfl
  | cons e first ih =>
    cases e with
    | add x =>
      simp only [List.cons_append, survivors, outlives_append, Bool.and_eq_true]
      by_cases hfirst : outlives (time x) first = true
      · by_cases hsecond : outlives (time x) second = true
        · simp [hfirst, hsecond, ih]
        · simp [hfirst, hsecond, ih]
      · simp [hfirst, ih]
    | expire cutoff => exact ih

/-- **Keeping the log by its events leaves the survivors of the history.** -/
theorem survivors_snoc (events : List (Event α τ)) (e : Event α τ) :
    survivors time (events ++ [e]) = apply time (survivors time events) e := by
  rw [survivors_append]
  cases e with
  | add x => simp [survivors, outlives, apply]
  | expire cutoff => simp [survivors, outlives, apply]

/-- What was added last has survived. -/
theorem survivors_append_add (events : List (Event α τ)) (l : List α) :
    survivors time (events ++ l.map .add) = survivors time events ++ l := by
  induction l using List.reverseRecOn with
  | nil => simp
  | append_singleton l x ih =>
    rw [List.map_append, ← List.append_assoc, List.map_singleton, survivors_snoc, ih, apply,
      List.append_assoc]

/-- What survives was added, and no later cutoff was newer. -/
theorem mem_survivors {events : List (Event α τ)} {x : α} :
    x ∈ survivors time events ↔
      ∃ before later, events = before ++ .add x :: later ∧ outlives (time x) later = true := by
  constructor
  · intro h
    induction events with
    | nil => cases h
    | cons e events ih =>
      cases e with
      | add y =>
        simp only [survivors] at h
        split at h
        · rename_i hy
          rcases List.mem_cons.1 h with rfl | h
          · exact ⟨[], events, rfl, hy⟩
          · obtain ⟨before, later, rfl, hlater⟩ := ih h
            exact ⟨.add y :: before, later, rfl, hlater⟩
        · obtain ⟨before, later, rfl, hlater⟩ := ih h
          exact ⟨.add y :: before, later, rfl, hlater⟩
      | expire cutoff =>
        obtain ⟨before, later, rfl, hlater⟩ := ih h
        exact ⟨.expire cutoff :: before, later, rfl, hlater⟩
  · rintro ⟨before, later, rfl, hlater⟩
    rw [survivors_append]
    apply List.mem_append_right
    simp [survivors, hlater]

/-- Images that are filtered by the same times correspond. -/
theorem forall₂_filter {R : β → α → Prop} {p : β → Bool} {q : α → Bool}
    (h : ∀ b a, R b a → p b = q a) {l : List β} {l' : List α} (hl : List.Forall₂ R l l') :
    List.Forall₂ R (l.filter p) (l'.filter q) := by
  induction hl with
  | nil => exact .nil
  | cons hab _ ih =>
    rename_i b a _ _ _
    rw [List.filter_cons, List.filter_cons, h b a hab]
    split
    · exact .cons hab ih
    · exact ih

end Expiry
