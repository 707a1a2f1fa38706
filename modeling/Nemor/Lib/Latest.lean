import Mathlib.Data.List.Induction

/-!
# The latest reading that still counts

Events come one after the other. Some give a reading, which replaces the one before, some keep
the reading that is there, and the others make it void. What is left after a history is the
reading of the latest event that gave one, if each event since has kept it.
-/

namespace Latest

variable {α β : Type} (reading : α → Option β) (keeps : α → Bool)

/-- What is left of a reading after an event. -/
def remember (kept : Option β) (x : α) : Option β :=
  match reading x with
  | some b => some b
  | none => if keeps x = true then kept else none

/-- The latest reading of a history, kept by each event since. -/
def Since (history : List α) (b : β) : Prop :=
  ∃ before x after, history = before ++ x :: after ∧ reading x = some b ∧
    ∀ y ∈ after, reading y = none ∧ keeps y = true

variable {reading keeps}

theorem since_append_singleton {history : List α} {x : α} {b : β} :
    Since reading keeps (history ++ [x]) b ↔
      reading x = some b ∨ (reading x = none ∧ keeps x = true) ∧ Since reading keeps history b := by
  constructor
  · rintro ⟨before, y, after, hsplit, hy, hafter⟩
    induction after using List.reverseRecOn with
    | nil =>
      obtain ⟨-, hlast⟩ := List.append_inj' hsplit rfl
      rw [(List.cons.inj hlast).1]
      exact .inl hy
    | append_singleton after z =>
      rw [← List.cons_append, ← List.append_assoc] at hsplit
      obtain ⟨hfront, hlast⟩ := List.append_inj' hsplit rfl
      rw [(List.cons.inj hlast).1]
      exact .inr ⟨hafter z (by simp), before, y, after, hfront, hy,
        fun w hw => hafter w (by simp [hw])⟩
  · rintro (hx | ⟨hx, before, y, after, rfl, hy, hafter⟩)
    · exact ⟨history, x, [], rfl, hx, by simp⟩
    · refine ⟨before, y, after ++ [x], by simp, hy, fun w hw => ?_⟩
      rcases List.mem_append.1 hw with hw | hw
      · exact hafter w hw
      · exact List.mem_singleton.1 hw ▸ hx

/-- **What is remembered is the latest reading that still counts**, by induction on the history
from its end. -/
theorem foldl_remember_iff {history : List α} {b : β} :
    history.foldl (remember reading keeps) none = some b ↔ Since reading keeps history b := by
  induction history using List.reverseRecOn with
  | nil => simp [Since]
  | append_singleton history x ih =>
    rw [List.foldl_append, List.foldl_cons, List.foldl_nil, since_append_singleton, ← ih]
    unfold remember
    cases hx : reading x with
    | some c => simp
    | none => cases hkeeps : keeps x <;> simp

end Latest
