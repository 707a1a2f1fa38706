import Mathlib.Data.List.Infix

/-!
# Properties of logs

A log grows at its end. A statement about "every entry of the log and what came before
it" is proved one entry at a time, when the entry is written.
-/

namespace Log

variable {α : Type}

/-- A split of a log that has grown is at the new entry or inside the old log. -/
theorem split_snoc {log pre post : List α} {x y : α} (h : log ++ [x] = pre ++ y :: post) :
    (pre = log ∧ y = x ∧ post = []) ∨
      ∃ post', post = post' ++ [x] ∧ log = pre ++ y :: post' := by
  rcases List.eq_nil_or_concat post with rfl | ⟨post', last, rfl⟩
  · obtain ⟨rfl, hlast⟩ := List.append_inj' h rfl
    cases hlast
    exact .inl ⟨rfl, rfl, rfl⟩
  · have h' : log ++ [x] = (pre ++ y :: post') ++ [last] := by simpa using h
    obtain ⟨hlog, hlast⟩ := List.append_inj' h' rfl
    cases hlast
    exact .inr ⟨post', List.concat_eq_append, hlog⟩

/-- `P` holds of every entry of a log together with the entries before it. -/
def AllPrefixed (P : List α → α → Prop) (log : List α) : Prop :=
  ∀ pre x post, log = pre ++ x :: post → P pre x

theorem AllPrefixed.nil (P : List α → α → Prop) : AllPrefixed P [] := by
  intro pre x post h
  simp at h

theorem AllPrefixed.snoc {P : List α → α → Prop} {log : List α}
    (h : AllPrefixed P log) (x : α) (hx : P log x) : AllPrefixed P (log ++ [x]) := by
  intro pre y post heq
  rcases split_snoc heq with ⟨rfl, rfl, -⟩ | ⟨post', -, hlog⟩
  · exact hx
  · exact h pre y post' hlog

theorem AllPrefixed.last {P : List α → α → Prop} {log : List α} {x : α}
    (h : AllPrefixed P (log ++ [x])) : P log x := h log x [] rfl

/-- What holds all along a log held all along its beginning. -/
theorem AllPrefixed.of_append {P : List α → α → Prop} {log later : List α}
    (h : AllPrefixed P (log ++ later)) : AllPrefixed P log := by
  intro pre x post heq
  apply h pre x (post ++ later)
  simp [heq]

/-- A log read from its front. -/
theorem AllPrefixed.cons {P : List α → α → Prop} {x : α} {log : List α} (hx : P [] x)
    (h : AllPrefixed (fun pre y => P (x :: pre) y) log) : AllPrefixed P (x :: log) := by
  intro pre y post heq
  cases pre with
  | nil =>
    cases heq
    exact hx
  | cons z pre =>
    obtain ⟨rfl, hlog⟩ := List.cons.inj heq
    exact h pre y post hlog

/-- `Since P Q log`: some entry satisfies `P`, and none after it satisfies `Q`. -/
def Since (P Q : α → Prop) (log : List α) : Prop :=
  ∃ pre x post, log = pre ++ x :: post ∧ P x ∧ ∀ y ∈ post, ¬ Q y

theorem not_since_nil (P Q : α → Prop) : ¬ Since P Q [] := by
  rintro ⟨pre, x, post, h, -⟩
  simp at h

theorem since_snoc {P Q : α → Prop} {log : List α} {x : α} :
    Since P Q (log ++ [x]) ↔ P x ∨ (Since P Q log ∧ ¬ Q x) := by
  constructor
  · rintro ⟨pre, y, post, heq, hP, hQ⟩
    rcases split_snoc heq with ⟨rfl, rfl, -⟩ | ⟨post', rfl, hlog⟩
    · exact .inl hP
    · exact .inr ⟨⟨pre, y, post', hlog, hP, fun z hz => hQ z (by simp [hz])⟩, hQ x (by simp)⟩
  · rintro (hP | ⟨⟨pre, y, post, rfl, hP, hQ⟩, hx⟩)
    · exact ⟨log, x, [], rfl, hP, by simp⟩
    · refine ⟨pre, y, post ++ [x], by simp, hP, ?_⟩
      intro z hz
      rcases List.mem_append.1 hz with hz | hz
      · exact hQ z hz
      · rw [List.mem_singleton.1 hz]
        exact hx

/-! ## Walking along a list

A loop over a list has left a tail of it. -/

section Walk

variable {l rest : List α} {x : α} {n : ℕ} (h : l.drop n = x :: rest)
include h

theorem getElem?_of_drop : l[n]? = some x := by
  rw [← List.head?_drop, h]
  rfl

theorem drop_succ_of_drop : l.drop (n + 1) = rest := by
  rw [← List.tail_drop, h, List.tail_cons]

end Walk

end Log
