import Mathlib.Data.List.Basic
import Mathlib.Tactic.Common

/-!
# Frames cut by counts

A stream in which every item carries the number of items of its frame. `group` cuts the stream
into frames and starts over at an item whose count is not the one it is collecting. What it
returns are slices of the stream, each as long as its items say; a stream of whole frames is
cut into just these. When a part of a frame is lost, the next frame decides what happens: one
of another length is found again at once, one of the same length is completed from the rest.
-/

namespace Framing

variable {α : Type*} (count : α → ℕ)

/-! ## §1 Slices -/

/-- The second list is one of slices of the first: contiguous, in order, no item in two. -/
inductive Slices : List α → List (List α) → Prop
  | skipped (rest : List α) : Slices rest []
  | window (skipped w : List α) {rest : List α} {ws : List (List α)} :
      Slices rest ws → Slices (skipped ++ w ++ rest) (w :: ws)

namespace Slices

variable {l : List α} {ws : List (List α)}

theorem append_skipped (h : Slices l ws) (tail : List α) : Slices (l ++ tail) ws := by
  induction h with
  | skipped rest => exact .skipped _
  | window skipped w _ ih =>
    rw [List.append_assoc]
    exact .window skipped w ih

theorem append_window (h : Slices l ws) (last : List α) : Slices (l ++ last) (ws ++ [last]) := by
  induction h with
  | skipped rest => simpa using Slices.window rest last (.skipped [])
  | window skipped w _ ih =>
    rw [List.append_assoc]
    exact .window skipped w ih

end Slices

/-! ## §2 Grouping -/

/-- The frames that are complete, the items collected for the next one, and how many of these
    there should be. -/
structure Grouping (α : Type*) where
  windows : List (List α)
  current : List α
  expected : ℕ

namespace Grouping

/-- Between two frames. -/
def fresh (windows : List (List α)) : Grouping α := ⟨windows, [], 0⟩

/-- Take up one more element. -/
def push (g : Grouping α) (x : α) : Grouping α :=
  let expected := if g.current.isEmpty then count x else g.expected
  let (current, expected) :=
    if expected = 0 ∨ count x ≠ expected then ([], count x) else (g.current, expected)
  let current := current ++ [x]
  if current.length = expected then ⟨g.windows ++ [current], [], 0⟩
  else ⟨g.windows, current, expected⟩

end Grouping

open Grouping

/-- The windows that a list is cut into. -/
def group (l : List α) : List (List α) := (l.foldl (push count) (fresh [])).windows

/-- Every item says how long the frame is. -/
def Whole (w : List α) : Prop := ∀ x ∈ w, count x = w.length

/-! ### One item -/

section Step

variable {g : Grouping α} {windows : List (List α)} {current : List α} {expected : ℕ} {x : α}

/-- What an item goes on from. -/
def Grouping.kept (g : Grouping α) (x : α) : List α :=
  if g.expected ≠ 0 ∧ count x = g.expected then g.current else []

/-- An item goes on from what was kept, and closes the frame when it is the last of it. -/
theorem push_eq (g : Grouping α) (x : α) :
    push count g x =
      if (g.kept count x ++ [x]).length = count x then
        fresh (g.windows ++ [g.kept count x ++ [x]])
      else ⟨g.windows, g.kept count x ++ [x], count x⟩ := by
  by_cases hempty : g.current = []
  · simp [push, fresh, kept, hempty]
  · by_cases hzero : g.expected = 0
    · simp [push, fresh, kept, hempty, hzero]
    · by_cases hsame : count x = g.expected <;> simp [push, fresh, kept, hempty, hzero, hsame]

theorem push_keeps (hcount : count x = expected) (hlt : current.length + 1 < expected) :
    push count ⟨windows, current, expected⟩ x = ⟨windows, current ++ [x], expected⟩ := by
  have hpos : expected ≠ 0 := by omega
  have hopen : current.length + 1 ≠ expected := by omega
  simp [push, hcount, hpos, hopen]

theorem push_closes (hcount : count x = expected) (hlast : current.length + 1 = expected) :
    push count ⟨windows, current, expected⟩ x = fresh (windows ++ [current ++ [x]]) := by
  have hpos : expected ≠ 0 := by omega
  simp [push, fresh, hcount, hpos, hlast]

/-- Between two frames it does not matter how many items were expected. -/
theorem push_nil : push count ⟨windows, [], expected⟩ x = push count (fresh windows) x := by
  simp [push, fresh]

/-- An item with another count starts over. -/
theorem push_resync (hother : count x ≠ expected) :
    push count ⟨windows, current, expected⟩ x = push count (fresh windows) x := by
  by_cases hempty : current = []
  · subst hempty
    exact push_nil count
  · simp [push, fresh, hempty, hother]

theorem windows_push (g : Grouping α) (x : α) : g.windows <+: (push count g x).windows := by
  rw [push_eq]
  split <;> simp [fresh]

end Step

/-! ### Items of one frame -/

section Run

variable {windows : List (List α)} {current l : List α} {expected : ℕ}

theorem foldl_open (hcount : ∀ x ∈ l, count x = expected)
    (hlt : current.length + l.length < expected) :
    l.foldl (push count) ⟨windows, current, expected⟩ = ⟨windows, current ++ l, expected⟩ := by
  induction l generalizing current with
  | nil => simp
  | cons x rest ih =>
    simp only [List.length_cons] at hlt
    have hx : count x = expected := hcount x (by simp)
    have hrest := @ih (current ++ [x]) (fun y hy => hcount y (by simp [hy])) (by simp; omega)
    rw [List.foldl_cons, push_keeps count hx (by omega), hrest]
    simp

theorem foldl_close (hcount : ∀ x ∈ l, count x = expected) (hne : l ≠ [])
    (hlast : current.length + l.length = expected) :
    l.foldl (push count) ⟨windows, current, expected⟩ = fresh (windows ++ [current ++ l]) := by
  rw [← List.dropLast_append_getLast hne] at hcount ⊢
  have hlength : l.dropLast.length + 1 = l.length := by
    have hpos := List.length_pos_of_ne_nil hne
    simp only [List.length_dropLast]
    omega
  have hopen : l.dropLast.foldl (push count) ⟨windows, current, expected⟩ =
      ⟨windows, current ++ l.dropLast, expected⟩ :=
    foldl_open count (fun x hx => hcount x (by simp [hx])) (by omega)
  rw [List.foldl_append, hopen, List.foldl_cons, List.foldl_nil,
    push_closes count (hcount _ (by simp)) (by simp only [List.length_append]; omega)]
  simp

theorem foldl_nil_expected (hne : l ≠ []) :
    l.foldl (push count) ⟨windows, [], expected⟩ = l.foldl (push count) (fresh windows) := by
  cases l with
  | nil => exact absurd rfl hne
  | cons x rest => rw [List.foldl_cons, List.foldl_cons, push_nil]

theorem foldl_whole (hwhole : Whole count l) (hne : l ≠ []) :
    l.foldl (push count) (fresh windows) = fresh (windows ++ [l]) := by
  have hclose : l.foldl (push count) ⟨windows, [], l.length⟩ = fresh (windows ++ [[] ++ l]) :=
    foldl_close count hwhole hne (by simp)
  rw [← foldl_nil_expected count hne, hclose, List.nil_append]

theorem foldl_flatten {ws : List (List α)} (h : ∀ w ∈ ws, Whole count w) :
    ws.flatten.foldl (push count) (fresh windows) =
      fresh (windows ++ ws.filter fun w => !w.isEmpty) := by
  induction ws generalizing windows with
  | nil => simp
  | cons w rest ih =>
    have hrest := fun v hv => h v (List.mem_cons_of_mem w hv)
    by_cases hne : w = []
    · simp [hne, ih hrest]
    · rw [List.flatten_cons, List.foldl_append, foldl_whole count (h w (by simp)) hne, ih hrest]
      simp [hne]

theorem windows_run (g : Grouping α) (l : List α) :
    g.windows <+: (l.foldl (push count) g).windows := by
  induction l generalizing g with
  | nil => exact List.prefix_refl _
  | cons x rest ih => exact (windows_push count g x).trans (ih _)

end Run

/-! ## §3 What is returned -/

/-- **Whole frames are found again.** -/
theorem group_flatten {ws : List (List α)} (h : ∀ w ∈ ws, Whole count w) :
    group count ws.flatten = ws.filter fun w => !w.isEmpty := by
  rw [group, foldl_flatten count h]
  simp [fresh]

theorem mem_of_mem_group {ws : List (List α)} (h : ∀ w ∈ ws, Whole count w) {w : List α}
    (hw : w ∈ group count ws.flatten) : w ∈ ws := by
  rw [group_flatten count h] at hw
  exact List.mem_of_mem_filter hw

/-- What a state says about the items read so far. -/
structure Reads (l : List α) (g : Grouping α) : Prop where
  current : ∀ x ∈ g.current, count x = g.expected
  windows : ∀ w ∈ g.windows, w ≠ [] ∧ Whole count w
  slices : ∃ passed, l = passed ++ g.current ∧ Slices passed g.windows

theorem Reads.push {l : List α} {g : Grouping α} (h : Reads count l g) (x : α) :
    Reads count (l ++ [x]) (push count g x) := by
  obtain ⟨passed, rfl, hslices⟩ := h.slices
  have hcount : ∀ y ∈ g.kept count x ++ [x], count y = count x := by
    intro y hy
    rcases List.mem_append.1 hy with hy | hy
    · by_cases hsame : g.expected ≠ 0 ∧ count x = g.expected
      · rw [kept, if_pos hsame] at hy
        rw [h.current y hy, hsame.2]
      · simp [kept, hsame] at hy
    · rw [List.mem_singleton.1 hy]
  -- what was collected is passed over when the item starts over
  have hsplit : ∃ passed', passed ++ g.current ++ [x] = passed' ++ (g.kept count x ++ [x]) ∧
      Slices passed' g.windows := by
    by_cases hsame : g.expected ≠ 0 ∧ count x = g.expected
    · exact ⟨passed, by simp [kept, hsame], hslices⟩
    · exact ⟨passed ++ g.current, by simp [kept, hsame], hslices.append_skipped _⟩
  obtain ⟨passed', hpassed, hslices'⟩ := hsplit
  rw [push_eq, hpassed]
  split
  · next hlength =>
    refine ⟨by simp [fresh], fun w hw => ?_, _, (List.append_nil _).symm,
      hslices'.append_window _⟩
    rcases List.mem_append.1 hw with hw | hw
    · exact h.windows w hw
    · rw [List.mem_singleton.1 hw]
      exact ⟨by simp, fun y hy => by rw [hcount y hy, hlength]⟩
  · exact ⟨hcount, h.windows, passed', rfl, hslices'⟩

/-- **Whatever the stream,** the frames are slices of it that are as long as their items say. -/
theorem group_slices (l : List α) :
    Slices l (group count l) ∧ ∀ w ∈ group count l, w ≠ [] ∧ Whole count w := by
  have hreads : ∀ (l read : List α) (g : Grouping α), Reads count read g →
      Reads count (read ++ l) (l.foldl (push count) g) := by
    intro l
    induction l with
    | nil => simp
    | cons x rest ih =>
      intro read g h
      simpa using ih (read ++ [x]) (push count g x) (h.push count x)
  have h := hreads l [] (fresh []) ⟨by simp [fresh], by simp [fresh], [], rfl, .skipped []⟩
  obtain ⟨passed, heq, hslices⟩ := h.slices
  have hall := hslices.append_skipped (l.foldl (push count) (fresh [])).current
  rw [← heq, List.nil_append] at hall
  exact ⟨hall, h.windows⟩

/-! ### Items that carry more -/

section Map

variable {β : Type*} (f : β → α)

/-- A state on the images of the elements. -/
def Grouping.map (g : Grouping β) : Grouping α :=
  ⟨g.windows.map (List.map f), g.current.map f, g.expected⟩

theorem map_push (g : Grouping β) (y : β) :
    push count (g.map f) (f y) = (push (fun y => count (f y)) g y).map f := by
  have hkept : (g.map f).kept count (f y) = (g.kept (fun y => count (f y)) y).map f := by
    by_cases hsame : g.expected ≠ 0 ∧ count (f y) = g.expected <;>
      simp [kept, Grouping.map, hsame]
  rw [push_eq, push_eq, hkept]
  simp only [List.length_append, List.length_map, List.length_singleton, Grouping.map]
  split <;> simp [fresh]

/-- Grouping looks at the counts only. -/
theorem group_map (l : List β) :
    group count (l.map f) = (group (fun y => count (f y)) l).map (List.map f) := by
  have hfold : (l.map f).foldl (push count) ((fresh []).map f) =
      (l.foldl (push fun y => count (f y)) (fresh [])).map f := by
    rw [List.foldl_map]
    exact List.foldl_hom _ fun g y => map_push count f g y
  exact congrArg Grouping.windows hfold

end Map

/-! ## §4 A part of a frame is lost -/

section Lost

variable {before later : List (List α)} {left : List α} {n : ℕ}

/-- What was collected when a frame ended too early. -/
theorem foldl_left (hbefore : ∀ w ∈ before, Whole count w) (hleft : ∀ x ∈ left, count x = n)
    (hne : left ≠ []) (hlt : left.length < n) :
    (before.flatten ++ left).foldl (push count) (fresh []) =
      ⟨before.filter fun w => !w.isEmpty, left, n⟩ := by
  have hopen : left.foldl (push count) ⟨before.filter fun w => !w.isEmpty, [], n⟩ =
      ⟨before.filter fun w => !w.isEmpty, [] ++ left, n⟩ :=
    foldl_open count hleft (by simpa using hlt)
  rw [List.foldl_append, foldl_flatten count hbefore, List.nil_append,
    ← foldl_nil_expected count hne, hopen, List.nil_append]

/-- **A frame of another length is found again**: all that is missing is the damaged one. -/
theorem group_resync (hbefore : ∀ w ∈ before, Whole count w)
    (hlater : ∀ w ∈ later, Whole count w) (hleft : ∀ x ∈ left, count x = n) (hne : left ≠ [])
    (hlt : left.length < n) (hother : ∀ x ∈ later.flatten.head?, count x ≠ n) :
    group count (before.flatten ++ left ++ later.flatten) =
      (before ++ later).filter fun w => !w.isEmpty := by
  have hfresh : (later.flatten.foldl (push count)
      ⟨before.filter fun w => !w.isEmpty, left, n⟩).windows =
      (later.flatten.foldl (push count) (fresh (before.filter fun w => !w.isEmpty))).windows := by
    cases hflat : later.flatten with
    | nil => rfl
    | cons x rest =>
      rw [List.foldl_cons, List.foldl_cons, push_resync count (hother x (by simp [hflat]))]
  rw [group, List.foldl_append, foldl_left count hbefore hleft hne hlt, hfresh,
    foldl_flatten count hlater]
  simp [fresh]

/-- **A frame of the same length is taken to complete the damaged one.** -/
theorem mem_group_of_same (hbefore : ∀ w ∈ before, Whole count w)
    (hleft : ∀ x ∈ left, count x = n) (hne : left ≠ []) (hlt : left.length < n)
    {next : List α} (hnext : ∀ x ∈ next, count x = n) (hlength : next.length = n) (rest : List α) :
    left ++ next.take (n - left.length) ∈
      group count (before.flatten ++ left ++ (next ++ rest)) := by
  have htake : (next.take (n - left.length)).length = n - left.length :=
    List.length_take_of_le (by omega)
  have htake_ne : next.take (n - left.length) ≠ [] := by
    apply List.ne_nil_of_length_pos
    omega
  have hsplit : next ++ rest =
      next.take (n - left.length) ++ (next.drop (n - left.length) ++ rest) := by
    rw [← List.append_assoc, List.take_append_drop]
  rw [hsplit, group, List.foldl_append, foldl_left count hbefore hleft hne hlt,
    List.foldl_append, foldl_close count (fun x hx => hnext x (List.mem_of_mem_take hx)) htake_ne
      (by omega)]
  apply (windows_run count _ _).subset
  simp [fresh]

end Lost

end Framing
