import Mathlib.Data.List.Induction
import Mathlib.Order.Lattice
import Mathlib.Tactic.Common

/-!
# The best value of a column

One pass over a list that keeps a value until a better one comes. Values that are only spelled
differently have the same best one.
-/

namespace Aggregate

variable {α β : Type}

/-- The better one of what was kept and a new value; what was kept if none is better. -/
def keep (better : α → α → Bool) (kept : Option α) (x : α) : Option α :=
  match kept with
  | none => some x
  | some m => if better x m then some x else some m

/-- The element that is kept in the end. -/
def best (better : α → α → Bool) (l : List α) : Option α := l.foldl (keep better) none

/-- The pass commutes with a map that keeps the comparison. -/
theorem best_map {better : α → α → Bool} {better' : β → β → Bool} {f : α → β} {S : α → Prop}
    (hf : ∀ x y, S x → S y → better' (f x) (f y) = better x y) {l : List α} (hl : ∀ x ∈ l, S x) :
    best better' (l.map f) = (best better l).map f := by
  have hpass : ∀ kept : Option α, (∀ x ∈ kept, S x) →
      (l.map f).foldl (keep better') (kept.map f) = (l.foldl (keep better) kept).map f := by
    induction l with
    | nil => exact fun _ _ => rfl
    | cons x l ih =>
      obtain ⟨hx, hrest⟩ := List.forall_mem_cons.1 hl
      intro kept hkept
      have hkeep : keep better' (kept.map f) (f x) = (keep better kept x).map f := by
        cases kept with
        | none => rfl
        | some m =>
          simp only [keep, Option.map_some, hf x m hx (hkept m rfl)]
          split <;> rfl
      rw [List.map_cons, List.foldl_cons, List.foldl_cons, hkeep]
      apply ih hrest
      intro y hy
      unfold keep at hy
      split at hy
      · simpa using (Option.some.inj hy) ▸ hx
      · split at hy
        · exact (Option.some.inj hy) ▸ hx
        · exact (Option.some.inj hy) ▸ hkept _ rfl
  exact hpass none (by simp)

@[simp] theorem best_nil (better : α → α → Bool) : best better [] = none := rfl

theorem best_concat (better : α → α → Bool) (l : List α) (x : α) :
    best better (l ++ [x]) = keep better (best better l) x := by
  rw [best, List.foldl_append]
  rfl

/-- Some value is the best one as soon as there is a value. -/
theorem best_eq_none {better : α → α → Bool} {l : List α} : best better l = none ↔ l = [] := by
  induction l using List.reverseRecOn with
  | nil => simp
  | append_singleton l x _ =>
    rw [best_concat]
    cases best better l with
    | none => simp [keep]
    | some m =>
      simp only [keep]
      split <;> simp

/-- The best value is one of the list, and none is better. -/
theorem best_spec {better : α → α → Bool} {S : α → Prop} (hirrefl : ∀ x, better x x = false)
    (htrans : ∀ x y z, S y → better x y = false → better y z = false → better x z = false)
    (hasymm : ∀ x y, better x y = true → better y x = false)
    {l : List α} (hl : ∀ x ∈ l, S x) {m : α} (h : best better l = some m) :
    m ∈ l ∧ ∀ x ∈ l, better x m = false := by
  induction l using List.reverseRecOn generalizing m with
  | nil => cases h
  | append_singleton l y ih =>
    rw [best_concat] at h
    cases hbest : best better l with
    | none =>
      obtain rfl := best_eq_none.1 hbest
      rw [hbest] at h
      obtain rfl := Option.some.inj h
      simp [hirrefl]
    | some k =>
      rw [hbest] at h
      obtain ⟨hmem, hall⟩ := ih (fun x hx => hl x (List.mem_append_left _ hx)) hbest
      simp only [keep] at h
      split at h
      · rename_i hbetter
        obtain rfl := Option.some.inj h
        refine ⟨by simp, fun x hx => ?_⟩
        rcases List.mem_append.1 hx with hx | hx
        · -- what was kept was not beaten, and the new value beats it
          exact htrans x k y (hl k (List.mem_append_left _ hmem)) (hall x hx) (hasymm y k hbetter)
        · rw [List.mem_singleton.1 hx]
          exact hirrefl y
      · rename_i hbetter
        obtain rfl := Option.some.inj h
        refine ⟨List.mem_append_left _ hmem, fun x hx => ?_⟩
        rcases List.mem_append.1 hx with hx | hx
        · exact hall x hx
        · rw [List.mem_singleton.1 hx]
          simpa using hbetter

/-- A value stands for those of a list: it is one of them, and none is better. There is one
    unless the list is empty. -/
structure Extreme (better : α → α → Bool) (x : Option α) (values : List α) : Prop where
  none_iff : x = none ↔ values = []
  mem : ∀ m, x = some m → m ∈ values
  best : ∀ m, x = some m → ∀ v ∈ values, better v m = false

theorem extreme_best {better : α → α → Bool} {S : α → Prop} (hirrefl : ∀ x, better x x = false)
    (htrans : ∀ x y z, S y → better x y = false → better y z = false → better x z = false)
    (hasymm : ∀ x y, better x y = true → better y x = false) {l : List α} (hl : ∀ x ∈ l, S x) :
    Extreme better (Aggregate.best better l) l where
  none_iff := best_eq_none
  mem _ h := (best_spec hirrefl htrans hasymm hl h).1
  best _ h := (best_spec hirrefl htrans hasymm hl h).2

/-- What is better has a smaller key. -/
theorem extreme_by_key {κ : Type} [LinearOrder κ] (key : α → κ) {better : α → α → Bool}
    (hbetter : ∀ x m, better x m = decide (key x < key m)) (l : List α) :
    Extreme better (Aggregate.best better l) l := by
  refine extreme_best (S := fun _ => True) ?_ ?_ ?_ fun _ _ => trivial
  · simp [hbetter]
  · simp only [hbetter, decide_eq_false_iff_not, not_lt]
    exact fun x y z _ hxy hyz => hyz.trans hxy
  · simp only [hbetter, decide_eq_true_eq, decide_eq_false_iff_not, not_lt]
    exact fun x y hxy => hxy.le

end Aggregate
