import Mathlib.Order.Basic
import Mathlib.Tactic.Common

/-!
# Least and greatest elements

The element of a list that a comparison puts first or last, found in one pass. Of equal elements
the first least and the last greatest one is taken. A comparison of parts of the elements can tie
different ones; what is taken is then determined up to such a tie.
-/

namespace Extremum

variable {α β : Type}

/-! ## One pass -/

section Pass

variable {pick : α → α → α} {R : α → α → Prop}

/-- A pass that keeps one of two elements keeps one of the list, and nothing comes before it. -/
theorem foldl_pick (hrefl : ∀ x, R x x) (htrans : ∀ x y z, R x y → R y z → R x z)
    (hpick : ∀ x y, (pick x y = x ∧ R x y) ∨ (pick x y = y ∧ R y x)) (l : List α) (x : α) :
    l.foldl pick x ∈ x :: l ∧ ∀ y ∈ x :: l, R (l.foldl pick x) y := by
  induction l generalizing x with
  | nil => simp [hrefl]
  | cons y l ih =>
    obtain ⟨hmem, hle⟩ := ih (pick x y)
    rw [List.foldl_cons]
    have hfirst := hle (pick x y) List.mem_cons_self
    constructor
    · rcases List.mem_cons.1 hmem with heq | hmem
      · rw [heq]
        rcases hpick x y with ⟨h, -⟩ | ⟨h, -⟩ <;> simp [h]
      · exact List.mem_cons_of_mem _ (List.mem_cons_of_mem _ hmem)
    · intro z hz
      rcases List.mem_cons.1 hz with rfl | hz
      · rcases hpick z y with ⟨h, -⟩ | ⟨h, hbelow⟩
        · rwa [h] at hfirst ⊢
        · rw [h] at hfirst ⊢
          exact htrans _ _ _ hfirst hbelow
      · rcases List.mem_cons.1 hz with rfl | hz
        · rcases hpick x z with ⟨h, hbelow⟩ | ⟨h, -⟩
          · rw [h] at hfirst ⊢
            exact htrans _ _ _ hfirst hbelow
          · rwa [h] at hfirst ⊢
        · exact hle z (List.mem_cons_of_mem _ hz)

/-- Two passes that agree on the elements give the same. -/
theorem foldl_congr {pick' : α → α → α} {S : α → Prop} (hclosed : ∀ x y, S x → S y → S (pick x y))
    (hagree : ∀ x y, S x → S y → pick x y = pick' x y) {l : List α} (hl : ∀ y ∈ l, S y) {x : α}
    (hx : S x) : l.foldl pick x = l.foldl pick' x := by
  induction l generalizing x with
  | nil => rfl
  | cons y l ih =>
    have hy := hl y List.mem_cons_self
    rw [List.foldl_cons, List.foldl_cons, ← hagree x y hx hy]
    exact ih (fun z hz => hl z (List.mem_cons_of_mem y hz)) (hclosed x y hx hy)

end Pass

/-! ## By a comparison -/

/-- The first of the least elements. -/
def minBy (cmp : α → α → Ordering) : List α → Option α
  | [] => none
  | x :: rest => some (rest.foldl (fun best y => if cmp best y = .gt then y else best) x)

/-- The last of the greatest elements. -/
def maxBy (cmp : α → α → Ordering) : List α → Option α
  | [] => none
  | x :: rest => some (rest.foldl (fun best y => if cmp best y = .gt then best else y) x)

theorem minBy_eq_none {cmp : α → α → Ordering} {l : List α} : minBy cmp l = none ↔ l = [] := by
  cases l <;> simp [minBy]

theorem maxBy_eq_none {cmp : α → α → Ordering} {l : List α} : maxBy cmp l = none ↔ l = [] := by
  cases l <;> simp [maxBy]

theorem maxBy_congr {cmp cmp' : α → α → Ordering} {l : List α}
    (h : ∀ x ∈ l, ∀ y ∈ l, cmp x y = cmp' x y) : maxBy cmp l = maxBy cmp' l := by
  cases l with
  | nil => rfl
  | cons x rest =>
    refine congrArg some (foldl_congr (S := fun y => y ∈ x :: rest) ?_ ?_
      (fun y hy => List.mem_cons_of_mem x hy) List.mem_cons_self)
    · intro a b ha hb
      split <;> assumption
    · intro a b ha hb
      rw [h a ha b hb]

section Spec

variable {cmp : α → α → Ordering} [Std.TransCmp cmp] {l : List α} {m : α}

theorem minBy_spec (h : minBy cmp l = some m) : m ∈ l ∧ ∀ x ∈ l, (cmp m x).isLE = true := by
  cases l with
  | nil => cases h
  | cons x rest =>
    cases h
    apply foldl_pick (R := fun a b => (cmp a b).isLE = true)
    · intro a
      simp [Std.ReflCmp.compare_self]
    · exact fun _ _ _ => Std.TransCmp.isLE_trans
    · intro a b
      split
      · next hgt =>
        refine .inr ⟨rfl, ?_⟩
        rw [Std.OrientedCmp.gt_iff_lt] at hgt
        simp [hgt]
      · next hgt =>
        refine .inl ⟨rfl, ?_⟩
        cases hcmp : cmp a b <;> simp_all

theorem maxBy_spec (h : maxBy cmp l = some m) : m ∈ l ∧ ∀ x ∈ l, (cmp x m).isLE = true := by
  cases l with
  | nil => cases h
  | cons x rest =>
    cases h
    apply foldl_pick (R := fun a b => (cmp b a).isLE = true)
    · intro a
      simp [Std.ReflCmp.compare_self]
    · exact fun _ _ _ hab hbc => Std.TransCmp.isLE_trans hbc hab
    · intro a b
      split
      · next hgt =>
        refine .inl ⟨rfl, ?_⟩
        rw [Std.OrientedCmp.gt_iff_lt] at hgt
        simp [hgt]
      · next hgt =>
        refine .inr ⟨rfl, ?_⟩
        cases hcmp : cmp a b <;> simp_all

/-- What a least element is called, if elements that tie are called the same. -/
theorem map_minBy_eq_some {name : α → β} (hname : ∀ x y, cmp x y = .eq → name x = name y) {c : β} :
    (minBy cmp l).map name = some c ↔
      ∃ e ∈ l, name e = c ∧ ∀ x ∈ l, (cmp e x).isLE = true := by
  constructor
  · intro h
    obtain ⟨m, hm, rfl⟩ := Option.map_eq_some_iff.1 h
    obtain ⟨hmem, hleast⟩ := minBy_spec hm
    exact ⟨m, hmem, rfl, hleast⟩
  · rintro ⟨e, he, rfl, hleast⟩
    have hsome : minBy cmp l ≠ none := fun hnone =>
      List.ne_nil_of_mem he (minBy_eq_none.1 hnone)
    obtain ⟨m, hm⟩ := Option.ne_none_iff_exists'.1 hsome
    obtain ⟨hmem, hbelow⟩ := minBy_spec hm
    have htie : cmp m e = .eq := Std.OrientedCmp.isLE_antisymm (hbelow e he) (hleast m hmem)
    rw [hm, Option.map_some, hname m e htie]

theorem map_maxBy_eq_some {name : α → β} (hname : ∀ x y, cmp x y = .eq → name x = name y) {c : β} :
    (maxBy cmp l).map name = some c ↔
      ∃ e ∈ l, name e = c ∧ ∀ x ∈ l, (cmp x e).isLE = true := by
  constructor
  · intro h
    obtain ⟨m, hm, rfl⟩ := Option.map_eq_some_iff.1 h
    obtain ⟨hmem, hgreatest⟩ := maxBy_spec hm
    exact ⟨m, hmem, rfl, hgreatest⟩
  · rintro ⟨e, he, rfl, hgreatest⟩
    have hsome : maxBy cmp l ≠ none := fun hnone =>
      List.ne_nil_of_mem he (maxBy_eq_none.1 hnone)
    obtain ⟨m, hm⟩ := Option.ne_none_iff_exists'.1 hsome
    obtain ⟨hmem, habove⟩ := maxBy_spec hm
    have htie : cmp m e = .eq := Std.OrientedCmp.isLE_antisymm (hgreatest m hmem) (habove e he)
    rw [hm, Option.map_some, hname m e htie]

end Spec

end Extremum
