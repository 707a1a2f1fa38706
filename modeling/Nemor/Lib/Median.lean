import Mathlib.Data.List.Forall2
import Mathlib.Data.List.Sort
import Mathlib.Order.Lattice

/-!
# The upper median

The element at index `n / 2` of the sorted list, in the order of a key. Whether it reaches a
threshold is a matter of counting: at most half of the values may be below. Medians of two
lists are compared through this count, also when the lists have different types.
-/

namespace Median

variable {α β : Type} [LinearOrder β] (key : α → β)

/-- Sort by the key and take the middle. -/
def median (values : List α) : Option α :=
  (values.insertionSort fun a b => key a ≤ key b)[values.length / 2]?

instance total_key : Std.Total fun a b : α => key a ≤ key b := ⟨fun a b => le_total (key a) (key b)⟩

instance trans_key : IsTrans α fun a b => key a ≤ key b := ⟨fun _ _ _ hab hbc => hab.trans hbc⟩

/-- The element at index `k` of a sorted list reaches `t` when at most `k` elements are below. -/
theorem le_getElem_iff_countP {l : List α} (h : l.Pairwise fun a b => key a ≤ key b) {k : ℕ}
    {m : α} (hk : l[k]? = some m) (t : β) :
    t ≤ key m ↔ l.countP (fun a => decide (key a < t)) ≤ k := by
  obtain ⟨hlt, rfl⟩ := List.getElem?_eq_some_iff.1 hk
  have hsplit : l = l.take k ++ l[k] :: l.drop (k + 1) := by
    rw [← List.drop_eq_getElem_cons hlt, List.take_append_drop]
  have hlen : (l.take k).length = k := by
    rw [List.length_take]
    omega
  rw [hsplit] at h
  obtain ⟨-, hright, hcross⟩ := List.pairwise_append.1 h
  obtain ⟨hafter, -⟩ := List.pairwise_cons.1 hright
  have hcount : l.countP (fun a => decide (key a < t)) =
      (l.take k).countP (fun a => decide (key a < t)) +
        (l[k] :: l.drop (k + 1)).countP (fun a => decide (key a < t)) := by
    conv_lhs => rw [hsplit]
    rw [List.countP_append]
  constructor
  · intro hle
    -- nothing from the middle on is below
    have hzero : (l[k] :: l.drop (k + 1)).countP (fun a => decide (key a < t)) = 0 := by
      rw [List.countP_eq_zero]
      intro a ha
      simp only [decide_eq_true_eq, not_lt]
      rcases List.mem_cons.1 ha with rfl | ha
      · exact hle
      · exact hle.trans (hafter a ha)
    have hbound := List.countP_le_length (p := fun a => decide (key a < t)) (l := l.take k)
    omega
  · intro hle
    by_contra hbelow
    have hm : key l[k] < t := not_le.1 hbelow
    -- everything up to the middle is below
    have hall : (l.take k).countP (fun a => decide (key a < t)) = (l.take k).length := by
      rw [List.countP_eq_length]
      intro a ha
      simp only [decide_eq_true_eq]
      exact (hcross a ha l[k] List.mem_cons_self).trans_lt hm
    have hone : 1 ≤ (l[k] :: l.drop (k + 1)).countP (fun a => decide (key a < t)) := by
      rw [List.countP_cons_of_pos (by simpa using hm)]
      omega
    omega

/-- The median reaches `t` when at most half of the values are below. -/
theorem le_median_iff {values : List α} {m : α} (h : median key values = some m) (t : β) :
    t ≤ key m ↔ values.countP (fun a => decide (key a < t)) ≤ values.length / 2 := by
  rw [le_getElem_iff_countP key (List.pairwise_insertionSort _ values) h t,
    (List.perm_insertionSort _ values).countP_eq]

/-- Values that are below together are counted together. -/
theorem countP_le_of_forall₂ {γ δ : Type} {p : γ → Bool} {q : δ → Bool} {l : List γ} {l' : List δ}
    (h : List.Forall₂ (fun a b => p a = true → q b = true) l l') : l.countP p ≤ l'.countP q := by
  induction h with
  | nil => exact le_rfl
  | @cons a b _ _ hab _ ih =>
    rw [List.countP_cons, List.countP_cons]
    by_cases hp : p a = true
    · rw [if_pos hp, if_pos (hab hp)]
      omega
    · rw [if_neg hp]
      omega

/-- A list that keeps its length when values are looked up has a value for each entry. -/
theorem forall₂_filterMap {γ δ : Type} {f : γ → Option δ} {l : List γ}
    (h : (l.filterMap f).length = l.length) :
    List.Forall₂ (fun a b => f a = some b) l (l.filterMap f) := by
  induction l with
  | nil => exact List.Forall₂.nil
  | cons a l ih =>
    cases hf : f a with
    | none =>
      have hle := List.length_filterMap_le f l
      rw [List.filterMap_cons_none hf, List.length_cons] at h
      omega
    | some b =>
      rw [List.filterMap_cons_some hf] at h ⊢
      exact List.Forall₂.cons hf (ih (by simpa using h))

/-- Lists that belong to one list entry by entry belong to each other. -/
theorem forall₂_join {γ δ ε : Type} {R : γ → δ → Prop} {S : γ → ε → Prop} {l : List γ}
    {xs : List δ} {ys : List ε} (hxs : List.Forall₂ R l xs) (hys : List.Forall₂ S l ys) :
    List.Forall₂ (fun y x => ∃ c, R c x ∧ S c y) ys xs := by
  induction hxs generalizing ys with
  | nil =>
    cases hys
    exact List.Forall₂.nil
  | cons hx _ ih =>
    cases hys with
    | cons hy hys => exact List.Forall₂.cons ⟨_, hx, hy⟩ (ih hys)

/-- Of two lists that are ordered entry by entry the medians are ordered. -/
theorem median_le_median {γ δ ε : Type} {key : δ → β} {key' : ε → β} {R : γ → δ → Prop}
    {S : γ → ε → Prop} {l : List γ} {xs : List δ} {ys : List ε} {m : δ} {n : ε}
    (hxs : List.Forall₂ R l xs) (hys : List.Forall₂ S l ys)
    (hle : ∀ c x y, R c x → S c y → key x ≤ key' y) (hm : median key xs = some m)
    (hn : median key' ys = some n) : key m ≤ key' n := by
  have hcount := (le_median_iff key hm (key m)).1 le_rfl
  apply (le_median_iff key' hn (key m)).2
  -- what is below in the upper list is below in the lower one
  have hbelow : ys.countP (fun y => decide (key' y < key m)) ≤
      xs.countP fun x => decide (key x < key m) := by
    apply countP_le_of_forall₂
    refine (forall₂_join hxs hys).imp ?_
    rintro y x ⟨c, hx, hy⟩ hlt
    simp only [decide_eq_true_eq] at hlt ⊢
    exact (hle c x y hx hy).trans_lt hlt
  have hlength := hxs.length_eq
  have hlength' := hys.length_eq
  omega

/-- More than half of the values do not exceed the median. -/
theorem half_lt_countP {values : List α} {m : α} (h : median key values = some m) :
    values.length / 2 < values.countP fun a => decide (key a ≤ key m) := by
  have hsorted := List.pairwise_insertionSort (fun a b => key a ≤ key b) values
  rw [← (List.perm_insertionSort (fun a b => key a ≤ key b) values).countP_eq]
  unfold median at h
  generalize values.insertionSort (fun a b => key a ≤ key b) = l at h hsorted
  obtain ⟨hlt, rfl⟩ := List.getElem?_eq_some_iff.1 h
  have hlength : (l.take (values.length / 2 + 1)).length = values.length / 2 + 1 := by
    rw [List.length_take]
    omega
  -- everything up to the middle counts
  have hall : (l.take (values.length / 2 + 1)).countP
      (fun a => decide (key a ≤ key l[values.length / 2])) =
      (l.take (values.length / 2 + 1)).length := by
    rw [List.countP_eq_length]
    intro a ha
    obtain ⟨i, hi, rfl⟩ := List.mem_iff_getElem.1 ha
    rw [hlength] at hi
    rw [List.getElem_take, decide_eq_true_eq]
    rcases Nat.lt_succ_iff_lt_or_eq.1 hi with hi | rfl
    · exact List.pairwise_iff_getElem.1 hsorted i _ _ hlt hi
    · exact le_rfl
  have hsub := (List.take_sublist (values.length / 2 + 1) l).countP_le
    (p := fun a => decide (key a ≤ key l[values.length / 2]))
  omega

theorem countP_not {γ : Type} (p : γ → Bool) (l : List γ) :
    l.countP p + l.countP (fun a => !p a) = l.length := by
  have hlength := List.length_eq_countP_add_countP (p := p) (l := l)
  have hnot : (fun a => decide ¬p a = true) = fun a => !p a := by
    funext a
    cases p a <;> rfl
  rw [hnot] at hlength
  exact hlength.symm

/-- Two properties that together are had more often than there are values meet in one value. -/
theorem exists_both_of_countP {γ : Type} {p q : γ → Bool} {l : List γ}
    (h : l.length < l.countP p + l.countP q) : ∃ a ∈ l, p a = true ∧ q a = true := by
  by_contra hno
  have hle : l.countP p ≤ l.countP fun a => !q a := by
    apply List.countP_mono_left
    intro a ha hp
    by_contra hq
    exact hno ⟨a, ha, hp, by simpa using hq⟩
  have hlength := countP_not q l
  omega

/-- Two medians of one list: some value does not exceed the first and reaches the second. -/
theorem exists_le_ge {γ α' β' : Type} [LinearOrder β'] {key : α → β} {key' : α' → β'} {f : γ → α}
    {g : γ → α'} {l : List γ} {m : α} {n : α'} (hm : median key (l.map f) = some m)
    (hn : median key' (l.map g) = some n) : ∃ a ∈ l, key (f a) ≤ key m ∧ key' n ≤ key' (g a) := by
  have hbelow := half_lt_countP key hm
  have hcount := (le_median_iff key' hn (key' n)).1 le_rfl
  have hnot := countP_not (fun a => decide (key' (g a) < key' n)) l
  rw [List.countP_map, List.length_map] at hbelow hcount
  simp only [← not_le, decide_not, Bool.not_not] at hcount hnot
  obtain ⟨a, ha, hfa, hga⟩ := exists_both_of_countP (l := l)
    (p := fun a => decide (key (f a) ≤ key m)) (q := fun a => decide (key' n ≤ key' (g a)))
    (by simp only [Function.comp_def] at hbelow hcount; omega)
  exact ⟨a, ha, of_decide_eq_true hfa, of_decide_eq_true hga⟩

theorem median_isSome {values : List α} (h : values ≠ []) : (median key values).isSome := by
  have hpos := List.length_pos_iff.2 h
  unfold median
  rw [List.getElem?_eq_getElem (by rw [List.length_insertionSort]; omega)]
  rfl

end Median
