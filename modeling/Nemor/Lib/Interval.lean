import Mathlib.Algebra.GroupWithZero.Nat
import Mathlib.Data.Finset.Card
import Mathlib.Data.List.Sort
import Mathlib.Order.Interval.Finset.Nat
import Mathlib.Order.Interval.Set.Basic

/-!
# Half-open intervals in a list

Whether intervals cover an interval, decided by one sweep over them in the order of their lower
ends, and how much disjoint intervals can measure together. The intervals are given by the
lower and the upper end of the elements of a list.
-/

namespace Interval

/-! ## §1 Sorting by a key -/

section Sorting

variable {ι α : Type*} [LinearOrder α] (key : ι → α)

/-- Elements with the same key stay in their order. -/
def sortByKey (l : List ι) : List ι := l.insertionSort fun i j => key i ≤ key j

@[simp] theorem mem_sortByKey {i : ι} {l : List ι} : i ∈ sortByKey key l ↔ i ∈ l :=
  List.mem_insertionSort _

theorem sortByKey_perm (l : List ι) : (sortByKey key l).Perm l := List.perm_insertionSort _ l

theorem sortByKey_sorted (l : List ι) : (sortByKey key l).Pairwise fun i j => key i ≤ key j := by
  have : Std.Total fun i j : ι => key i ≤ key j := ⟨fun i j => le_total (key i) (key j)⟩
  have : IsTrans ι fun i j => key i ≤ key j := ⟨fun _ _ _ => le_trans⟩
  exact List.pairwise_insertionSort _ l

end Sorting

/-! ## §2 Sweeping -/

section Sweep

variable {ι α : Type*} [LinearOrder α] (lo hi : ι → α)

/-- The points of the intervals. -/
def union (l : List ι) : Set α := {x | ∃ i ∈ l, x ∈ Set.Ico (lo i) (hi i)}

@[simp] theorem union_nil : union lo hi [] = ∅ := by simp [union]

theorem union_cons (i : ι) (l : List ι) :
    union lo hi (i :: l) = Set.Ico (lo i) (hi i) ∪ union lo hi l := by
  ext x
  simp [union]

/-- How far the intervals reach from a point without a gap, when they come in the order of their
    lower ends. -/
def sweep : α → List ι → α
  | cursor, [] => cursor
  | cursor, i :: rest =>
    if cursor < lo i then cursor else sweep (max cursor (hi i)) rest

theorem le_sweep (cursor : α) (l : List ι) : cursor ≤ sweep lo hi cursor l := by
  induction l generalizing cursor with
  | nil => exact le_refl _
  | cons i rest ih =>
    simp only [sweep]
    split
    · exact le_refl _
    · exact (le_max_left _ _).trans (ih _)

theorem sweep_le {cursor bound : α} {l : List ι} (hcursor : cursor ≤ bound)
    (hl : ∀ i ∈ l, hi i ≤ bound) : sweep lo hi cursor l ≤ bound := by
  induction l generalizing cursor with
  | nil => exact hcursor
  | cons i rest ih =>
    simp only [sweep]
    split
    · exact hcursor
    · exact ih (max_le hcursor (hl i (by simp))) fun j hj => hl j (by simp [hj])

/-- What was swept over is covered. -/
theorem sweep_subset (cursor : α) (l : List ι) :
    Set.Ico cursor (sweep lo hi cursor l) ⊆ union lo hi l := by
  induction l generalizing cursor with
  | nil => simp [sweep]
  | cons i rest ih =>
    simp only [sweep, union_cons]
    split
    · simp
    · next hnear =>
      rintro x ⟨hx, hx'⟩
      by_cases hxi : x < hi i
      · exact .inl ⟨(not_lt.1 hnear).trans hx, hxi⟩
      · exact .inr (ih _ ⟨max_le hx (not_lt.1 hxi), hx'⟩)

/-- The sweep stops at a point that is not covered. -/
theorem sweep_notMem {cursor : α} {l : List ι} (hsorted : l.Pairwise fun i j => lo i ≤ lo j) :
    sweep lo hi cursor l ∉ union lo hi l := by
  induction l generalizing cursor with
  | nil => simp
  | cons i rest ih =>
    obtain ⟨hfirst, hrest⟩ := List.pairwise_cons.1 hsorted
    simp only [sweep, union_cons]
    split
    · next hgap =>
      rintro (hx | ⟨j, hj, hx⟩)
      · exact absurd hx.1 (not_le.2 hgap)
      · exact absurd ((hfirst j hj).trans hx.1) (not_le.2 hgap)
    · rintro (hx | hx)
      · -- the sweep went on from the end of this interval at least
        have hle := (le_max_right cursor (hi i)).trans (le_sweep lo hi _ rest)
        exact absurd hx.2 (not_lt.2 hle)
      · exact ih hrest hx

/-- **A sweep decides coverage.** -/
theorem le_sweep_iff {cursor stop : α} {l : List ι}
    (hsorted : l.Pairwise fun i j => lo i ≤ lo j) :
    stop ≤ sweep lo hi cursor l ↔ Set.Ico cursor stop ⊆ union lo hi l := by
  constructor
  · intro hle
    exact (Set.Ico_subset_Ico_right hle).trans (sweep_subset lo hi cursor l)
  · intro hcover
    by_contra hlt
    exact sweep_notMem lo hi hsorted (hcover ⟨le_sweep lo hi cursor l, not_le.1 hlt⟩)

/-- A point before the first interval is not covered. -/
theorem not_subset_union_cons {cursor stop : α} {i : ι} {rest : List ι} (hgap : cursor < lo i)
    (hcursor : cursor < stop) (hfirst : ∀ j ∈ rest, lo i ≤ lo j) :
    ¬ Set.Ico cursor stop ⊆ union lo hi (i :: rest) := by
  intro hcover
  obtain ⟨j, hj, hx⟩ := hcover ⟨le_refl _, hcursor⟩
  rcases List.mem_cons.1 hj with rfl | hj
  · exact absurd hx.1 (not_le.2 hgap)
  · exact absurd ((hfirst j hj).trans hx.1) (not_le.2 hgap)

/-- From inside an interval the rest has to be covered from its end on. -/
theorem subset_union_cons_iff {cursor stop : α} {i : ι} {rest : List ι} (hlo : lo i ≤ cursor)
    (hhi : cursor ≤ hi i) :
    Set.Ico cursor stop ⊆ union lo hi (i :: rest) ↔
      Set.Ico (hi i) stop ⊆ union lo hi rest := by
  rw [union_cons]
  constructor
  · intro hcover x hx
    rcases hcover ⟨hhi.trans hx.1, hx.2⟩ with hxi | hxr
    · exact absurd hxi.2 (not_lt.2 hx.1)
    · exact hxr
  · intro hcover x hx
    by_cases hxi : x < hi i
    · exact .inl ⟨hlo.trans hx.1, hxi⟩
    · exact .inr (hcover ⟨not_lt.1 hxi, hx.2⟩)

/-- A sweep that stops with `false` at a gap or at an interval without the property, and with
    `true` as soon as it has reached `stop`. -/
def sweepAll (stop : α) (p : ι → Bool) : α → List ι → Bool
  | _, [] => false
  | cursor, i :: rest =>
    if cursor < lo i || !p i then false
    else
      let cursor := max cursor (min (hi i) stop)
      if cursor = stop then true else sweepAll stop p cursor rest

/-- **Over disjoint intervals, each of which counts,** that sweep decides whether they cover
    and whether all of them have the property. -/
theorem sweepAll_iff {stop : α} {p : ι → Bool} {cursor : α} {l : List ι}
    (hapart : l.Pairwise fun i j => hi i ≤ lo j) (hmeets : ∀ i ∈ l, lo i < hi i)
    (hbelow : ∀ i ∈ l, lo i < stop) (habove : ∀ i ∈ l, cursor < hi i) (hcursor : cursor < stop) :
    sweepAll lo hi stop p cursor l = true ↔
      Set.Ico cursor stop ⊆ union lo hi l ∧ ∀ i ∈ l, p i = true := by
  induction l generalizing cursor with
  | nil =>
    have hmem : cursor ∈ Set.Ico cursor stop := ⟨le_refl _, hcursor⟩
    simp only [sweepAll, Bool.false_eq_true, union_nil, false_iff, not_and]
    exact fun hcover => absurd (hcover hmem) (by simp)
  | cons i rest ih =>
    obtain ⟨hnext, hrest⟩ := List.pairwise_cons.1 hapart
    have hi_lt : lo i < hi i := hmeets i (by simp)
    have hmax : max cursor (min (hi i) stop) = min (hi i) stop :=
      max_eq_right (le_min (habove i (by simp)).le hcursor.le)
    simp only [sweepAll, hmax, Bool.or_eq_true, decide_eq_true_eq, Bool.not_eq_true']
    by_cases hgap : cursor < lo i
    · -- the cursor itself is not covered
      have hfirst : ∀ j ∈ rest, lo i ≤ lo j := fun j hj => hi_lt.le.trans (hnext j hj)
      simp only [hgap, true_or, if_true, Bool.false_eq_true, false_iff, not_and]
      exact fun hcover => absurd hcover (not_subset_union_cons lo hi hgap hcursor hfirst)
    · have hlo : lo i ≤ cursor := not_lt.1 hgap
      by_cases hp : p i = true
      · simp only [hgap, hp, Bool.true_eq_false, or_self, if_false]
        by_cases hstop : min (hi i) stop = stop
        · -- nothing further on is below `stop`
          have hle : stop ≤ hi i := min_eq_right_iff.1 hstop
          have hnone : rest = [] := by
            cases rest with
            | nil => rfl
            | cons j _ =>
              exact absurd (hle.trans (hnext j (by simp))) (not_le.2 (hbelow j (by simp)))
          simp only [hstop, if_true, true_iff]
          refine ⟨fun x hx => ⟨i, by simp, hlo.trans hx.1, hx.2.trans_le hle⟩, ?_⟩
          simpa [hnone] using hp
        · have hlt : hi i < stop := by
            by_contra hle
            exact hstop (min_eq_right (not_lt.1 hle))
          have hmin : min (hi i) stop = hi i := min_eq_left hlt.le
          rw [if_neg hstop, hmin, ih hrest (fun j hj => hmeets j (by simp [hj]))
            (fun j hj => hbelow j (by simp [hj]))
            (fun j hj => (hnext j hj).trans_lt (hmeets j (by simp [hj]))) hlt,
            subset_union_cons_iff lo hi hlo (habove i (by simp)).le, List.forall_mem_cons]
          simp [hp]
      · simp only [hp, Bool.false_eq_true, or_true, if_true, false_iff, not_and]
        exact fun _ hall => absurd (hall i (by simp)) (by simpa using hp)

end Sweep

/-! ## §3 Measuring -/

section Measure

variable {ι : Type*}

/-- Disjoint parts of a set have together at most as many elements. -/
theorem sum_card_le {α : Type*} [DecidableEq α] {part : ι → Finset α} {whole : Finset α}
    {l : List ι} (hdisjoint : l.Pairwise fun i j => Disjoint (part i) (part j))
    (hsubset : ∀ i ∈ l, part i ⊆ whole) : (l.map fun i => (part i).card).sum ≤ whole.card := by
  induction l generalizing whole with
  | nil => simp
  | cons i rest ih =>
    obtain ⟨hfirst, hrest⟩ := List.pairwise_cons.1 hdisjoint
    have hsub : part i ⊆ whole := hsubset i (by simp)
    have hcard := Finset.card_sdiff_add_card_eq_card hsub
    have hle : (rest.map fun j => (part j).card).sum ≤ (whole \ part i).card :=
      ih hrest fun j hj => Finset.subset_sdiff.2 ⟨hsubset j (by simp [hj]), (hfirst j hj).symm⟩
    simp only [List.map_cons, List.sum_cons]
    omega

/-- Disjoint intervals inside an interval measure at most as much. -/
theorem sum_length_le {lo hi : ι → ℕ} {a b : ℕ} {l : List ι}
    (hdisjoint : l.Pairwise fun i j =>
      Disjoint (Finset.Ico (lo i) (hi i)) (Finset.Ico (lo j) (hi j)))
    (hsubset : ∀ i ∈ l, Finset.Ico (lo i) (hi i) ⊆ Finset.Ico a b) :
    (l.map fun i => hi i - lo i).sum ≤ b - a := by
  simpa using sum_card_le hdisjoint hsubset

end Measure

end Interval
