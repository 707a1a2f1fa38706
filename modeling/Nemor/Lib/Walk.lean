import Mathlib.Data.Finset.Card
import Mathlib.Data.List.Infix
import Mathlib.Data.Nat.Find
import Mathlib.Logic.Relation
import Mathlib.Order.Interval.Finset.Nat

/-!
# Walking from place to place

Each place has at most one next place, so that the places behind a place form a chain that ends,
goes on for ever or runs into a cycle. A walk goes along the chain for a number of steps and stops
early where the chain ends or where it has been before. Stopping at a cycle leaves nothing out:
the walk has all places of the chain that are no further away than its number of steps.
-/

namespace Walk

variable {α : Type} (next : α → Option α)

/-- The place that lies some steps behind a place. -/
def after : ℕ → α → Option α
  | 0, a => some a
  | k + 1, a => (next a).bind (after k)

/-- The places that a walk comes to, in order. -/
def walk [DecidableEq α] : ℕ → α → List α → List α
  | 0, _, _ => []
  | steps + 1, a, seen =>
    if a ∈ seen then []
    else
      match next a with
      | none => []
      | some b => b :: walk steps b (a :: seen)

/-- One place lies behind another one. -/
def Next (a b : α) : Prop := next a = some b

variable {next}

/-! ## Chains -/

theorem after_add (j k : ℕ) (a : α) :
    after next (j + k) a = (after next j a).bind (after next k) := by
  induction j generalizing a with
  | zero => simp [after]
  | succ j ih =>
    rw [Nat.succ_add, after, after, Option.bind_assoc]
    exact congrArg _ (funext ih)

theorem after_succ' (k : ℕ) (a : α) : after next (k + 1) a = (after next k a).bind next := by
  rw [after_add]
  congr 1
  funext b
  simp [after]

/-- What lies behind a place, at any distance. -/
theorem transGen_next_iff {a b : α} :
    Relation.TransGen (Next next) a b ↔ ∃ k, 1 ≤ k ∧ after next k a = some b := by
  constructor
  · intro h
    induction h with
    | single h => exact ⟨1, le_rfl, by simpa [after, Next] using h⟩
    | tail _ h ih =>
      obtain ⟨k, -, hk⟩ := ih
      exact ⟨k + 1, by omega, by rw [after_succ', hk, Option.bind_some]; exact h⟩
  · rintro ⟨k, hpos, hk⟩
    induction k generalizing b with
    | zero => omega
    | succ k ih =>
      rw [after_succ'] at hk
      obtain ⟨c, hc, hnext⟩ := Option.bind_eq_some_iff.1 hk
      cases k with
      | zero =>
        obtain rfl := Option.some.inj hc
        exact .single hnext
      | succ k => exact .tail (ih (by omega) hc) hnext

/-- On the shortest way to a place no place comes twice: a way that comes back to a place can be
cut short. -/
theorem after_injective_of_least {a b : α} {k : ℕ} (hk : after next k a = some b)
    (hleast : ∀ j, 1 ≤ j → j < k → after next j a ≠ some b) {i j : ℕ} (hi : 1 ≤ i) (hij : i < j)
    (hjk : j ≤ k) : after next i a ≠ after next j a := by
  intro heq
  have hcut : after next (i + (k - j)) a = some b := by
    rw [after_add, heq, ← after_add, Nat.add_sub_of_le hjk]
    exact hk
  exact hleast (i + (k - j)) (by omega) (by omega) hcut

/-- Each place behind a place is no further away than there are places behind it. -/
theorem exists_after_le_card [DecidableEq α] {a : α} {s : Finset α}
    (hs : ∀ b, Relation.TransGen (Next next) a b → b ∈ s) {b : α}
    (hb : Relation.TransGen (Next next) a b) :
    ∃ k, 1 ≤ k ∧ k ≤ s.card ∧ after next k a = some b := by
  classical
  have hexists := transGen_next_iff.1 hb
  obtain ⟨hpos, hk⟩ := Nat.find_spec hexists
  refine ⟨Nat.find hexists, hpos, ?_, hk⟩
  have hleast : ∀ j, 1 ≤ j → j < Nat.find hexists → after next j a ≠ some b :=
    fun j hj hlt h => Nat.find_min hexists hlt ⟨hj, h⟩
  generalize Nat.find hexists = k at hk hleast
  -- the places on the way are as many as the distance
  have hdefined : ∀ i, i ≤ k → ∃ c, after next i a = some c := by
    intro i hi
    rw [← Nat.add_sub_of_le hi, after_add] at hk
    obtain ⟨c, hc, -⟩ := Option.bind_eq_some_iff.1 hk
    exact ⟨c, hc⟩
  have hsubset : (Finset.Icc 1 k).image (after next · a) ⊆
      s.map ⟨some, Option.some_injective α⟩ := by
    intro o ho
    obtain ⟨i, hi, rfl⟩ := Finset.mem_image.1 ho
    obtain ⟨hlow, hhigh⟩ := Finset.mem_Icc.1 hi
    obtain ⟨c, hc⟩ := hdefined i hhigh
    exact Finset.mem_map.2 ⟨c, hs c (transGen_next_iff.2 ⟨i, hlow, hc⟩), hc.symm⟩
  have hinjective : Set.InjOn (after next · a) (Finset.Icc 1 k) := by
    intro i hi j hj heq
    obtain ⟨hi, hik⟩ := Finset.mem_Icc.1 (Finset.mem_coe.1 hi)
    obtain ⟨hj, hjk⟩ := Finset.mem_Icc.1 (Finset.mem_coe.1 hj)
    rcases Nat.lt_trichotomy i j with hlt | rfl | hlt
    · exact absurd heq (after_injective_of_least hk hleast hi hlt hjk)
    · rfl
    · exact absurd heq.symm (after_injective_of_least hk hleast hj hlt hik)
  have hcard := Finset.card_le_card hsubset
  rw [Finset.card_image_of_injOn hinjective, Finset.card_map, Nat.card_Icc] at hcard
  omega

/-! ## Walks -/

/-- The places seen so far, of which each but the last one has its next place among them. -/
def Trail (next : α → Option α) (a : α) (seen : List α) : Prop :=
  ∀ x ∈ seen, ∀ y, next x = some y → y = a ∨ y ∈ seen

theorem Trail.cons {a b : α} {seen : List α} (h : Trail next a seen) (hnext : next a = some b) :
    Trail next b (a :: seen) := by
  intro x hx y hy
  rcases List.mem_cons.1 hx with rfl | hx
  · exact .inl (Option.some.inj (hy.symm.trans hnext))
  · rcases h x hx y hy with rfl | h
    · exact .inr List.mem_cons_self
    · exact .inr (List.mem_cons_of_mem _ h)

/-- A trail that has come back to itself is never left. -/
theorem Trail.after_mem {a b : α} {seen : List α} (h : Trail next a seen) (ha : a ∈ seen) {k : ℕ}
    (hb : after next k a = some b) : b ∈ seen := by
  induction k generalizing b with
  | zero => exact Option.some.inj hb ▸ ha
  | succ k ih =>
    rw [after_succ'] at hb
    obtain ⟨c, hc, hnext⟩ := Option.bind_eq_some_iff.1 hb
    rcases h c (ih hc) b hnext with rfl | h
    · exact ha
    · exact h

section Walks

variable [DecidableEq α]

/-- What a walk comes to, apart from what the trail has come to, is what lies ahead. -/
theorem mem_walk_or {steps : ℕ} {a b : α} {seen : List α} (h : Trail next a seen) :
    (b ∈ walk next steps a seen ∨ ∃ x ∈ seen, next x = some b) ↔
      (∃ k, 1 ≤ k ∧ k ≤ steps ∧ after next k a = some b) ∨ ∃ x ∈ seen, next x = some b := by
  induction steps generalizing a seen with
  | zero =>
    refine or_congr_left (iff_of_false List.not_mem_nil ?_)
    rintro ⟨k, hlow, hhigh, -⟩
    omega
  | succ steps ih =>
    rw [walk]
    split_ifs with ha
    · -- the trail has come back to itself, so that what lies ahead lies on it
      refine ⟨fun hb => .inr (hb.resolve_left List.not_mem_nil), ?_⟩
      rintro (⟨k, hlow, -, hk⟩ | hb)
      · obtain ⟨k, rfl⟩ := Nat.exists_eq_add_of_le' hlow
        rw [after_succ'] at hk
        obtain ⟨c, hc, hnext⟩ := Option.bind_eq_some_iff.1 hk
        exact .inr ⟨c, h.after_mem ha hc, hnext⟩
      · exact .inr hb
    · cases hnext : next a with
      | none =>
        refine or_congr_left (iff_of_false List.not_mem_nil ?_)
        rintro ⟨k, hlow, -, hk⟩
        obtain ⟨k, rfl⟩ := Nat.exists_eq_add_of_le' hlow
        simp [after, hnext] at hk
      | some c =>
        have hahead : (∃ k, 1 ≤ k ∧ k ≤ steps + 1 ∧ after next k a = some b) ↔
            c = b ∨ ∃ k, 1 ≤ k ∧ k ≤ steps ∧ after next k c = some b := by
          constructor
          · rintro ⟨k, hlow, hhigh, hk⟩
            obtain ⟨k, rfl⟩ := Nat.exists_eq_add_of_le' hlow
            rw [after, hnext, Option.bind_some] at hk
            cases k with
            | zero => exact .inl (Option.some.inj hk)
            | succ k => exact .inr ⟨k + 1, by omega, by omega, hk⟩
          · rintro (rfl | ⟨k, hlow, hhigh, hk⟩)
            · exact ⟨1, le_rfl, by omega, by simp [after, hnext]⟩
            · exact ⟨k + 1, by omega, by omega, by rw [after, hnext, Option.bind_some, hk]⟩
        have hrest := ih (h.cons hnext)
        simp only [List.exists_mem_cons_iff, hnext, Option.some.injEq] at hrest
        rw [hahead, List.mem_cons]
        grind

/-- **A walk comes to the places that are no further away than its steps**, also where the chain
runs into a cycle. -/
theorem mem_walk_iff {steps : ℕ} {a b : α} :
    b ∈ walk next steps a [] ↔ ∃ k, 1 ≤ k ∧ k ≤ steps ∧ after next k a = some b := by
  have hstart : Trail next a [] := fun x hx => absurd hx List.not_mem_nil
  have h : (b ∈ walk next steps a [] ∨ ∃ x ∈ [], next x = some b) ↔ _ := mem_walk_or hstart
  simpa using h

theorem length_walk_le (steps : ℕ) (a : α) (seen : List α) :
    (walk next steps a seen).length ≤ steps := by
  induction steps generalizing a seen with
  | zero => simp [walk]
  | succ steps ih =>
    rw [walk]
    split_ifs with ha
    · simp
    · cases next a with
      | none => simp
      | some b => simpa using ih b (a :: seen)

/-- The places come in the order of their distance. -/
theorem after_of_getElem?_walk {steps i : ℕ} {a b : α} {seen : List α}
    (h : (walk next steps a seen)[i]? = some b) : after next (i + 1) a = some b := by
  induction steps generalizing a seen i with
  | zero => simp [walk] at h
  | succ steps ih =>
    rw [walk] at h
    split_ifs at h with ha
    · simp at h
    · cases hnext : next a with
      | none => simp [hnext] at h
      | some c =>
        rw [hnext] at h
        rw [after, hnext, Option.bind_some]
        cases i with
        | zero => simpa [after] using h
        | succ i => exact ih (by simpa using h)

/-- The place where a walk starts and those it comes to are different, but for the last one, to
which the walk may have come back. -/
theorem nodup_dropLast_walk (steps : ℕ) (a : α) (seen : List α) :
    (a :: walk next steps a seen).dropLast.Nodup ∧
      ∀ x ∈ (a :: walk next steps a seen).dropLast, x ∉ seen := by
  induction steps generalizing a seen with
  | zero => simp [walk]
  | succ steps ih =>
    rw [walk]
    split_ifs with ha
    · simp
    · cases hnext : next a with
      | none => simp
      | some b =>
        obtain ⟨hnodup, hfresh⟩ := ih b (a :: seen)
        rw [List.dropLast_cons_of_ne_nil (List.cons_ne_nil _ _)]
        refine ⟨List.nodup_cons.2 ⟨fun hmem => hfresh a hmem List.mem_cons_self, hnodup⟩, ?_⟩
        intro x hx
        rcases List.mem_cons.1 hx with rfl | hx
        · exact ha
        · exact fun hseen => hfresh x hx (List.mem_cons_of_mem _ hseen)

end Walks

end Walk
