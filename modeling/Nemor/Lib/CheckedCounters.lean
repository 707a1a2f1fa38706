import Nemor.Lib.MachineNumbers

/-!
# Counters with checks

Subtraction and multiplication of 64-bit counters that fail instead of wrapping, and a total that
is there only if something was added to it.
-/

namespace MachineNumbers.U64

/-- Subtraction that fails below zero. -/
def sub (a b : UInt64) : Option UInt64 :=
  if b.toNat ≤ a.toNat then some (.ofNat (a.toNat - b.toNat)) else none

/-- Multiplication that fails when the product does not fit. -/
def mul (a b : UInt64) : Option UInt64 :=
  if a.toNat * b.toNat < 2 ^ 64 then some (.ofNat (a.toNat * b.toNat)) else none

/-- A sum that is there is the sum. -/
theorem add_eq_some_iff {a b c : UInt64} : add a b = some c ↔ c.toNat = a.toNat + b.toNat := by
  by_cases h : a.toNat + b.toNat < 2 ^ 64
  · exact add_eq_some h
  · have hc := c.toNat_lt
    simp only [add, if_neg h, reduceCtorEq, false_iff]
    omega

theorem sub_eq_some_iff {a b c : UInt64} : sub a b = some c ↔ c.toNat + b.toNat = a.toNat := by
  have ha := a.toNat_lt
  by_cases h : b.toNat ≤ a.toNat
  · simp only [sub, if_pos h, Option.some.injEq, ← UInt64.toNat_inj]
    rw [UInt64.toNat_ofNat_of_lt' (show a.toNat - b.toNat < 2 ^ 64 by omega)]
    omega
  · simp only [sub, if_neg h, reduceCtorEq, false_iff]
    omega

/-- A difference that is there is the wrapping one, and nothing wraps. -/
theorem sub_eq_some_iff_le {a b c : UInt64} : sub a b = some c ↔ b ≤ a ∧ c = a - b := by
  rw [sub_eq_some_iff, ← UInt64.toNat_inj]
  constructor
  · intro h
    have hle : b ≤ a := Nat.le.intro ((Nat.add_comm _ _).trans h)
    rw [UInt64.toNat_sub_of_le _ _ hle]
    exact ⟨hle, by omega⟩
  · rintro ⟨hle, h⟩
    rw [h, UInt64.toNat_sub_of_le _ _ hle]
    exact Nat.sub_add_cancel hle

/-! ## Totals -/

/-- A total with a value added. -/
def accumulate (total : Option UInt64) (value : UInt64) : Option UInt64 :=
  add (total.getD 0) value

/-- The total of values one after the other, none of no values. It fails as a sum does. -/
def total (start : Option UInt64) (values : List UInt64) : Option (Option UInt64) :=
  values.foldlM (fun t v => (accumulate t v).map some) start

theorem total_cons (start : Option UInt64) (v : UInt64) (values : List UInt64) :
    total start (v :: values) = (accumulate start v).bind fun t => total (some t) values := by
  rw [total, List.foldlM_cons]
  cases accumulate start v <;> simp [total]

/-- **A total that is there is the sum of the values.** -/
theorem total_some_iff {start : UInt64} {values : List UInt64} {t : Option UInt64} :
    total (some start) values = some t ↔
      ∃ n, t = some n ∧ n.toNat = start.toNat + (values.map UInt64.toNat).sum := by
  induction values generalizing start with
  | nil =>
    simp only [total, List.foldlM_nil, List.map_nil, List.sum_nil, Nat.add_zero]
    constructor
    · intro h
      exact ⟨start, (Option.some.inj h).symm, rfl⟩
    · intro ⟨n, ht, hn⟩
      rw [ht, UInt64.toNat_inj.1 hn]
      rfl
  | cons v values ih =>
    rw [total_cons, Option.bind_eq_some_iff]
    simp only [ih, accumulate, Option.getD_some, add_eq_some_iff, List.map_cons, List.sum_cons]
    constructor
    · intro ⟨m, hm, n, ht, hn⟩
      exact ⟨n, ht, by omega⟩
    · intro ⟨n, ht, hn⟩
      have hfits : start.toNat + v.toNat < 2 ^ 64 := by
        have := n.toNat_lt
        omega
      have hm : (UInt64.ofNat (start.toNat + v.toNat)).toNat = start.toNat + v.toNat :=
        UInt64.toNat_ofNat_of_lt' hfits
      exact ⟨_, hm, n, ht, by rw [hn, hm]; omega⟩

/-- With a value to add, nothing is as good as zero. -/
theorem total_none_cons (v : UInt64) (values : List UInt64) :
    total none (v :: values) = total (some 0) (v :: values) := by
  rw [total_cons, total_cons]
  rfl

/-- A total from nothing is there when some value is. -/
theorem total_none_iff {values : List UInt64} {n : UInt64} :
    total none values = some (some n) ↔
      values ≠ [] ∧ n.toNat = (values.map UInt64.toNat).sum := by
  cases values with
  | nil => simp [total]
  | cons v values =>
    rw [total_none_cons, total_some_iff]
    simp

theorem total_eq_none_iff {values : List UInt64} : total none values = some none ↔ values = [] := by
  cases values with
  | nil => simp [total]
  | cons v values =>
    simp [total_none_cons, total_some_iff]

/-- Values whose sum fits have a total. -/
theorem exists_total {values : List UInt64} (h : (values.map UInt64.toNat).sum < 2 ^ 64) :
    ∃ t, total none values = some t := by
  cases values with
  | nil => exact ⟨none, rfl⟩
  | cons v values =>
    exact ⟨_, total_none_iff.2 ⟨List.cons_ne_nil v values, UInt64.toNat_ofNat_of_lt' h⟩⟩

/-- The order of the values does not matter. -/
theorem total_perm {values values' : List UInt64} (h : values.Perm values')
    (start : Option UInt64) : total start values = total start values' := by
  have hsum : (values.map UInt64.toNat).sum = (values'.map UInt64.toNat).sum :=
    (h.map UInt64.toNat).sum_nat
  refine Option.ext fun t => ?_
  cases start with
  | some start => rw [total_some_iff, total_some_iff, hsum]
  | none =>
    cases t with
    | none => rw [total_eq_none_iff, total_eq_none_iff, ← List.length_eq_zero_iff, h.length_eq,
        List.length_eq_zero_iff]
    | some n => rw [total_none_iff, total_none_iff, hsum, ne_eq, ne_eq, ← List.length_eq_zero_iff,
        h.length_eq, List.length_eq_zero_iff]

end MachineNumbers.U64
