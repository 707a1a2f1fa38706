import Nemor.Lib.Rendering

/-!
# Texts of fields that are cut at a length

A name is put together from fields, words and numerals in turn, and cut to so many characters. What
tells two such names apart is the first field in which they differ, if it stands in front of the
cut. A numeral ends where a word begins, so no separator is needed between the two.
-/

namespace Text

variable {α : Type}

/-- A common field in front takes its length off the cut. -/
theorem take_append_iff {a x y : List α} {k : ℕ} :
    (a ++ x).take k = (a ++ y).take k ↔ x.take (k - a.length) = y.take (k - a.length) := by
  rw [List.take_append, List.take_append, List.append_right_inj]

/-- Different fields of one length differ at once, unless the cut is in front of the difference. -/
theorem take_append_ne {a b x y : List α} {k : ℕ} (h : a.take k ≠ b.take k)
    (hlength : a.length = b.length) : (a ++ x).take k ≠ (b ++ y).take k := by
  intro heq
  rw [List.take_append, List.take_append] at heq
  have hlengths : (a.take k).length = (b.take k).length := by simp [hlength]
  exact h (List.append_inj_left heq hlengths)

theorem isDigit_of_mem_decimal {n : ℕ} {c : Char} (h : c ∈ decimal n) : c.isDigit = true :=
  Nat.isDigit_of_mem_toDigits (by decide) (by decide) h

theorem decimal_injective : Function.Injective decimal := by
  intro m n h
  have hvalue := congrArg (fun digits => Nat.ofDigitChars 10 digits 0) h
  simpa [decimal, Nat.ofDigitChars_ten_toDigits] using hvalue

theorem length_decimal_pos {n : ℕ} : 0 < (decimal n).length := Nat.length_toDigits_pos

/-- A 64-bit number has at most twenty digits. -/
theorem length_decimal_le (n : UInt64) : (decimal n.toNat).length ≤ 20 := by
  have hlt := n.toNat_lt
  exact (Nat.length_toDigits_le_iff (by decide) (by decide)).2 (by omega)

/-- Where no digit follows, what a cut leaves of a numeral is what stands in front of the first
other character. -/
theorem takeWhile_take_decimal {n k : ℕ} {x : List Char} (hx : ∀ c ∈ x.head?, c.isDigit = false) :
    ((decimal n ++ x).take k).takeWhile Char.isDigit = (decimal n).take k := by
  have hrest : (x.take (k - (decimal n).length)).takeWhile Char.isDigit = [] := by
    cases x with
    | nil => simp
    | cons c x =>
      have hc := hx c rfl
      cases k - (decimal n).length <;> simp [hc]
  rw [List.take_append, List.takeWhile_append_of_pos, hrest, List.append_nil]
  intro c hc
  exact isDigit_of_mem_decimal (List.mem_of_mem_take hc)

/-- A numeral that is not the other one, but the same up to the cut, fills the cut. -/
theorem length_le_of_take_eq {m n k : ℕ} (h : (decimal m).take k = (decimal n).take k)
    (hne : m ≠ n) : k ≤ (decimal m).length := by
  by_contra hlt
  have hlengths := congrArg List.length h
  rw [List.length_take, List.length_take] at hlengths
  rw [List.take_of_length_le (by omega), List.take_of_length_le (by omega)] at h
  exact hne (decimal_injective h)

/-- **A cut text that starts with a numeral**: what the cut leaves of the numeral can be read off,
and what follows is compared where the numerals are the same. -/
theorem take_decimal_iff {m n k : ℕ} {x y : List Char} (hx : ∀ c ∈ x.head?, c.isDigit = false)
    (hy : ∀ c ∈ y.head?, c.isDigit = false) :
    (decimal m ++ x).take k = (decimal n ++ y).take k ↔
      (decimal m).take k = (decimal n).take k ∧
        (m = n → x.take (k - (decimal m).length) = y.take (k - (decimal m).length)) := by
  constructor
  · intro h
    have hdigits := congrArg (List.takeWhile Char.isDigit) h
    rw [takeWhile_take_decimal hx, takeWhile_take_decimal hy] at hdigits
    refine ⟨hdigits, ?_⟩
    rintro rfl
    exact take_append_iff.1 h
  · rintro ⟨hdigits, hrest⟩
    by_cases hmn : m = n
    · obtain rfl := hmn
      exact take_append_iff.2 (hrest rfl)
    · rw [List.take_append_of_le_length (length_le_of_take_eq hdigits hmn),
        List.take_append_of_le_length (length_le_of_take_eq hdigits.symm (Ne.symm hmn)), hdigits]

/-- Numerals that end in front of the cut are not touched by it. -/
theorem take_decimal_eq_iff {m n k : ℕ} (hm : (decimal m).length ≤ k)
    (hn : (decimal n).length ≤ k) : (decimal m).take k = (decimal n).take k ↔ m = n := by
  rw [List.take_of_length_le hm, List.take_of_length_le hn, decimal_injective.eq_iff]

end Text
