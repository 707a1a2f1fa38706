import Mathlib.Data.List.TakeWhile
import Nemor.Lib.Binary64
import Nemor.Lib.Fields

/-!
# Reading floating-point numbers

A decimal number with or without a fraction and an exponent, as the binary64 value next to it,
and the names of what is no number. A number that was written with two decimals is read as the
value next to it.
-/

namespace Text

open MachineNumbers UnixPath

/-- Digits after a number that was read so far. -/
def naturalOf : ℕ → List Char → Option ℕ
  | value, [] => some value
  | value, c :: rest =>
    match digitValue 10 c with
    | none => none
    | some digit => naturalOf (value * 10 + digit) rest

/-- An exponent: a sign may come first, at least one digit has to follow. -/
def exponentOf : List Char → Option ℤ
  | [] => none
  | ['+'] => none
  | ['-'] => none
  | '+' :: digits => (naturalOf 0 digits).map fun n => (n : ℤ)
  | '-' :: digits => (naturalOf 0 digits).map fun n => -(n : ℤ)
  | digits => (naturalOf 0 digits).map fun n => (n : ℤ)

/-- The letter before an exponent. -/
def isExponentMark (c : Char) : Bool := c == 'e' || c == 'E'

/-- Digits with or without a point among, before or behind them, and an exponent. -/
def parseNumber (text : List Char) : Option ℚ := do
  let mantissa := text.takeWhile fun c => !isExponentMark c
  let exponent ←
    match text.dropWhile fun c => !isExponentMark c with
    | [] => some 0
    | _ :: exponent => exponentOf exponent
  let (whole, fraction) := (splitOnce '.' mantissa).getD (mantissa, [])
  if whole = [] ∧ fraction = [] then none
  else do
    let digits ← naturalOf 0 (whole ++ fraction)
    return digits * 10 ^ (exponent - fraction.length)

/-- The number behind the sign. -/
def parseMagnitude (negative : Bool) (body : List Char) : Option F64 :=
  let name := toAsciiLowercase body
  if name = "inf".toList ∨ name = "infinity".toList then
    some (if negative then .negInf else .posInf)
  else if name = "nan".toList then some .nan
  else (parseNumber body).map fun q => F64.ofRat (if negative then -q else q)

/-- `str::parse::<f64>` -/
def parseF64 : List Char → Option F64
  | '-' :: body => parseMagnitude true body
  | '+' :: body => parseMagnitude false body
  | body => parseMagnitude false body

/-- What the reader says of a text that it does not accept. -/
def floatError : List Char → String
  | [] => "cannot parse float from empty string"
  | _ => "invalid float literal"

/-! ## Numbers with two decimals -/

/-- A number of hundredths, written with two decimals. -/
def twoDecimals (hundredths : ℕ) : List Char :=
  decimal (hundredths / 100) ++
    '.' :: [Nat.digitChar (hundredths / 10 % 10), Nat.digitChar (hundredths % 10)]

theorem naturalOf_append (value : ℕ) (xs ys : List Char) :
    naturalOf value (xs ++ ys) = (naturalOf value xs).bind fun v => naturalOf v ys := by
  induction xs generalizing value with
  | nil => rfl
  | cons c xs ih =>
    simp only [List.cons_append, naturalOf]
    cases digitValue 10 c with
    | none => rfl
    | some digit => exact ih _

/-- What a reader with a bound accepts is read without it, too. -/
theorem naturalOf_of_parseDigits {bound value n : ℕ} {text : List Char}
    (h : parseDigits 10 bound value text = some n) : naturalOf value text = some n := by
  induction text generalizing value with
  | nil => exact h
  | cons c rest ih =>
    simp only [parseDigits] at h
    simp only [naturalOf]
    cases hdigit : digitValue 10 c with
    | none => simp [hdigit] at h
    | some digit =>
      simp only [hdigit] at h
      split at h
      · exact ih h
      · cases h

@[simp] theorem naturalOf_decimal (n : ℕ) : naturalOf 0 (decimal n) = some n :=
  naturalOf_of_parseDigits (parseDigits_toDigits (by decide) (by decide) n.lt_succ_self)

theorem naturalOf_digitChar (value : ℕ) {d : ℕ} (hd : d < 10) (rest : List Char) :
    naturalOf value (Nat.digitChar d :: rest) = naturalOf (value * 10 + d) rest := by
  simp only [naturalOf, digitValue_digitChar hd (by decide)]

/-- It is made of digits and a point. -/
theorem mem_twoDecimals {n : ℕ} {c : Char} (h : c ∈ twoDecimals n) :
    c = '.' ∨ ∃ d < 10, c = Nat.digitChar d := by
  simp only [twoDecimals, List.mem_append, List.mem_cons, List.not_mem_nil, or_false] at h
  rcases h with h | rfl | rfl | rfl
  · exact .inr (digitChar_of_mem_toDigits (by decide) h)
  · exact .inl rfl
  · exact .inr ⟨_, Nat.mod_lt _ (by decide), rfl⟩
  · exact .inr ⟨_, Nat.mod_lt _ (by decide), rfl⟩

/-- So nothing else is in it. -/
theorem ne_of_mem_twoDecimals {n : ℕ} {c d : Char} (h : c ∈ twoDecimals n) (hpoint : '.' ≠ d)
    (hdigit : ∀ k < 10, Nat.digitChar k ≠ d) : c ≠ d := by
  rcases mem_twoDecimals h with rfl | ⟨k, hk, rfl⟩
  · exact hpoint
  · exact hdigit k hk

theorem word_twoDecimals (n : ℕ) : Word (twoDecimals n) where
  nonempty := by simp [twoDecimals]
  solid c hc := by
    rcases mem_twoDecimals hc with rfl | ⟨d, hd, rfl⟩
    · decide
    · have hsolid : ∀ d < 10, isWhiteSpace (Nat.digitChar d) = false := by decide
      exact hsolid d hd

theorem naturalOf_hundredths (n : ℕ) :
    naturalOf 0 (decimal (n / 100) ++
      [Nat.digitChar (n / 10 % 10), Nat.digitChar (n % 10)]) = some n := by
  rw [naturalOf_append, naturalOf_decimal, Option.bind_some,
    naturalOf_digitChar _ (Nat.mod_lt _ (by decide)),
    naturalOf_digitChar _ (Nat.mod_lt _ (by decide)), naturalOf]
  congr 1
  omega

theorem parseNumber_twoDecimals (n : ℕ) : parseNumber (twoDecimals n) = some (n / 100 : ℚ) := by
  have hmark : ∀ c ∈ twoDecimals n, (!isExponentMark c) = true := by
    intro c hc
    have hlower := ne_of_mem_twoDecimals (d := 'e') hc (by decide) (by decide)
    have hupper := ne_of_mem_twoDecimals (d := 'E') hc (by decide) (by decide)
    simp [isExponentMark, hlower, hupper]
  have hwhole : '.' ∉ decimal (n / 100) := by
    intro h
    exact absurd (isAlphanum_of_mem_toDigits (by decide) (by decide) h) (by decide)
  have hsplit : splitOnce '.' (twoDecimals n) =
      some (decimal (n / 100), [Nat.digitChar (n / 10 % 10), Nat.digitChar (n % 10)]) :=
    splitOnce_append hwhole _
  have hmantissa : (twoDecimals n).takeWhile (fun c => !isExponentMark c) = twoDecimals n :=
    List.takeWhile_eq_self_iff.2 hmark
  have hexponent : (twoDecimals n).dropWhile (fun c => !isExponentMark c) = [] :=
    List.dropWhile_eq_nil_iff.2 hmark
  simp [parseNumber, hmantissa, hexponent, hsplit, naturalOf_hundredths, div_eq_mul_inv]
  norm_num

/-- **A number written with two decimals is read as the value next to it.** -/
theorem parseF64_twoDecimals (n : ℕ) :
    parseF64 (twoDecimals n) = some (F64.ofRat (n / 100)) := by
  obtain ⟨c, rest, hcons, hplus, hminus⟩ := decimal_eq_cons (n / 100)
  -- it does not start with a sign
  have hsign : parseF64 (twoDecimals n) = parseMagnitude false (twoDecimals n) := by
    rw [twoDecimals, hcons, List.cons_append, parseF64]
    · exact fun body h => hminus (List.cons.inj h).1
    · exact fun body h => hplus (List.cons.inj h).1
  -- it is no name, because there is a point in it
  have hpoint : '.' ∈ toAsciiLowercase (twoDecimals n) :=
    List.mem_map.2 ⟨'.', by simp [twoDecimals], rfl⟩
  have hname : ∀ name : List Char, '.' ∉ name → toAsciiLowercase (twoDecimals n) ≠ name := by
    rintro name hname rfl
    exact hname hpoint
  rw [hsign, parseMagnitude, if_neg, if_neg (hname _ (by decide)), parseNumber_twoDecimals]
  · rfl
  · rintro (h | h)
    · exact hname _ (by decide) h
    · exact hname _ (by decide) h

end Text
