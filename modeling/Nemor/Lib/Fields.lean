import Nemor.Lib.Rendering

/-!
# Fields of a line

What lies between two delimiters, and the numbers with a sign behind them. The outermost
delimiters are found whatever stands between them. The lower bound of a signed type lies one
further out than the upper one, so the digits behind a minus sign have a bound of their own.
-/

namespace Text

open UnixPath

/-! ## Positions -/

/-- The first place of a character. -/
def find (c : Char) (text : List Char) : Option ℕ := text.findIdx? fun d => d = c

/-- The last place of a character. -/
def rfind (c : Char) (text : List Char) : Option ℕ :=
  (find c text.reverse).map fun fromEnd => text.length - 1 - fromEnd

theorem find_append {c : Char} {front behind : List Char} (h : c ∉ front) :
    find c (front ++ c :: behind) = some front.length := by
  induction front with
  | nil => simp [find, List.findIdx?_cons]
  | cons d front ih =>
    have hd : d ≠ c := fun heq => h (heq ▸ List.mem_cons_self)
    have ih' : find c (front ++ c :: behind) = some front.length :=
      ih fun hmem => h (List.mem_cons_of_mem d hmem)
    simp only [find] at ih'
    simp [find, List.findIdx?_cons, hd, ih']

theorem rfind_append {c : Char} {front behind : List Char} (h : c ∉ behind) :
    rfind c (front ++ c :: behind) = some front.length := by
  have hreverse : (front ++ c :: behind).reverse = behind.reverse ++ c :: front.reverse := by simp
  rw [rfind, hreverse, find_append (by simpa using h)]
  simp

theorem drop_append_cons (front : List Char) (c : Char) (behind : List Char) :
    (front ++ c :: behind).drop (front.length + 1) = behind := by
  induction front with
  | nil => rfl
  | cons d front ih => simp [ih]

section Delimited

variable (opening closing : Char) (front inside behind : List Char)

/-- A text with a part between delimiters. -/
def delimited : List Char := front ++ opening :: (inside ++ closing :: behind)

theorem delimited_eq : delimited opening closing front inside behind =
    (front ++ opening :: inside) ++ closing :: behind := by
  simp [delimited]

variable {opening closing front behind} in
theorem find_delimited (h : opening ∉ front) :
    find opening (delimited opening closing front inside behind) = some front.length :=
  find_append h

variable {opening closing front behind} in
/-- What is inside does not matter, also if it has the delimiters in it. -/
theorem rfind_delimited (h : closing ∉ behind) :
    rfind closing (delimited opening closing front inside behind) =
      some (front ++ opening :: inside).length := by
  rw [delimited_eq, rfind_append h]

theorem take_delimited :
    (delimited opening closing front inside behind).take front.length = front := List.take_left

theorem inside_delimited :
    ((delimited opening closing front inside behind).take
      (front ++ opening :: inside).length).drop (front.length + 1) = inside := by
  rw [delimited_eq, List.take_left, drop_append_cons]

theorem drop_delimited :
    (delimited opening closing front inside behind).drop
      ((front ++ opening :: inside).length + 1) = behind := by
  rw [delimited_eq, drop_append_cons]

end Delimited

/-- White space behind a word is cut off. -/
theorem Word.trim_append {w : List Char} (hw : Word w) {c : Char} (hc : isWhiteSpace c = true) :
    trim (w ++ [c]) = w := by
  have hhead : ∀ d ∈ (w ++ [c]).head?, isWhiteSpace d = false := by
    intro d hd
    rw [List.head?_append_of_ne_nil _ hw.nonempty] at hd
    exact hw.solid d (List.mem_of_head? hd)
  have hlast : ∀ d ∈ w.reverse.head?, isWhiteSpace d = false := by
    intro d hd
    exact hw.solid d (List.mem_reverse.1 (List.mem_of_head? hd))
  rw [trim, dropWhile_of_head hhead, List.reverse_append, List.reverse_singleton,
    List.singleton_append, List.dropWhile_cons_of_pos hc, dropWhile_of_head hlast,
    List.reverse_reverse]

/-! ## Readers of signed numbers -/

/-- A number from `-half` up to `half`, the latter not included. -/
def parseSigned (half : ℕ) : List Char → Option ℤ
  | [] => none
  | ['+'] => none
  | ['-'] => none
  | '+' :: digits => (parseDigits 10 half 0 digits).map fun n => (n : ℤ)
  | '-' :: digits => (parseDigits 10 (half + 1) 0 digits).map fun n => -(n : ℤ)
  | digits => (parseDigits 10 half 0 digits).map fun n => (n : ℤ)

/-- `i32::from_str`. -/
def parseI32 (text : List Char) : Option Int32 := (parseSigned (2 ^ 31) text).map Int32.ofInt

/-- `i64::from_str`. -/
def parseI64 (text : List Char) : Option Int64 := (parseSigned (2 ^ 63) text).map Int64.ofInt

/-! ## What is wrong with a text -/

/-- The first thing that is wrong with digits, from the left. -/
def digitsError (bound : ℕ) (tooFar : String) : ℕ → List Char → String
  | _, [] => ""
  | value, c :: rest =>
    match digitValue 10 c with
    | none => "invalid digit found in string"
    | some digit =>
      if value * 10 + digit < bound then digitsError bound tooFar (value * 10 + digit) rest
      else tooFar

/-- What an unsigned reader with a bound says of a text that it does not accept. -/
def unsignedError (bound : ℕ) : List Char → String
  | [] => "cannot parse integer from empty string"
  | ['+'] => "invalid digit found in string"
  | '+' :: digits => digitsError bound "number too large to fit in target type" 0 digits
  | digits => digitsError bound "number too large to fit in target type" 0 digits

/-- What a signed reader says. -/
def signedError (half : ℕ) : List Char → String
  | [] => "cannot parse integer from empty string"
  | ['+'] => "invalid digit found in string"
  | ['-'] => "invalid digit found in string"
  | '+' :: digits => digitsError half "number too large to fit in target type" 0 digits
  | '-' :: digits => digitsError (half + 1) "number too small to fit in target type" 0 digits
  | digits => digitsError half "number too large to fit in target type" 0 digits

/-! ## Numerals with a sign -/

/-- The decimal text of an integer. -/
def signed : ℤ → List Char
  | .ofNat n => decimal n
  | .negSucc n => '-' :: decimal (n + 1)

/-- A numeral does not start with a sign. -/
theorem decimal_eq_cons (n : ℕ) :
    ∃ c rest, decimal n = c :: rest ∧ c ≠ '+' ∧ c ≠ '-' := by
  cases hdigits : decimal n with
  | nil => exact absurd hdigits Nat.toDigits_ne_nil
  | cons c rest =>
    have hmem : c ∈ Nat.toDigits 10 n := by
      rw [show Nat.toDigits 10 n = c :: rest from hdigits]
      exact List.mem_cons_self
    have hc : c.isAlphanum = true := isAlphanum_of_mem_toDigits (by omega) (by omega) hmem
    refine ⟨c, rest, rfl, ?_, ?_⟩ <;> rintro rfl <;> exact absurd hc (by decide)

/-- **A numeral with a sign is read back**, from the least number of its type on. -/
theorem parseSigned_signed {half : ℕ} {v : ℤ} (hlow : -half ≤ v) (hhigh : v < half) :
    parseSigned half (signed v) = some v := by
  cases v with
  | ofNat n =>
    have hn : n < half := by simpa using hhigh
    have hread : parseDigits 10 half 0 (decimal n) = some n :=
      parseDigits_toDigits (by omega) (by omega) hn
    obtain ⟨c, rest, hdigits, hplus, hminus⟩ := decimal_eq_cons n
    simp only [signed]
    rw [hdigits] at hread ⊢
    unfold parseSigned
    split <;> simp_all
  | negSucc n =>
    have hn : n + 1 < half + 1 := by
      rw [Int.negSucc_eq] at hlow
      omega
    have hread : parseDigits 10 (half + 1) 0 (decimal (n + 1)) = some (n + 1) :=
      parseDigits_toDigits (by omega) (by omega) hn
    obtain ⟨c, rest, hdigits, -, -⟩ := decimal_eq_cons (n + 1)
    simp only [signed]
    rw [hdigits] at hread ⊢
    simp [parseSigned, hread, Int.negSucc_eq]

@[simp] theorem parseI32_signed (v : Int32) : parseI32 (signed v.toInt) = some v := by
  rw [parseI32, parseSigned_signed (by simpa using v.le_toInt) (by simpa using v.toInt_lt)]
  simp

@[simp] theorem parseI64_signed (v : Int64) : parseI64 (signed v.toInt) = some v := by
  rw [parseI64, parseSigned_signed (by simpa using v.le_toInt) (by simpa using v.toInt_lt)]
  simp

end Text
