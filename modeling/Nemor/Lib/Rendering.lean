import Nemor.Lib.Text

/-!
# Reading back what was written

The readers of `Text` on texts that were put together from numerals, words and markers: a
numeral is read back as its number, words with a space between them as themselves, and a marker
is found where it was put if it does not stand further in front.
-/

namespace Text

open UnixPath

/-! ## Numerals -/

section Numerals

variable {radix bound : ℕ}

theorem parseDigits_append (value : ℕ) (xs ys : List Char) :
    parseDigits radix bound value (xs ++ ys) =
      (parseDigits radix bound value xs).bind fun v => parseDigits radix bound v ys := by
  induction xs generalizing value with
  | nil => simp [parseDigits]
  | cons c xs ih =>
    simp only [List.cons_append, parseDigits]
    cases digitValue radix c with
    | none => simp
    | some digit =>
      by_cases h : value * radix + digit < bound
      · simp [h, ih]
      · simp [h]

theorem digitValue_digitChar {d : ℕ} (hd : d < radix) (hradix : radix ≤ 16) :
    digitValue radix d.digitChar = some d := by
  have hvalue : ∀ radix ≤ 16, ∀ d < radix, digitValue radix (Nat.digitChar d) = some d := by decide
  exact hvalue radix hradix d hd

/-- A numeral is made of the characters of its digits. -/
theorem digitChar_of_mem_toDigits {n : ℕ} {c : Char} (hradix : 1 < radix)
    (h : c ∈ Nat.toDigits radix n) : ∃ d < radix, c = d.digitChar := by
  induction n using Nat.base_induction radix hradix with
  | single m hm =>
    rw [Nat.toDigits_of_lt_base hm, List.mem_singleton] at h
    exact ⟨m, hm, h⟩
  | digit m k hk hm ih =>
    rw [← Nat.toDigits_append_toDigits hradix hm hk, Nat.toDigits_of_lt_base hk,
      List.mem_append, List.mem_singleton] at h
    cases h with
    | inl h => exact ih h
    | inr h => exact ⟨k, hk, h⟩

theorem isAlphanum_of_mem_toDigits {n : ℕ} {c : Char} (hradix : 1 < radix) (h16 : radix ≤ 16)
    (h : c ∈ Nat.toDigits radix n) : c.isAlphanum = true := by
  have hdigit : ∀ d < 16, (Nat.digitChar d).isAlphanum = true := by decide
  obtain ⟨d, hd, rfl⟩ := digitChar_of_mem_toDigits hradix h
  exact hdigit d (by omega)

/-- **A numeral is read back as its number**, by induction on its digits from the left. -/
theorem parseDigits_toDigits {n : ℕ} (hradix : 1 < radix) (h16 : radix ≤ 16) (hn : n < bound) :
    parseDigits radix bound 0 (Nat.toDigits radix n) = some n := by
  induction n using Nat.base_induction radix hradix with
  | single m hm =>
    simp [Nat.toDigits_of_lt_base hm, parseDigits, digitValue_digitChar hm h16, hn]
  | digit m k hk hm ih =>
    have hm' : m < bound := by
      have : m ≤ radix * m := Nat.le_mul_of_pos_left m (by omega)
      omega
    rw [← Nat.toDigits_append_toDigits hradix hm hk, parseDigits_append, ih hm',
      Nat.toDigits_of_lt_base hk]
    simp [parseDigits, digitValue_digitChar hk h16, Nat.mul_comm m, hn]

theorem fromRadix_toDigits {n : ℕ} (hradix : 1 < radix) (h16 : radix ≤ 16) (hn : n < bound) :
    fromRadix radix bound (Nat.toDigits radix n) = some n := by
  have hparse := parseDigits_toDigits hradix h16 hn
  -- a numeral is not empty and starts with no sign
  have hsign : '+' ∉ Nat.toDigits radix n := by
    intro h
    exact absurd (isAlphanum_of_mem_toDigits hradix h16 h) (by decide)
  cases hdigits : Nat.toDigits radix n with
  | nil => exact absurd hdigits Nat.toDigits_ne_nil
  | cons c rest =>
    have hc : c ≠ '+' := by
      rintro rfl
      simp [hdigits] at hsign
    rw [hdigits] at hparse
    unfold fromRadix
    split
    next h => cases h
    next h => exact absurd (List.cons.inj h).1 hc
    next h => exact absurd (List.cons.inj h).1 hc
    next => exact hparse

end Numerals

/-- The decimal digits of a number. -/
def decimal (n : ℕ) : List Char := Nat.toDigits 10 n

/-- The hexadecimal digits, in lower case. -/
def hexadecimal (n : ℕ) : List Char := Nat.toDigits 16 n

@[simp] theorem parseU64_decimal (n : UInt64) : parseU64 (decimal n.toNat) = some n := by
  simp [parseU64, decimal, fromRadix_toDigits, n.toNat_lt]

@[simp] theorem parseU32_decimal (n : UInt32) : parseU32 (decimal n.toNat) = some n := by
  simp [parseU32, decimal, fromRadix_toDigits, n.toNat_lt]

@[simp] theorem parseHexU64_hexadecimal (n : UInt64) :
    parseHexU64 (hexadecimal n.toNat) = some n := by
  simp [parseHexU64, hexadecimal, fromRadix_toDigits, n.toNat_lt]

/-! ## Words -/

/-- Not empty and without white space. -/
structure Word (w : List Char) : Prop where
  nonempty : w ≠ []
  solid : ∀ c ∈ w, isWhiteSpace c = false

/-- A closed word is checked over its own characters. -/
theorem solid_of_all {w : List Char} (h : (w.all fun c => !isWhiteSpace c) = true) :
    ∀ c ∈ w, isWhiteSpace c = false := by
  simpa using h

theorem isWhiteSpace_of_isAlphanum {c : Char} (h : c.isAlphanum = true) :
    isWhiteSpace c = false := by
  have hranges : ((c.isUpper || c.isLower) || c.isDigit) = true := h
  have hupper : c.isUpper = decide (65 ≤ c.val ∧ c.val ≤ 90) := rfl
  have hlower : c.isLower = (decide (97 ≤ c.val) && decide (c.val ≤ 122)) := rfl
  have hdigit : c.isDigit = (decide (48 ≤ c.val) && decide (c.val ≤ 57)) := rfl
  simp only [hupper, hlower, hdigit, Bool.or_eq_true, Bool.and_eq_true, decide_eq_true_eq,
    UInt32.le_iff_toNat_le] at hranges
  simp only [isWhiteSpace, Bool.or_eq_false_iff, Bool.and_eq_false_iff, decide_eq_false_iff_not,
    beq_eq_false_iff_ne]
  simp at hranges
  omega

theorem solid_toDigits {radix n : ℕ} (hradix : 1 < radix) (h16 : radix ≤ 16) :
    ∀ c ∈ Nat.toDigits radix n, isWhiteSpace c = false :=
  fun _ hc => isWhiteSpace_of_isAlphanum (isAlphanum_of_mem_toDigits hradix h16 hc)

theorem word_decimal (n : ℕ) : Word (decimal n) where
  nonempty := Nat.toDigits_ne_nil
  solid := solid_toDigits (by omega) (by omega)

@[simp] theorem splitWhitespace_nil : splitWhitespace [] = [] := by
  simp [splitWhitespace]

theorem splitWhitespace_append_cons {c : Char} (hc : isWhiteSpace c = true)
    (front rest : List Char) :
    splitWhitespace (front ++ c :: rest) = splitWhitespace front ++ splitWhitespace rest := by
  simp [splitWhitespace, List.splitOnP_append_cons _ _ hc]

theorem splitWhitespace_of_word {w : List Char} (hw : Word w) : splitWhitespace w = [w] := by
  simp [splitWhitespace, List.splitOnP_eq_singleton hw.solid, hw.nonempty]

/-- Words with a space between them. -/
def unwords (words : List (List Char)) : List Char := [' '].intercalate words

theorem unwords_cons_cons (v w : List Char) (words : List (List Char)) :
    unwords (v :: w :: words) = v ++ ' ' :: unwords (w :: words) := by
  simp [unwords]

theorem splitWhitespace_unwords {words : List (List Char)} (h : ∀ w ∈ words, Word w) :
    splitWhitespace (unwords words) = words := by
  induction words with
  | nil => simp [unwords]
  | cons v words ih =>
    cases words with
    | nil => simpa [unwords] using splitWhitespace_of_word (h v (by simp))
    | cons w words =>
      rw [unwords_cons_cons, splitWhitespace_append_cons (by decide),
        splitWhitespace_of_word (h v (by simp)), ih fun u hu => h u (List.mem_cons_of_mem v hu)]
      rfl

theorem splitWhitespace_dropWhile (text : List Char) :
    splitWhitespace (text.dropWhile isWhiteSpace) = splitWhitespace text := by
  induction text with
  | nil => rfl
  | cons c rest ih =>
    cases hc : isWhiteSpace c with
    | false => simp [hc]
    | true =>
      have hcons := splitWhitespace_append_cons hc [] rest
      simp only [List.nil_append, splitWhitespace_nil] at hcons
      simp [hc, ih, hcons]

/-- White space at both ends is between no words. -/
theorem splitWhitespace_trim (text : List Char) :
    splitWhitespace (trim text) = splitWhitespace text := by
  have hend : ∀ text : List Char, splitWhitespace (text.reverse.dropWhile isWhiteSpace).reverse =
      splitWhitespace text := by
    intro text
    induction text using List.reverseRecOn with
    | nil => rfl
    | append_singleton text c ih =>
      cases hc : isWhiteSpace c with
      | false => simp [hc]
      | true =>
        rw [splitWhitespace_append_cons hc]
        simp [hc, ih]
  rw [trim, hend, splitWhitespace_dropWhile]

/-! ## Markers -/

theorem dropWhile_eq_of_notMem {c : Char} {text : List Char} (h : c ∉ text) :
    text.dropWhile (· = c) = text := by
  cases text with
  | nil => rfl
  | cons d rest =>
    have hd : d ≠ c := by
      rintro rfl
      simp at h
    simp [hd]

theorem trimEndMatches_of_notMem {c : Char} {text : List Char} (h : c ∉ text) :
    trimEndMatches c text = text := by
  rw [trimEndMatches, dropWhile_eq_of_notMem (by simpa using h), List.reverse_reverse]

theorem trimEndMatches_append {c : Char} {text : List Char} (h : c ∉ text) :
    trimEndMatches c (text ++ [c]) = text := by
  simpa [trimEndMatches] using trimEndMatches_of_notMem h

theorem trimMatches_of_notMem {c : Char} {text : List Char} (h : c ∉ text) :
    trimMatches c text = text := by
  rw [trimMatches, dropWhile_eq_of_notMem h, trimEndMatches_of_notMem h]

theorem splitOnce_append {separator : Char} {before : List Char} (h : separator ∉ before)
    (behind : List Char) :
    splitOnce separator (before ++ separator :: behind) = some (before, behind) := by
  have hbefore : ∀ c ∈ before, decide (c ≠ separator) = true := by
    intro c hc
    simp only [decide_eq_true_eq]
    rintro rfl
    exact h hc
  rw [splitOnce, if_pos (by simp), List.takeWhile_append_of_pos hbefore,
    List.dropWhile_append_of_pos hbefore]
  simp

@[simp] theorem stripPrefix_append (start rest : List Char) :
    stripPrefix start (start ++ rest) = some rest := by
  simp [stripPrefix]

@[simp] theorem stripSuffix_append (text stop : List Char) :
    stripSuffix stop (text ++ stop) = some text := by
  simp [stripSuffix]

/-- A marker is found behind a text if it starts nowhere in it. -/
theorem splitOnceAt_append {marker before : List Char} (behind : List Char)
    (h : ∀ front, front <:+ before → front ≠ [] → ¬ marker <+: front ++ (marker ++ behind)) :
    splitOnceAt marker (before ++ (marker ++ behind)) = some (before, behind) := by
  induction before with
  | nil =>
    cases hmarker : marker ++ behind with
    | nil =>
      obtain ⟨rfl, rfl⟩ := List.append_eq_nil_iff.1 hmarker
      simp [splitOnceAt]
    | cons c rest =>
      simp only [List.nil_append, splitOnceAt]
      rw [← hmarker]
      simp
  | cons c before ih =>
    have hc : marker.isPrefixOf (c :: (before ++ (marker ++ behind))) = false := by
      have hfirst := h (c :: before) (List.suffix_refl _) (by simp)
      rw [Bool.eq_false_iff]
      simpa using hfirst
    have hbefore := ih fun front hfront => h front (hfront.trans (List.suffix_cons c before))
    simp [splitOnceAt, hc, hbefore]

/-- A marker that ends with a character of its own is found behind a text it does not occur in:
    an occurrence that starts in the text would put that character inside the marker. -/
theorem splitOnceAt_marker {body before : List Char} {c : Char} (hc : c ∉ body)
    (h : ¬ (body ++ [c]) <:+: before) (behind : List Char) :
    splitOnceAt (body ++ [c]) (before ++ ((body ++ [c]) ++ behind)) = some (before, behind) := by
  apply splitOnceAt_append
  intro front hfront hne hmarker
  by_cases hlength : front.length ≤ body.length
  · -- the last character of the occurrence is one of the body
    have hlast : (front ++ ((body ++ [c]) ++ behind))[body.length]? = some c := by
      obtain ⟨rest, hrest⟩ := hmarker
      rw [← hrest]
      simp
    have hpos : 0 < front.length := List.length_pos_iff.2 hne
    rw [List.getElem?_append_right hlength, List.append_assoc,
      List.getElem?_append_left (by omega)] at hlast
    exact hc (List.mem_of_getElem? hlast)
  · have hfit : body ++ [c] <+: front :=
      List.prefix_of_prefix_length_le hmarker (List.prefix_append front _) (by simp; omega)
    exact h (hfit.isInfix.trans hfront.isInfix)

/-- A text that lies across a character does so with one of its own. -/
theorem isInfix_append_cons {c : Char} {text front behind : List Char} (hc : c ∉ text)
    (h : text <:+: front ++ c :: behind) : text <:+: front ∨ text <:+: behind := by
  obtain ⟨before, after, htext⟩ := h
  rw [List.append_assoc] at htext
  rcases List.append_eq_append_iff.1 htext with ⟨rest, rfl, hrest⟩ | ⟨rest, rfl, hrest⟩
  · left
    rcases List.append_eq_append_iff.1 hrest with ⟨tail, rfl, -⟩ | ⟨tail, rfl, htail⟩
    · exact ⟨before, tail, by simp⟩
    · cases tail with
      | nil => exact ⟨before, [], by simp⟩
      | cons d tail =>
        simp only [List.cons_append, List.cons.injEq] at htail
        simp [htail.1] at hc
  · right
    cases rest with
    | nil =>
      cases text with
      | nil => exact List.nil_infix
      | cons d text =>
        simp only [List.nil_append, List.cons_append, List.cons.injEq] at hrest
        simp [hrest.1] at hc
    | cons d rest =>
      simp only [List.cons_append, List.cons.injEq] at hrest
      exact ⟨rest, after, by simp [hrest.2]⟩

/-! ## Separated parts -/

/-- No part between separators holds one. -/
theorem notMem_of_mem_splitOn {c : Char} {text part : List Char} (h : part ∈ text.splitOn c) :
    c ∉ part := by
  induction text generalizing part with
  | nil =>
    rw [List.splitOn_nil, List.mem_singleton] at h
    simp [h]
  | cons d rest ih =>
    rw [List.splitOn_cons_eq_if_modifyHead] at h
    cases hrest : rest.splitOn c with
    | nil => exact absurd hrest (List.splitOn_ne_nil c rest)
    | cons first parts =>
      rw [hrest] at h ih
      by_cases hd : d = c
      · simp only [hd, beq_self_eq_true, if_true, List.mem_cons] at h
        cases h with
        | inl h => simp [h]
        | inr h => exact ih (by simpa using h)
      · simp only [beq_iff_eq, hd, if_false, List.modifyHead_cons, List.mem_cons] at h
        cases h with
        | inl h =>
          have hfirst := ih (List.mem_cons_self (a := first))
          simp [h, hfirst, Ne.symm hd]
        | inr h => exact ih (List.mem_cons_of_mem first h)

theorem mem_intercalate_of_mem {separator part : List Char} {parts : List (List Char)} {d : Char}
    (hpart : part ∈ parts) (hd : d ∈ part) : d ∈ separator.intercalate parts := by
  induction parts with
  | nil => cases hpart
  | cons first parts ih =>
    cases parts with
    | nil =>
      rw [List.mem_singleton] at hpart
      simpa [← hpart] using hd
    | cons second parts =>
      rw [List.intercalate_cons_cons, List.mem_append, List.mem_append]
      cases List.mem_cons.1 hpart with
      | inl h => exact .inl (.inl (h ▸ hd))
      | inr h => exact .inr (ih h)

/-- Between separators there are only the parts. -/
theorem mem_of_mem_intercalate {separator : List Char} {parts : List (List Char)} {d : Char}
    (h : d ∈ separator.intercalate parts) : d ∈ separator ∨ ∃ part ∈ parts, d ∈ part := by
  induction parts with
  | nil => cases h
  | cons first parts ih =>
    cases parts with
    | nil => exact .inr ⟨first, by simp, by simpa using h⟩
    | cons second parts =>
      rw [List.intercalate_cons_cons, List.mem_append, List.mem_append] at h
      rcases h with (h | h) | h
      · exact .inr ⟨first, by simp, h⟩
      · exact .inl h
      · cases ih h with
        | inl h => exact .inl h
        | inr h =>
          obtain ⟨part, hpart, hd⟩ := h
          exact .inr ⟨part, List.mem_cons_of_mem first hpart, hd⟩

/-- What is in a part is in the text. -/
theorem mem_of_mem_splitOn {c d : Char} {text part : List Char} (h : part ∈ text.splitOn c)
    (hd : d ∈ part) : d ∈ text := by
  have hmem := @mem_intercalate_of_mem [c] part (text.splitOn c) d h hd
  rwa [List.intercalate_splitOn] at hmem

/-- Lines with an end each are the parts between the ends, and nothing behind the last. -/
theorem splitOn_lines {c : Char} {lines : List (List Char)} (h : ∀ line ∈ lines, c ∉ line) :
    (lines.flatMap fun line => line ++ [c]).splitOn c = lines ++ [[]] := by
  induction lines with
  | nil => simp
  | cons line lines ih =>
    have hline := h line (by simp)
    have hrest := ih fun other hother => h other (List.mem_cons_of_mem line hother)
    rw [List.flatMap_cons, List.append_assoc, List.singleton_append,
      List.splitOn_append_cons_self_of_not_mem hline, hrest]
    rfl

/-! ## Trimmed texts -/

/-- Not empty, and without white space at either end. -/
structure Trimmed (text : List Char) : Prop where
  nonempty : text ≠ []
  head : ∀ c ∈ text.head?, isWhiteSpace c = false
  last : ∀ c ∈ text.getLast?, isWhiteSpace c = false

theorem dropWhile_of_head {p : Char → Bool} {text : List Char}
    (h : ∀ c ∈ text.head?, p c = false) : text.dropWhile p = text := by
  cases text with
  | nil => rfl
  | cons c rest => simp [h c rfl]

theorem Trimmed.trim_eq {text : List Char} (h : Trimmed text) : trim text = text := by
  rw [trim, dropWhile_of_head h.head, dropWhile_of_head (by simpa using h.last),
    List.reverse_reverse]

theorem trim_cons {c : Char} (hc : isWhiteSpace c = true) (text : List Char) :
    trim (c :: text) = trim text := by
  simp [trim, hc]

theorem mem_of_mem_trim {c : Char} {text : List Char} (h : c ∈ trim text) : c ∈ text := by
  have hend := (List.dropWhile_suffix isWhiteSpace).subset (List.mem_reverse.1 h)
  exact (List.dropWhile_suffix isWhiteSpace).subset (List.mem_reverse.1 hend)

theorem trimmed_trim {text : List Char} (h : trim text ≠ []) : Trimmed (trim text) := by
  have hhead : ∀ {l : List Char}, ∀ c ∈ (l.dropWhile isWhiteSpace).head?,
      isWhiteSpace c = false := by
    intro l c hc
    have hnot := List.head?_dropWhile_not isWhiteSpace l
    rw [Option.mem_def.1 hc] at hnot
    exact hnot
  refine ⟨h, ?_, ?_⟩
  · -- what is cut off at the end leaves the first character in place
    have hprefix : trim text <+: text.dropWhile isWhiteSpace := by
      rw [← List.reverse_suffix, trim, List.reverse_reverse]
      exact List.dropWhile_suffix isWhiteSpace
    intro c hc
    apply hhead c
    obtain ⟨rest, hrest⟩ := hprefix
    rw [← hrest, List.head?_append_of_ne_nil _ h]
    exact hc
  · intro c hc
    rw [trim, List.getLast?_reverse] at hc
    exact hhead c hc

/-! ## Lines -/

theorem notMem_of_mem_lines {text line : List Char} (h : line ∈ lines text) : '\n' ∉ line := by
  rw [lines, List.mem_append, List.mem_map] at h
  rcases h with ⟨part, hpart, rfl⟩ | h
  · have hfree := notMem_of_mem_splitOn (List.dropLast_subset _ hpart)
    unfold stripReturn
    split
    · exact fun hmem => hfree (List.dropLast_subset _ hmem)
    · exact hfree
  · rw [Option.mem_toList, Option.filter_eq_some_iff] at h
    exact notMem_of_mem_splitOn (List.mem_of_getLast? h.1)

/-- Lines with an end each are read back. -/
theorem lines_flatMap {l : List (List Char)}
    (h : ∀ line ∈ l, '\n' ∉ line ∧ line.getLast? ≠ some '\r') :
    lines (l.flatMap fun line => line ++ ['\n']) = l := by
  have hparts := splitOn_lines fun line hline => (h line hline).1
  have hstrip : l.map stripReturn = l := by
    have hline : ∀ line ∈ l, stripReturn line = line := fun line hline => if_neg (h line hline).2
    rw [List.map_congr_left hline, List.map_id']
  rw [lines, hparts]
  simp [hstrip]

theorem lines_flatMap_map {α : Type*} {render : α → List Char} {l : List α}
    (h : ∀ x ∈ l, '\n' ∉ render x ∧ (render x).getLast? ≠ some '\r') :
    lines (l.flatMap fun x => render x ++ ['\n']) = l.map render := by
  have hread := lines_flatMap (List.forall_mem_map.2 h)
  rwa [List.flatMap_map] at hread

/-! ## Suffixes and letter case -/

theorem trimStartMatches_go_suffix (start : List Char) (n : ℕ) (text : List Char) :
    trimStartMatches.go start n text <:+ text := by
  induction n generalizing text with
  | zero => exact List.suffix_refl text
  | succ n ih =>
    unfold trimStartMatches.go stripPrefix
    split
    · next rest hrest =>
      obtain ⟨-, hrest⟩ := Option.ite_none_right_eq_some.1 hrest
      cases hrest
      exact (ih _).trans (List.drop_suffix _ _)
    · exact List.suffix_refl text

theorem trimEndText_initial (stop text : List Char) : trimEndText stop text <+: text := by
  have hsuffix := trimStartMatches_go_suffix stop.reverse text.reverse.length text.reverse
  rw [← List.reverse_suffix, trimEndText, List.reverse_reverse]
  exact hsuffix

theorem mem_of_mem_trimEndText {c : Char} {stop text : List Char} (h : c ∈ trimEndText stop text) :
    c ∈ text :=
  (trimEndText_initial stop text).subset h

@[simp] theorem toAsciiLowercase_nil : toAsciiLowercase [] = [] := rfl

@[simp] theorem toAsciiLowercase_eq_nil {text : List Char} :
    toAsciiLowercase text = [] ↔ text = [] := List.map_eq_nil_iff

/-- A letter that changes becomes a lower-case one. -/
theorem toLower_cases (c : Char) :
    c.toLower = c ∨ 97 ≤ c.toLower.toNat ∧ c.toLower.toNat ≤ 122 := by
  unfold Char.toLower
  split
  · next h =>
    right
    have hlow : 65 ≤ c.val.toNat := UInt32.le_iff_toNat_le.1 h.1
    have hhigh : c.val.toNat ≤ 90 := UInt32.le_iff_toNat_le.1 h.2
    show 97 ≤ (c.val + ('a'.val - 'A'.val)).toNat ∧ (c.val + ('a'.val - 'A'.val)).toNat ≤ 122
    have hstep : ('a'.val - 'A'.val).toNat = 32 := rfl
    rw [UInt32.toNat_add, hstep]
    omega
  · left
    rfl

theorem toLower_of_lt {c : Char} (h : 90 < c.toNat) : c.toLower = c := by
  unfold Char.toLower
  apply dif_neg
  rintro ⟨-, hle⟩
  have hle' : c.toNat ≤ 90 := UInt32.le_iff_toNat_le.1 hle
  omega

theorem toLower_toLower (c : Char) : c.toLower.toLower = c.toLower := by
  rcases toLower_cases c with h | h
  · rw [h, h]
  · exact toLower_of_lt (by omega)

@[simp] theorem toAsciiLowercase_toAsciiLowercase (text : List Char) :
    toAsciiLowercase (toAsciiLowercase text) = toAsciiLowercase text := by
  unfold toAsciiLowercase
  rw [List.map_map]
  exact List.map_congr_left fun c _ => toLower_toLower c

/-- Every other character is where it was. -/
theorem mem_of_mem_toAsciiLowercase {c : Char} {text : List Char} (hc : c.toNat < 97)
    (h : c ∈ toAsciiLowercase text) : c ∈ text := by
  obtain ⟨d, hd, hdc⟩ := List.mem_map.1 h
  rcases toLower_cases d with hsame | hletter
  · rwa [← hdc, hsame]
  · rw [hdc] at hletter
    omega

end Text
