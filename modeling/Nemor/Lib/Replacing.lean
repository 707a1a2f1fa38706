import Nemor.Lib.Text

/-!
# Replacing a marker in a text

A marker is looked for from left to right, and its occurrences are counted without overlap. A text
with a marker in it is what precedes the first occurrence, the marker and what follows.
-/

namespace Text

variable {α : Type}

/-- Two cuts of a text at the same separator: the first occurrence is not behind the other one. -/
theorem append_cons_cases {q : α} {a b a' b' : List α} (ha : q ∉ a)
    (h : a ++ q :: b = a' ++ q :: b') :
    (a' = a ∧ b' = b) ∨ ∃ d, a' = a ++ q :: d ∧ b = d ++ q :: b' := by
  rcases List.append_eq_append_iff.1 h with ⟨e, rfl, he⟩ | ⟨e, rfl, he⟩
  · cases e with
    | nil => exact .inl ⟨List.append_nil a, ((List.cons.inj he).2).symm⟩
    | cons x e =>
      obtain ⟨rfl, rfl⟩ := List.cons.inj he
      exact .inr ⟨e, rfl, rfl⟩
  · cases e with
    | nil => exact .inl ⟨(List.append_nil a').symm, (List.cons.inj he).2⟩
    | cons x e =>
      obtain ⟨rfl, -⟩ := List.cons.inj he
      exact absurd (by simp) ha

/-- `str::matches(..).count()` for a marker that is not empty. -/
def matchCount (marker : List Char) : ℕ → List Char → ℕ
  | _, [] => 0
  | skip + 1, _ :: rest => matchCount marker skip rest
  | 0, c :: rest =>
    if marker.isPrefixOf (c :: rest) then matchCount marker (marker.length - 1) rest + 1
    else matchCount marker 0 rest

/-- `str::replacen(.., 1)`. -/
def replaceFirst (marker replacement text : List Char) : List Char :=
  match splitOnceAt marker text with
  | none => text
  | some (before, behind) => before ++ replacement ++ behind

variable {marker text before behind : List Char}

theorem splitOnceAt_eq_some (h : splitOnceAt marker text = some (before, behind)) :
    text = before ++ marker ++ behind := by
  induction text generalizing before with
  | nil =>
    unfold splitOnceAt at h
    split_ifs at h with hmarker
    cases h
    rw [hmarker]
    rfl
  | cons c rest ih =>
    unfold splitOnceAt at h
    split_ifs at h with hmarker
    · cases h
      obtain ⟨tail, htail⟩ := List.isPrefixOf_iff_prefix.1 hmarker
      rw [← htail, List.drop_left]
      rfl
    · cases hrest : splitOnceAt marker rest with
      | none => simp [hrest] at h
      | some sides =>
        rw [hrest] at h
        cases h
        rw [ih hrest]
        rfl

/-- What is counted is found. -/
theorem exists_of_matchCount (h : matchCount marker 0 text ≠ 0) :
    ∃ before behind, splitOnceAt marker text = some (before, behind) := by
  induction text with
  | nil => exact absurd rfl h
  | cons c rest ih =>
    unfold matchCount at h
    unfold splitOnceAt
    split_ifs at h ⊢ with hmarker
    · exact ⟨_, _, rfl⟩
    · obtain ⟨before, behind, hrest⟩ := ih h
      rw [hrest]
      exact ⟨_, _, rfl⟩

theorem exists_of_infix (h : text = before ++ marker ++ behind) :
    ∃ before' behind', splitOnceAt marker text = some (before', behind') := by
  induction before generalizing text with
  | nil =>
    have hprefix : marker.isPrefixOf text = true := by
      rw [List.isPrefixOf_iff_prefix, h]
      exact List.prefix_append _ _
    cases text with
    | nil =>
      have hmarker : marker = [] := (List.append_eq_nil_iff.1 h.symm).1
      exact ⟨[], [], by rw [splitOnceAt, if_pos hmarker]⟩
    | cons c rest => exact ⟨_, _, by rw [splitOnceAt, if_pos hprefix]⟩
  | cons c before ih =>
    obtain ⟨before', behind', hrest⟩ := ih rfl
    rw [h]
    show ∃ _ _, splitOnceAt marker (c :: (before ++ marker ++ behind)) = _
    unfold splitOnceAt
    split_ifs
    · exact ⟨_, _, rfl⟩
    · rw [hrest]
      exact ⟨_, _, rfl⟩

theorem matchCount_cons (marker : List Char) (c : Char) (rest : List Char) :
    matchCount marker 0 (c :: rest) =
      if marker.isPrefixOf (c :: rest) then matchCount marker (marker.length - 1) rest + 1
      else matchCount marker 0 rest := rfl

theorem matchCount_skip (skip : ℕ) (h : skip ≤ text.length) :
    matchCount marker skip text = matchCount marker 0 (text.drop skip) := by
  induction text generalizing skip with
  | nil =>
    obtain rfl := Nat.le_zero.1 h
    rfl
  | cons c rest ih =>
    cases skip with
    | zero => rfl
    | succ skip => exact ih skip (Nat.le_of_succ_le_succ h)

/-- After the first occurrence the rest is counted. -/
theorem matchCount_of_splitOnceAt (hmarker : marker ≠ [])
    (h : splitOnceAt marker text = some (before, behind)) :
    matchCount marker 0 text = matchCount marker 0 behind + 1 := by
  induction text generalizing before with
  | nil =>
    unfold splitOnceAt at h
    rw [if_neg hmarker] at h
    cases h
  | cons c rest ih =>
    unfold splitOnceAt at h
    rw [matchCount_cons]
    split_ifs at h ⊢ with hprefix
    · cases h
      have hlength := (List.isPrefixOf_iff_prefix.1 hprefix).length_le
      have hpos := List.length_pos_iff.2 hmarker
      rw [matchCount_skip _ (by simp at hlength; omega)]
      cases marker with
      | nil => exact absurd rfl hmarker
      | cons d marker => rfl
    · cases hrest : splitOnceAt marker rest with
      | none => simp [hrest] at h
      | some sides =>
        rw [hrest] at h
        cases h
        exact ih hrest

/-- **A marker that stands in one place only** is found there and counted once. -/
theorem split_of_unique (hmarker : marker ≠ []) (h : text = before ++ marker ++ behind)
    (hunique : ∀ before' behind', text = before' ++ marker ++ behind' → before' = before) :
    splitOnceAt marker text = some (before, behind) ∧ matchCount marker 0 text = 1 := by
  obtain ⟨before', behind', hsplit⟩ := exists_of_infix h
  have htext := splitOnceAt_eq_some hsplit
  obtain rfl := hunique before' behind' htext
  rw [h] at htext
  obtain rfl := List.append_cancel_left htext
  refine ⟨hsplit, ?_⟩
  rw [matchCount_of_splitOnceAt hmarker hsplit, Nat.add_eq_right]
  by_contra hmore
  obtain ⟨middle, last, hsecond⟩ := exists_of_matchCount hmore
  have hagain := hunique (before' ++ marker ++ middle) last (by
    rw [h, splitOnceAt_eq_some hsecond]
    simp only [List.append_assoc])
  have hlength := congrArg List.length hagain
  rw [List.length_append, List.length_append] at hlength
  have hpos := List.length_pos_iff.2 hmarker
  omega

end Text
