import Nemor.Lib.CutText
import Nemor.Lib.MemberOrder

/-!
# JSON texts

A printer that gives each item and each member a line of its own, indented by two blanks for each
level. Numbers are printed in a way that is left open. Each text shows where it ends, as long as
what follows a number starts with a character that no number has; so a text is that of one
document only.
-/

namespace Json

open Text

/-! ## Strings -/

/-- The letter of a character that has a short escape. -/
def escapeLetter (c : Char) : Option Char :=
  [('"', '"'), ('\\', '\\'), ('\x08', 'b'), ('\t', 't'), ('\n', 'n'), ('\x0c', 'f'),
    ('\r', 'r')].lookup c

/-- A character as it stands between quotation marks. -/
def escape (c : Char) : List Char :=
  match escapeLetter c with
  | some letter => ['\\', letter]
  | none =>
    if c.toNat < 32 then
      ['\\', 'u', '0', '0', (c.toNat / 16).digitChar, (c.toNat % 16).digitChar]
    else [c]

/-- A string with its quotation marks. -/
def quoted (s : String) : List Char := '"' :: (s.toList.flatMap escape ++ ['"'])

/-- The character that an escape starts with or a character stands for itself, and the rest. -/
def unescape : List Char → Option (Char × List Char)
  | '\\' :: 'u' :: '0' :: '0' :: high :: low :: rest => do
    let high ← digitValue 16 high
    let low ← digitValue 16 low
    return (Char.ofNat (high * 16 + low), rest)
  | '\\' :: letter :: rest =>
    ([('"', '"'), ('\\', '\\'), ('b', '\x08'), ('t', '\t'), ('n', '\n'), ('f', '\x0c'),
      ('r', '\r')].lookup letter).map fun c => (c, rest)
  | c :: rest => some (c, rest)
  | [] => none

theorem unescape_escape (c : Char) (rest : List Char) :
    unescape (escape c ++ rest) = some (c, rest) := by
  by_cases hshort : c ∈ ['"', '\\', '\x08', '\t', '\n', '\x0c', '\r']
  · simp only [List.mem_cons, List.not_mem_nil, or_false] at hshort
    rcases hshort with rfl | rfl | rfl | rfl | rfl | rfl | rfl <;> rfl
  · have hnone : escapeLetter c = none := by
      simp only [List.mem_cons, List.not_mem_nil, or_false, not_or] at hshort
      simp [escapeLetter, List.lookup_cons, beq_false_of_ne, hshort]
    by_cases hcontrol : c.toNat < 32
    · -- both hexadecimal digits are read back
      have hc : Char.ofNat (c.toNat / 16 * 16 + c.toNat % 16) = c := by
        rw [Nat.div_add_mod']
        exact Char.ofNat_toNat c
      simp only [escape, hnone, if_pos hcontrol]
      simp only [List.cons_append, List.nil_append, unescape]
      rw [digitValue_digitChar (by omega) le_rfl, digitValue_digitChar (by omega) le_rfl]
      simp [hc]
    · have hc : c ≠ '\\' := by
        rintro rfl
        simp at hshort
      simp only [escape, hnone, if_neg hcontrol, List.cons_append, List.nil_append]
      unfold unescape
      split <;> simp_all

theorem escape_append_inj {c d : Char} {s t : List Char} (h : escape c ++ s = escape d ++ t) :
    c = d ∧ s = t := by
  have := congrArg unescape h
  simpa [unescape_escape] using this

/-- No escape starts with a quotation mark. -/
theorem escape_eq_cons (c : Char) : ∃ first rest, escape c = first :: rest ∧ first ≠ '"' := by
  by_cases hquote : c = '"'
  · exact ⟨'\\', ['"'], by rw [hquote]; rfl, by decide⟩
  · rw [escape]
    split
    · exact ⟨_, _, rfl, by decide⟩
    · split
      · exact ⟨_, _, rfl, by decide⟩
      · exact ⟨c, [], rfl, hquote⟩

/-- A string ends at the first quotation mark that is not escaped. -/
theorem flatMap_escape_inj {xs ys s t : List Char}
    (h : xs.flatMap escape ++ '"' :: s = ys.flatMap escape ++ '"' :: t) : xs = ys ∧ s = t := by
  induction xs generalizing ys with
  | nil =>
    cases ys with
    | nil => simpa using h
    | cons y ys =>
      obtain ⟨first, rest, hy, hne⟩ := escape_eq_cons y
      simp only [List.flatMap_nil, List.nil_append, List.flatMap_cons, hy, List.cons_append,
        List.cons.injEq] at h
      exact absurd h.1.symm hne
  | cons x xs ih =>
    cases ys with
    | nil =>
      obtain ⟨first, rest, hx, hne⟩ := escape_eq_cons x
      simp only [List.flatMap_nil, List.nil_append, List.flatMap_cons, hx, List.cons_append,
        List.cons.injEq] at h
      exact absurd h.1 hne
    | cons y ys =>
      rw [List.flatMap_cons, List.flatMap_cons, List.append_assoc, List.append_assoc] at h
      obtain ⟨rfl, hbehind⟩ := escape_append_inj h
      obtain ⟨rfl, hrest⟩ := ih hbehind
      exact ⟨rfl, hrest⟩

theorem quoted_append_inj {a b : String} {s t : List Char} (h : quoted a ++ s = quoted b ++ t) :
    a = b ∧ s = t := by
  simp only [quoted, List.cons_append, List.append_assoc, List.nil_append, List.cons.injEq,
    true_and] at h
  obtain ⟨hchars, hrest⟩ := flatMap_escape_inj h
  exact ⟨String.toList_inj.1 hchars, hrest⟩

/-! ## Lists of texts -/

/-- A new line at a depth. -/
def newline (level : ℕ) : List Char := '\n' :: List.replicate (2 * level) ' '

/-- Texts in lines of their own, between brackets. -/
def bracket (opening closing : Char) (level : ℕ) : List (List Char) → List Char
  | [] => [opening, closing]
  | text :: texts =>
    opening :: (newline (level + 1) ++ text ++
      texts.flatMap (fun text => ',' :: (newline (level + 1) ++ text)) ++
      newline level ++ [closing])

/-- What may follow a text: nothing, a comma or a new line. -/
def Stops (s : List Char) : Prop := ∀ c ∈ s.head?, c = ',' ∨ c = '\n'

/-- A text that is followed in that way shows where it ends and which one it is among those of some
domain. -/
def Delimited {α : Type} (domain : α → Prop) (text : α → List Char) (a : α) : Prop :=
  ∀ b, domain b → ∀ s t, Stops s → Stops t → text a ++ s = text b ++ t → a = b ∧ s = t

section Bracket

variable {α : Type} {domain : α → Prop} {text : α → List Char} {level : ℕ} {as bs : List α}
  {s t : List Char}

theorem stops_newline (level : ℕ) (s : List Char) : Stops (newline level ++ s) := by
  simp [Stops, newline]

/-- The text behind an item goes on with a comma or ends with a new line. -/
theorem stops_items (text : α → List Char) (level : ℕ) (as : List α) (s : List Char) :
    Stops (as.flatMap (fun a => ',' :: (newline (level + 1) ++ text a)) ++
      (newline level ++ s)) := by
  cases as with
  | nil => simpa using stops_newline level s
  | cons a as => simp [Stops]

theorem items_inj (has : ∀ a ∈ as, Delimited domain text a) (hbs : ∀ b ∈ bs, domain b)
    (h : as.flatMap (fun a => ',' :: (newline (level + 1) ++ text a)) ++ (newline level ++ s) =
      bs.flatMap (fun b => ',' :: (newline (level + 1) ++ text b)) ++ (newline level ++ t)) :
    as = bs ∧ s = t := by
  induction as generalizing bs with
  | nil =>
    cases bs with
    | nil => simpa using h
    | cons b bs => simp [newline] at h
  | cons a as ih =>
    cases bs with
    | nil => simp [newline] at h
    | cons b bs =>
      simp only [List.flatMap_cons, List.cons_append, List.append_assoc, List.cons.injEq, true_and,
        List.append_cancel_left_eq] at h
      obtain ⟨rfl, hbehind⟩ := has a List.mem_cons_self b (hbs b List.mem_cons_self) _ _
        (stops_items text level as s) (stops_items text level bs t) h
      obtain ⟨rfl, hrest⟩ := ih (fun a ha => has a (List.mem_cons_of_mem _ ha))
        (fun b hb => hbs b (List.mem_cons_of_mem _ hb)) hbehind
      exact ⟨rfl, hrest⟩

/-- **Brackets around delimited texts show where they end.** -/
theorem bracket_inj {opening closing : Char} (hclosing : closing ≠ '\n')
    (has : ∀ a ∈ as, Delimited domain text a) (hbs : ∀ b ∈ bs, domain b)
    (h : bracket opening closing level (as.map text) ++ s =
      bracket opening closing level (bs.map text) ++ t) : as = bs ∧ s = t := by
  cases as with
  | nil =>
    cases bs with
    | nil => simpa [bracket] using h
    | cons b bs => simp [bracket, newline, hclosing] at h
  | cons a as =>
    cases bs with
    | nil => simp [bracket, newline, Ne.symm hclosing] at h
    | cons b bs =>
      simp only [List.map_cons, bracket, List.cons_append, List.append_assoc, List.cons.injEq,
        true_and, List.append_cancel_left_eq, List.flatMap_map] at h
      obtain ⟨rfl, hbehind⟩ := has a List.mem_cons_self b (hbs b List.mem_cons_self) _ _
        (stops_items text level as _) (stops_items text level bs _) h
      obtain ⟨rfl, hrest⟩ := items_inj (fun a ha => has a (List.mem_cons_of_mem _ ha))
        (fun b hb => hbs b (List.mem_cons_of_mem _ hb)) hbehind
      exact ⟨rfl, by simpa using hrest⟩

end Bracket

/-! ## Documents -/

section Pretty

variable (numberText : JsonNumber → List Char)

mutual

/-- The text of a value at a depth. -/
def pretty (level : ℕ) : JsonValue → List Char
  | .null => "null".toList
  | .bool true => "true".toList
  | .bool false => "false".toList
  | .number n => numberText n
  | .string s => quoted s
  | .array items => bracket '[' ']' level (prettyItems (level + 1) items)
  | .object fields => bracket '{' '}' level (prettyMembers (level + 1) fields)

/-- The texts of the items. -/
def prettyItems (level : ℕ) : List JsonValue → List (List Char)
  | [] => []
  | v :: items => pretty level v :: prettyItems level items

/-- The texts of the members. -/
def prettyMembers (level : ℕ) : List (String × JsonValue) → List (List Char)
  | [] => []
  | (name, v) :: fields => (quoted name ++ (':' :: ' ' :: pretty level v)) ::
      prettyMembers level fields

end

/-- Different numbers have different texts, which neither start like something else nor go on into
what follows. -/
structure NumberTexts : Prop where
  injective : ∀ n m : JsonNumber, n.Valid → m.Valid → numberText n = numberText m → n = m
  starts : ∀ n, ∃ c rest, numberText n = c :: rest ∧ c ∉ ['n', 't', 'f', '"', '[', '{']
  inside : ∀ n, ∀ c ∈ numberText n, c ≠ ',' ∧ c ≠ '\n'

variable {numberText} {level : ℕ} {s t : List Char}

theorem prettyItems_eq_map (items : List JsonValue) :
    prettyItems numberText level items = items.map (pretty numberText level) := by
  induction items with
  | nil => rfl
  | cons v items ih => rw [prettyItems, ih, List.map_cons]

/-- A member in its line. -/
def memberText (numberText : JsonNumber → List Char) (level : ℕ) (field : String × JsonValue) :
    List Char :=
  quoted field.1 ++ (':' :: ' ' :: pretty numberText level field.2)

theorem prettyMembers_eq_map (fields : List (String × JsonValue)) :
    prettyMembers numberText level fields = fields.map (memberText numberText level) := by
  induction fields with
  | nil => rfl
  | cons field fields ih => rw [prettyMembers, ih, List.map_cons, memberText]

/-- Each kind of value is told by the first character of its text. -/
def kind : JsonValue → ℕ
  | .null => 0
  | .bool true => 1
  | .bool false => 2
  | .string _ => 3
  | .array _ => 4
  | .object _ => 5
  | .number _ => 6

theorem pretty_starts (h : NumberTexts numberText) (level : ℕ) (v : JsonValue) :
    ∃ c rest, pretty numberText level v = c :: rest ∧
      ['n', 't', 'f', '"', '[', '{'].idxOf c = kind v := by
  cases v with
  | null => exact ⟨'n', "ull".toList, rfl, rfl⟩
  | bool b =>
    cases b with
    | true => exact ⟨'t', "rue".toList, rfl, rfl⟩
    | false => exact ⟨'f', "alse".toList, rfl, rfl⟩
  | number n =>
    obtain ⟨c, rest, hn, hc⟩ := h.starts n
    exact ⟨c, rest, hn, List.idxOf_eq_length hc⟩
  | string s => exact ⟨'"', _, rfl, rfl⟩
  | array items =>
    rw [pretty]
    cases prettyItems numberText (level + 1) items with
    | nil => exact ⟨'[', _, rfl, rfl⟩
    | cons text texts => exact ⟨'[', _, rfl, rfl⟩
  | object fields =>
    rw [pretty]
    cases prettyMembers numberText (level + 1) fields with
    | nil => exact ⟨'{', _, rfl, rfl⟩
    | cons text texts => exact ⟨'{', _, rfl, rfl⟩

theorem kind_eq (h : NumberTexts numberText) {v w : JsonValue}
    (heq : pretty numberText level v ++ s = pretty numberText level w ++ t) : kind v = kind w := by
  obtain ⟨c, rest, hv, hkind⟩ := pretty_starts h level v
  obtain ⟨d, rest', hw, hkind'⟩ := pretty_starts h level w
  rw [hv, hw, List.cons_append, List.cons_append, List.cons.injEq] at heq
  rw [← hkind, ← hkind', heq.1]

/-- A number ends where a comma or a new line follows it. -/
theorem number_inj (h : NumberTexts numberText) {n m : JsonNumber} (hn : n.Valid) (hm : m.Valid)
    (hs : Stops s) (ht : Stops t) (heq : numberText n ++ s = numberText m ++ t) :
    n = m ∧ s = t := by
  -- the text of a number is what stands in front of the first such character
  have htake {n : JsonNumber} {s : List Char} (hs : Stops s) :
      (numberText n ++ s).takeWhile (fun c => c ≠ ',' ∧ c ≠ '\n') = numberText n := by
    rw [List.takeWhile_append_of_pos (by simpa using h.inside n)]
    cases s with
    | nil => simp
    | cons c s =>
      have hc := hs c (by simp)
      rw [List.takeWhile_cons_of_neg (by simpa [Classical.or_iff_not_imp_left] using hc),
        List.append_nil]
  have htext : numberText n = numberText m := by rw [← htake hs, heq, htake ht]
  refine ⟨h.injective n m hn hm htext, ?_⟩
  rw [htext] at heq
  exact List.append_cancel_left heq

/-- A member is delimited if its value is. -/
theorem delimited_memberText {field : String × JsonValue}
    (h : Delimited JsonValue.WellFormed (pretty numberText level) field.2) :
    Delimited (fun field : String × JsonValue => field.2.WellFormed)
      (memberText numberText level) field := by
  intro other hother s t hs ht heq
  simp only [memberText, List.append_assoc, List.cons_append] at heq
  obtain ⟨hname, hbehind⟩ := quoted_append_inj heq
  simp only [List.cons.injEq, true_and] at hbehind
  obtain ⟨hvalue, hrest⟩ := h other.2 hother s t hs ht hbehind
  exact ⟨Prod.ext hname hvalue, hrest⟩

/-- **A document is seen from its text**, by induction on the document. -/
theorem delimited_pretty (h : NumberTexts numberText) {v : JsonValue} (hv : v.WellFormed)
    (level : ℕ) : Delimited JsonValue.WellFormed (pretty numberText level) v := by
  induction hv generalizing level with
  | null =>
    intro w hw s t hs ht heq
    -- the first character leaves one kind for the other document
    have hkind := kind_eq h heq
    cases hw with
    | null => simpa [pretty] using heq
    | bool b => cases b <;> simp [kind] at hkind
    | _ => simp [kind] at hkind
  | bool b =>
    intro w hw s t hs ht heq
    have hkind := kind_eq h heq
    cases b <;> cases hw with
    | bool b' => cases b' <;> simp_all [kind, pretty]
    | _ => simp [kind] at hkind
  | number hn =>
    intro w hw s t hs ht heq
    have hkind := kind_eq h heq
    cases hw with
    | number hm =>
      obtain ⟨rfl, hrest⟩ := number_inj h hn hm hs ht (by simpa only [pretty] using heq)
      exact ⟨rfl, hrest⟩
    | bool b => cases b <;> simp [kind] at hkind
    | _ => simp [kind] at hkind
  | string x =>
    intro w hw s t hs ht heq
    have hkind := kind_eq h heq
    cases hw with
    | string y =>
      obtain ⟨rfl, hrest⟩ := quoted_append_inj (by simpa only [pretty] using heq)
      exact ⟨rfl, hrest⟩
    | bool b => cases b <;> simp [kind] at hkind
    | _ => simp [kind] at hkind
  | array _ ih =>
    intro w hw s t hs ht heq
    have hkind := kind_eq h heq
    cases hw with
    | array hitems =>
      simp only [pretty, prettyItems_eq_map] at heq
      -- the items are delimited one level further in
      obtain ⟨rfl, hrest⟩ :=
        bracket_inj (by decide) (fun v hv => ih v hv (level + 1)) hitems heq
      exact ⟨rfl, hrest⟩
    | bool b => cases b <;> simp [kind] at hkind
    | _ => simp [kind] at hkind
  | object _ _ ih =>
    intro w hw s t hs ht heq
    have hkind := kind_eq h heq
    cases hw with
    | object _ hfields =>
      simp only [pretty, prettyMembers_eq_map] at heq
      obtain ⟨rfl, hrest⟩ := bracket_inj (by decide)
        (fun field hfield => delimited_memberText (ih field hfield (level + 1))) hfields heq
      exact ⟨rfl, hrest⟩
    | bool b => cases b <;> simp [kind] at hkind
    | _ => simp [kind] at hkind

end Pretty

/-! ## A printer of whole numbers -/

/-- A whole number in decimal digits. Any other number is given by its bits here. -/
def wholeNumber : JsonNumber → List Char
  | .posInt n => decimal n.toNat
  | .negInt n => '-' :: decimal n.toInt.natAbs
  | .float bits => decimal bits.toNat ++ ['e']

theorem notMem_decimal_of_isDigit {n : ℕ} {c : Char} (hc : c.isDigit = false) : c ∉ decimal n := by
  intro h
  rw [isDigit_of_mem_decimal h] at hc
  exact absurd hc Bool.true_eq_false_eq_False

theorem wholeNumber_injective {n m : JsonNumber} (hn : n.Valid) (hm : m.Valid)
    (h : wholeNumber n = wholeNumber m) : n = m := by
  have hminus (k : ℕ) : '-' ∉ decimal k := notMem_decimal_of_isDigit rfl
  have hmark (k : ℕ) : 'e' ∉ decimal k := notMem_decimal_of_isDigit rfl
  -- a sign in front and a mark behind tell the three kinds apart
  have hsame : ('-' ∈ wholeNumber n ↔ '-' ∈ wholeNumber m) ∧
      ('e' ∈ wholeNumber n ↔ 'e' ∈ wholeNumber m) := by simp [h]
  cases n with
  | posInt a =>
    cases m with
    | posInt b => rw [UInt64.toNat_inj.1 (decimal_injective h)]
    | negInt b => simp [wholeNumber, hminus] at hsame
    | float b => simp [wholeNumber, hmark] at hsame
  | negInt a =>
    cases m with
    | posInt b => simp [wholeNumber, hminus] at hsame
    | negInt b =>
      have habs := decimal_injective (List.cons.inj h).2
      have ha : a.toInt < 0 := Int64.lt_iff_toInt_lt.1 hn
      have hb : b.toInt < 0 := Int64.lt_iff_toInt_lt.1 hm
      rw [Int64.toInt_inj.1 (show a.toInt = b.toInt by omega)]
    | float b => simp [wholeNumber, hminus] at hsame
  | float a =>
    cases m with
    | posInt b => simp [wholeNumber, hmark] at hsame
    | negInt b => simp [wholeNumber, hminus] at hsame
    | float b => rw [UInt64.toNat_inj.1 (decimal_injective (List.append_cancel_right h))]

theorem numberTexts_wholeNumber : NumberTexts wholeNumber where
  injective _ _ hn hm h := wholeNumber_injective hn hm h
  starts n := by
    have hdecimal (k : ℕ) : ∃ c rest, decimal k = c :: rest ∧
        c ∉ ['n', 't', 'f', '"', '[', '{'] := by
      cases hdigits : decimal k with
      | nil => exact absurd hdigits Nat.toDigits_ne_nil
      | cons c rest =>
        have hc : c.isDigit = true := isDigit_of_mem_decimal (hdigits ▸ List.mem_cons_self)
        refine ⟨c, rest, rfl, fun hmem => ?_⟩
        simp only [List.mem_cons, List.not_mem_nil, or_false] at hmem
        rcases hmem with rfl | rfl | rfl | rfl | rfl | rfl <;> exact absurd hc (by decide)
    cases n with
    | posInt n => exact hdecimal n.toNat
    | negInt n => exact ⟨'-', _, rfl, by decide⟩
    | float bits =>
      obtain ⟨c, rest, hdigits, hc⟩ := hdecimal bits.toNat
      exact ⟨c, rest ++ ['e'], by rw [wholeNumber, hdigits, List.cons_append], hc⟩
  inside n c hc := by
    have hcomma (k : ℕ) : ',' ∉ decimal k := notMem_decimal_of_isDigit rfl
    have hline (k : ℕ) : '\n' ∉ decimal k := notMem_decimal_of_isDigit rfl
    cases n <;> constructor <;> rintro rfl <;> simp [wholeNumber, hcomma, hline] at hc

/-- The bytes of the text of a document. -/
def prettyBytes (v : JsonValue) : List UInt8 :=
  (String.ofList (pretty wholeNumber 0 v)).toByteArray.data.toList

theorem prettyBytes_injective {v w : JsonValue} (hv : v.WellFormed) (hw : w.WellFormed)
    (h : prettyBytes v = prettyBytes w) : v = w := by
  have htext : pretty wholeNumber 0 v = pretty wholeNumber 0 w :=
    String.ofList_injective (String.toByteArray_inj.1 (ByteArray.ext (Array.toList_inj.1 h)))
  have hstops : Stops [] := by simp [Stops]
  exact (delimited_pretty numberTexts_wholeNumber hv 0 w hw [] [] hstops hstops (by rw [htext])).1

end Json
