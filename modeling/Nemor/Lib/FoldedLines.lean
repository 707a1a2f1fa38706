import Mathlib.Logic.Function.Basic
import Nemor.Lib.KeyedLines

/-!
# Lines folded into a record

A reader goes over the lines of a text once. A line gives a field or nothing or is refused, and
each field changes the record that is built up, which may be refused as well. When the fields of
different keys do not get in each other's way, the record does not depend on the order of lines
whose keys are distinct.
-/

namespace FoldedLines

open Fallible KeyedLines

variable {ι κ β ε σ : Type} {read : ι → Except ε (Option (κ × β))}
  {update : σ → κ × β → Except ε σ} {lines lines' : List ι} {s t : σ}

/-- What a field does to the record, and a line without one. -/
def absorb (update : σ → κ × β → Except ε σ) (s : σ) : Option (κ × β) → Except ε σ
  | none => .ok s
  | some field => update s field

/-- What a line does to the record. -/
def step (read : ι → Except ε (Option (κ × β))) (update : σ → κ × β → Except ε σ) (s : σ)
    (line : ι) : Except ε σ := do
  let field ← read line
  absorb update s field

/-- The fields of the lines. -/
def fieldsOf (read : ι → Except ε (Option (κ × β))) (lines : List ι) : List (κ × β) :=
  lines.filterMap (fieldOf read)

/-- No line is refused. -/
def Readable (read : ι → Except ε (Option (κ × β))) (lines : List ι) : Prop :=
  ∀ line ∈ lines, ∃ field, read line = .ok field

/-- **The lines are read through, and their fields are folded in.** -/
theorem foldlM_step_eq_ok :
    lines.foldlM (step read update) s = .ok t ↔
      Readable read lines ∧ (fieldsOf read lines).foldlM update s = .ok t := by
  induction lines generalizing s with
  | nil => simp [Readable, fieldsOf]
  | cons line lines ih =>
    rw [List.foldlM_cons, bind_eq_ok, Readable, List.forall_mem_cons]
    cases hread : read line with
    | error e =>
      have hstep : step read update s line = .error e := by
        rw [step, hread]
        rfl
      simp [hstep]
    | ok field =>
      have hstep : step read update s line = absorb update s field := by rw [step, hread, ok_bind]
      have hfield : fieldOf read line = field := by rw [fieldOf, hread]
      rw [hstep]
      cases field with
      | none =>
        have hfields : fieldsOf read (line :: lines) = fieldsOf read lines := by
          simp [fieldsOf, hfield]
        simpa [hfields, Readable, absorb] using ih
      | some field =>
        have hfields : fieldsOf read (line :: lines) = field :: fieldsOf read lines := by
          simp [fieldsOf, hfield]
        rw [hfields, List.foldlM_cons, bind_eq_ok]
        simp only [absorb, ih, Readable, Except.ok.injEq, exists_eq', true_and]
        constructor
        · rintro ⟨u, hu, hlines, hfold⟩
          exact ⟨hlines, u, hu, hfold⟩
        · rintro ⟨hlines, u, hu, hfold⟩
          exact ⟨u, hu, hlines, hfold⟩

/-! ## Other orders -/

/-- A record, or that it was refused. -/
def attempt (update : σ → κ × β → Except ε σ) (s : Option σ) (field : κ × β) : Option σ :=
  s.bind fun s => (update s field).toOption

theorem foldlM_eq_ok_iff {fields : List (κ × β)} :
    fields.foldlM update s = .ok t ↔ fields.foldl (attempt update) (some s) = some t := by
  have hnone : ∀ fields : List (κ × β), fields.foldl (attempt update) none = none := by
    intro fields
    induction fields with
    | nil => rfl
    | cons field fields ih => exact ih
  induction fields generalizing s with
  | nil => simp [pure, Except.pure]
  | cons field fields ih =>
    rw [List.foldlM_cons, bind_eq_ok, List.foldl_cons]
    cases hu : update s field with
    | error e => simp [attempt, hu, hnone, Except.toOption]
    | ok u => simp [attempt, hu, ih, Except.toOption]

/-- Fields of different keys may change places. -/
def Commuting (update : σ → κ × β → Except ε σ) : Prop :=
  ∀ s f g, f.1 ≠ g.1 →
    attempt update (attempt update (some s) f) g = attempt update (attempt update (some s) g) f

theorem foldlM_perm {fields fields' : List (κ × β)} (h : fields.Perm fields')
    (hkeys : (fields.map Prod.fst).Nodup) (hcommuting : Commuting update) :
    fields.foldlM update s = .ok t ↔ fields'.foldlM update s = .ok t := by
  rw [foldlM_eq_ok_iff, foldlM_eq_ok_iff]
  refine iff_of_eq (congrArg (· = some t) (h.foldl_eq' ?_ (some s)))
  intro f hf g hg s
  cases s with
  | none => rfl
  | some s =>
    by_cases hkey : f.1 = g.1
    · -- the keys are distinct, so that it is one and the same field
      rw [List.inj_on_of_nodup_map hkeys hf hg hkey]
    · exact hcommuting s f g hkey

/-- **Another order of lines with distinct keys gives the same record.** -/
theorem foldlM_step_perm (h : lines.Perm lines')
    (hkeys : ((fieldsOf read lines).map Prod.fst).Nodup) (hcommuting : Commuting update) :
    lines.foldlM (step read update) s = .ok t ↔ lines'.foldlM (step read update) s = .ok t := by
  have hreadable : Readable read lines ↔ Readable read lines' :=
    forall_congr' fun line => imp_congr h.mem_iff Iff.rfl
  have hfold := foldlM_perm (s := s) (t := t) (h.filterMap (fieldOf read)) hkeys hcommuting
  rw [foldlM_step_eq_ok, foldlM_step_eq_ok, hreadable]
  exact and_congr_right fun _ => hfold

/-! ## Tables -/

section Tables

variable [DecidableEq κ] {ε : Type}

/-- A table takes each field; a later one of the same key replaces an earlier one. -/
def insertField (m : κ → Option β) (field : κ × β) : Except ε (κ → Option β) :=
  .ok (Function.update m field.1 (some field.2))

/-- What a key is given last. -/
def lastValue (fields : List (κ × β)) (key : κ) : Option β := fields.reverse.lookup key

@[simp] theorem lastValue_nil (key : κ) : lastValue ([] : List (κ × β)) key = none := rfl

/-- The first field counts only if the key is not given again. -/
theorem lastValue_cons (field : κ × β) (fields : List (κ × β)) (key : κ) :
    lastValue (field :: fields) key =
      (lastValue fields key).or (if field.1 = key then some field.2 else none) := by
  rw [lastValue, lastValue, List.reverse_cons, List.lookup_append]
  congr 1
  by_cases hkey : field.1 = key
  · rw [← hkey, List.lookup_cons_self, if_pos rfl]
  · have hne : (key == field.1) = false := by simpa using Ne.symm hkey
    rw [List.lookup_cons, hne, if_neg hkey]
    rfl

theorem foldlM_insertField (fields : List (κ × β)) (table : κ → Option β) :
    List.foldlM (m := Except ε) insertField table fields =
      .ok fun key => (lastValue fields key).or (table key) := by
  induction fields generalizing table with
  | nil => rfl
  | cons field fields ih =>
    rw [List.foldlM_cons, insertField, ok_bind, ih]
    congr 1
    funext key
    rw [lastValue_cons, Option.or_assoc]
    congr 1
    by_cases hkey : key = field.1
    · simp [hkey]
    · simp [hkey, Ne.symm hkey]

theorem commuting_insertField :
    Commuting (insertField : (κ → Option β) → κ × β → Except ε (κ → Option β)) := by
  intro table f g hkey
  simp only [attempt, insertField, Option.bind_some, Except.toOption]
  rw [Function.update_comm hkey]

theorem mem_of_lastValue {fields : List (κ × β)} {key : κ} {v : β}
    (h : lastValue fields key = some v) : (key, v) ∈ fields := by
  induction fields with
  | nil => cases h
  | cons field fields ih =>
    rw [lastValue_cons, Option.or_eq_some_iff] at h
    rcases h with h | ⟨-, h⟩
    · exact List.mem_cons_of_mem _ (ih h)
    · split at h
      · next hkey =>
        rw [← hkey, ← Option.some.inj h]
        exact List.mem_cons_self
      · cases h

/-- A key has a last value when it has one at all. -/
theorem lastValue_isSome_iff {fields : List (κ × β)} {key : κ} :
    (lastValue fields key).isSome = true ↔ ∃ v, (key, v) ∈ fields := by
  rw [lastValue, List.lookup_isSome_iff]
  simp

end Tables

end FoldedLines
