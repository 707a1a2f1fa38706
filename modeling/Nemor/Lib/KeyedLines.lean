import Mathlib.Data.List.Nodup
import Nemor.Lib.Fallible
import Nemor.Lib.OrderedMap

/-!
# Lines with keys

A text of lines that each give a key a value, or nothing. The pairs of the keys that count are
collected, and no such key may come twice; the other pairs are set aside. Whether a text is
accepted, and what is collected, does not depend on the order of its lines.
-/

namespace KeyedLines

open Fallible

variable {ι κ β ε : Type} {relevant : κ → Bool} {read : ι → Except ε (Option (κ × β))}
  {lines lines' : List ι}

/-! ## The pairs of lines -/

/-- The pair of a line, if it gives one. -/
def fieldOf (read : ι → Except ε (Option (κ × β))) (line : ι) : Option (κ × β) :=
  match read line with
  | .ok field => field
  | .error _ => none

/-- The pairs of the lines with the keys that count. -/
def relevantFields (relevant : κ → Bool) (read : ι → Except ε (Option (κ × β)))
    (lines : List ι) : List (κ × β) :=
  (lines.filterMap (fieldOf read)).filter fun field => relevant field.1

/-- The fields that do not matter. -/
def otherFields (relevant : κ → Bool) (read : ι → Except ε (Option (κ × β)))
    (lines : List ι) : List (κ × β) :=
  (lines.filterMap (fieldOf read)).filter fun field => !relevant field.1

theorem relevantFields_cons (line : ι) : relevantFields relevant read (line :: lines) =
    relevantFields relevant read [line] ++ relevantFields relevant read lines := by
  simp only [relevantFields, ← List.filter_append, ← List.filterMap_append, List.singleton_append]

theorem otherFields_cons (line : ι) : otherFields relevant read (line :: lines) =
    otherFields relevant read [line] ++ otherFields relevant read lines := by
  simp only [otherFields, ← List.filter_append, ← List.filterMap_append, List.singleton_append]

/-- Another order of the lines gives another order of the pairs. -/
theorem relevantFields_perm (h : lines.Perm lines') :
    (relevantFields relevant read lines).Perm (relevantFields relevant read lines') :=
  (h.filterMap _).filter _

/-- Lines without a pair, or with one that does not count, change nothing. -/
theorem relevantFields_append (h : ∀ line ∈ lines', ∀ field, fieldOf read line = some field →
    relevant field.1 = false) :
    relevantFields relevant read (lines ++ lines') = relevantFields relevant read lines := by
  have hnone : relevantFields relevant read lines' = [] := by
    refine List.filter_eq_nil_iff.2 fun field hfield => ?_
    obtain ⟨line, hline, heq⟩ := List.mem_filterMap.1 hfield
    rw [h line hline field heq]
    exact Bool.false_ne_true
  rw [relevantFields, List.filterMap_append, List.filter_append]
  exact (congrArg _ hnone).trans (List.append_nil _)

/-! ## Collecting them -/

section Collect

variable [DecidableEq κ] (relevant) (duplicate : ε)

/-- The collected pairs and the others. -/
abbrev Collected (κ β : Type) := List (κ × β) × List (κ × β)

/-- Take up a field. One that matters may come only once. -/
def addField (collected : Collected κ β) (field : κ × β) : Except ε (Collected κ β) :=
  if relevant field.1 then
    if (collected.1.lookup field.1).isSome then .error duplicate
    else .ok (collected.1 ++ [field], collected.2)
  else .ok (collected.1, collected.2 ++ [field])

/-- What a line adds. -/
def addLine (read : ι → Except ε (Option (κ × β))) (collected : Collected κ β) (line : ι) :
    Except ε (Collected κ β) :=
  match read line with
  | .error e => .error e
  | .ok none => .ok collected
  | .ok (some field) => addField relevant duplicate collected field

variable {relevant duplicate}

/-- The last of the keys is new. -/
theorem nodup_append_singleton {pairs : List (κ × β)} {field : κ × β}
    (hkeys : (pairs.map Prod.fst).Nodup) :
    ((pairs ++ [field]).map Prod.fst).Nodup ↔ (pairs.lookup field.1).isSome = false := by
  have hpresent : (pairs.lookup field.1).isSome = true ↔ field.1 ∈ pairs.map Prod.fst := by simp
  rw [← Bool.not_eq_true, hpresent, List.map_append, List.map_singleton,
    ← List.concat_eq_append, List.nodup_concat]
  exact and_iff_left hkeys

theorem addField_eq_ok {collected after : Collected κ β} {field : κ × β}
    (hkeys : (collected.1.map Prod.fst).Nodup) :
    addField relevant duplicate collected field = .ok after ↔
      after = (collected.1 ++ [field].filter (fun f => relevant f.1),
        collected.2 ++ [field].filter fun f => !relevant f.1) ∧
      (after.1.map Prod.fst).Nodup := by
  unfold addField
  cases hrelevant : relevant field.1 with
  | false =>
    simp only [hrelevant, List.filter_cons, List.filter_nil, Bool.false_eq_true, if_false,
      Bool.not_false, if_true, List.append_nil, Except.ok.injEq]
    exact ⟨fun h => h ▸ ⟨rfl, hkeys⟩, fun h => h.1.symm⟩
  | true =>
    simp only [hrelevant, List.filter_cons, List.filter_nil, if_true, Bool.not_true,
      Bool.false_eq_true, if_false, List.append_nil]
    split
    · rename_i hpresent
      refine iff_of_false nofun ?_
      rintro ⟨rfl, hnodup⟩
      exact absurd ((nodup_append_singleton hkeys).1 hnodup) (by simp [hpresent])
    · rename_i hfresh
      rw [Except.ok.injEq]
      constructor
      · rintro rfl
        exact ⟨rfl, (nodup_append_singleton hkeys).2 (Bool.eq_false_iff.2 hfresh)⟩
      · exact fun h => h.1.symm

/-- One line is read and adds a key that is not there. -/
theorem addLine_eq_ok {collected after : Collected κ β} {line : ι}
    (hkeys : (collected.1.map Prod.fst).Nodup) :
    addLine relevant duplicate read collected line = .ok after ↔
      (read line).isOk = true ∧
      after = (collected.1 ++ relevantFields relevant read [line],
        collected.2 ++ otherFields relevant read [line]) ∧
      (after.1.map Prod.fst).Nodup := by
  cases hread : read line with
  | error e => simp [addLine, hread, Except.isOk, Except.toBool]
  | ok field =>
    have hisOk : (Except.ok field : Except ε (Option (κ × β))).isOk = true := rfl
    rw [and_iff_right hisOk]
    cases field with
    | none =>
      simp only [addLine, relevantFields, otherFields, fieldOf, hread, List.filterMap_cons,
        List.filterMap_nil, List.filter_nil, List.append_nil, Except.ok.injEq]
      exact ⟨fun h => h ▸ ⟨rfl, hkeys⟩, fun h => h.1.symm⟩
    | some field =>
      simp only [addLine, relevantFields, otherFields, fieldOf, hread, List.filterMap_cons,
        List.filterMap_nil]
      exact addField_eq_ok hkeys

/-- **All lines** are read and no key that counts comes twice. -/
theorem foldlM_addLine_eq_ok {collected after : Collected κ β}
    (hkeys : (collected.1.map Prod.fst).Nodup) :
    lines.foldlM (addLine relevant duplicate read) collected = .ok after ↔
      (∀ line ∈ lines, (read line).isOk = true) ∧
      after = (collected.1 ++ relevantFields relevant read lines,
        collected.2 ++ otherFields relevant read lines) ∧
      (after.1.map Prod.fst).Nodup := by
  induction lines generalizing collected with
  | nil =>
    simp only [List.foldlM_nil, relevantFields, otherFields, List.filterMap_nil, List.filter_nil,
      List.append_nil, List.not_mem_nil, false_implies, implies_true, true_and]
    exact ⟨fun h => Except.ok.inj h ▸ ⟨rfl, hkeys⟩, fun h => congrArg Except.ok h.1.symm⟩
  | cons line lines ih =>
    rw [List.foldlM_cons, bind_eq_ok, List.forall_mem_cons, relevantFields_cons, otherFields_cons,
      ← List.append_assoc, ← List.append_assoc]
    constructor
    · rintro ⟨mid, hline, hlines⟩
      obtain ⟨hread, rfl, hmid⟩ := (addLine_eq_ok hkeys).1 hline
      obtain ⟨hreads, hafter, hnodup⟩ := (ih hmid).1 hlines
      exact ⟨⟨hread, hreads⟩, hafter, hnodup⟩
    · rintro ⟨⟨hread, hreads⟩, rfl, hnodup⟩
      -- the keys of the first lines are among those of all
      have hmid : ((collected.1 ++ relevantFields relevant read [line]).map Prod.fst).Nodup := by
        rw [List.map_append] at hnodup
        exact (List.nodup_append.1 hnodup).1
      exact ⟨_, (addLine_eq_ok hkeys).2 ⟨hread, rfl, hmid⟩, (ih hmid).2 ⟨hreads, rfl, hnodup⟩⟩

end Collect

end KeyedLines
