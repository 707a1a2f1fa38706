import Nemor.Classifier.Process
import Nemor.Lib.Walk

/-!
# Ancestors

The ancestors of a process are found among the samples of one pass, which were not read at one
moment. A parent may be missing, and a process id that was used again may even be its own
ancestor. The search goes back sixteen generations at most.
-/

namespace Nemor.Classifier

open Walk

variable (names : UInt32 → Option String) (parents : UInt32 → Option UInt32) (pid : UInt32)

/-- The ancestors in the order in which they are come to. -/
def visitedAncestors : List UInt32 := walk parents 16 pid []

/-- The names that are returned, as a set. -/
def ancestorNameSet : Finset String := (ancestorNames names parents 16 pid []).toFinset

/-- The transitive parents of a process. -/
def Ancestor (ancestor : UInt32) : Prop := Relation.TransGen (Next parents) pid ancestor

/-- The names are those of the ancestors that were sampled. -/
theorem ancestorNames_eq_filterMap (generations : ℕ) (current : UInt32) (seen : List UInt32) :
    ancestorNames names parents generations current seen =
      (walk parents generations current seen).filterMap names := by
  induction generations generalizing current seen with
  | zero => rfl
  | succ generations ih =>
    rw [ancestorNames, walk]
    split_ifs with hseen
    · rfl
    · cases parents current with
      | none => rfl
      | some parent =>
        rw [List.filterMap_cons]
        cases hname : names parent with
        | none => simp [ih, hname]
        | some name => simp [ih, hname]

variable {names parents pid}

/-- **Sixteen generations.** A name is returned if it is that of an ancestor no further away. -/
theorem mem_ancestorNameSet_iff {name : String} :
    name ∈ ancestorNameSet names parents pid ↔
      ∃ distance, 1 ≤ distance ∧ distance ≤ 16 ∧
        ∃ ancestor, after parents distance pid = some ancestor ∧ names ancestor = some name := by
  rw [ancestorNameSet, List.mem_toFinset, ancestorNames_eq_filterMap, List.mem_filterMap]
  simp only [mem_walk_iff]
  constructor
  · rintro ⟨ancestor, ⟨distance, hlow, hhigh, hafter⟩, hname⟩
    exact ⟨distance, hlow, hhigh, ancestor, hafter, hname⟩
  · rintro ⟨distance, hlow, hhigh, ancestor, hafter, hname⟩
    exact ⟨ancestor, ⟨distance, hlow, hhigh, hafter⟩, hname⟩

/-- A process with sixteen ancestors or fewer has none that is further away. -/
theorem mem_ancestorNameSet_of_card_le {ancestors : Finset UInt32}
    (hancestors : ∀ ancestor, Ancestor parents pid ancestor → ancestor ∈ ancestors)
    (hcard : ancestors.card ≤ 16) {name : String} :
    name ∈ ancestorNameSet names parents pid ↔
      ∃ ancestor, Ancestor parents pid ancestor ∧ names ancestor = some name := by
  rw [mem_ancestorNameSet_iff]
  constructor
  · rintro ⟨distance, hlow, -, ancestor, hafter, hname⟩
    exact ⟨ancestor, transGen_next_iff.2 ⟨distance, hlow, hafter⟩, hname⟩
  · rintro ⟨ancestor, hancestor, hname⟩
    obtain ⟨distance, hlow, hhigh, hafter⟩ := exists_after_le_card hancestors hancestor
    exact ⟨distance, hlow, hhigh.trans hcard, ancestor, hafter, hname⟩

/-- **The ancestry of a process**, in whatever way its parents are linked: the names are those of
its transitive parents at most sixteen generations away, hence of all of them if there are at most
sixteen. They are come to in the order of their distance, and only the last one can be one that was
passed before. -/
theorem ancestor_names_exact (names : UInt32 → Option String) (parents : UInt32 → Option UInt32)
    (pid : UInt32) :
    (∀ name, name ∈ ancestorNameSet names parents pid ↔
      ∃ distance, 1 ≤ distance ∧ distance ≤ 16 ∧
        ∃ ancestor, after parents distance pid = some ancestor ∧ names ancestor = some name) ∧
    (∀ ancestors : Finset UInt32,
      (∀ ancestor, Ancestor parents pid ancestor → ancestor ∈ ancestors) →
      ancestors.card ≤ 16 →
      ∀ name, name ∈ ancestorNameSet names parents pid ↔
        ∃ ancestor, Ancestor parents pid ancestor ∧ names ancestor = some name) ∧
    ancestorNameSet names parents pid =
      ((visitedAncestors parents pid).filterMap names).toFinset ∧
    (∀ i ancestor, (visitedAncestors parents pid)[i]? = some ancestor →
      after parents (i + 1) pid = some ancestor) ∧
    (visitedAncestors parents pid).length ≤ 16 ∧
    (pid :: visitedAncestors parents pid).dropLast.Nodup := by
  refine ⟨fun name => mem_ancestorNameSet_iff, fun ancestors hancestors hcard name =>
    mem_ancestorNameSet_of_card_le hancestors hcard, ?_, ?_, length_walk_le 16 pid [],
    (nodup_dropLast_walk 16 pid []).1⟩
  · rw [ancestorNameSet, ancestorNames_eq_filterMap, visitedAncestors]
  · intro i ancestor h
    exact after_of_getElem?_walk h

/-- Seventeen generations, of which the last one is a compositor for games. -/
def longLine (pid : UInt32) : Option UInt32 := if pid < 17 then some (pid + 1) else none

/-- Process 17 is the compositor. -/
def compositorName (pid : UInt32) : Option String := if pid = 17 then some "gamescope" else none

/-- The name of that ancestor is not returned. -/
theorem seventeenth_ancestor_missed :
    Ancestor longLine 0 17 ∧ compositorName 17 = some "gamescope" ∧
      "gamescope" ∉ ancestorNameSet compositorName longLine 0 := by
  have hancestor : Ancestor longLine 0 17 := transGen_next_iff.2 ⟨17, by decide, by decide⟩
  exact ⟨hancestor, by decide, by decide⟩

end Nemor.Classifier
