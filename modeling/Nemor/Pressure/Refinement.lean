import Mathlib.Data.List.Sort
import Nemor.Lib.Bracket
import Nemor.Pressure.Plan

/-!
# Refining a bracket of tested levels

Between a sustainable and an unsustainable level the next level to test is the middle of the two,
moved down to a multiple of the granularity. There may be none: the middle may move down to the
lower end or below it, or to a level that was tested before. Whether then no other multiple inside
the bracket is left to test is another question.

- §1: the next level
- §2: when no level is left
- §3: refining to the end
- §4: a level that is left over
-/

namespace Nemor.Pressure

open MachineNumbers

/-! ## §1 The next level -/

/-- The level to try between two others. -/
structure RefinementDecision where
  sustainableLowerBytes : UInt64
  unsustainableUpperBytes : UInt64
  granularityBytes : UInt64
  refinementsCompleted : UInt64
  maximumRefinements : UInt64
  testedBytes : List UInt64
  nextTestBytes : Option UInt64
  reason : String
  deriving DecidableEq

/-- The middle of a bracket, moved down to a multiple of the granularity. -/
def alignedMidpoint (lower upper granularity : UInt64) : UInt64 :=
  let span := upper - lower
  let midpoint := lower + span / 2
  midpoint / granularity * granularity

/-- The tested levels in ascending order. -/
def nextRefinement (lower upper : UInt64) (policy : RefinementPolicy) (tested : List UInt64)
    (completed : UInt64) : Except String RefinementDecision :=
  if policy.mode ≠ .deterministicBracket ∨ lower = 0 ∨ upper ≤ lower ∨
      policy.granularityBytes = 0 ∨ lower ∉ tested ∨ upper ∉ tested then
    .error "refinement requires a tested sustainable/unsustainable bracket"
  else
    let aligned := alignedMidpoint lower upper policy.granularityBytes
    let next :=
      if completed < policy.maximumRefinements ∧ lower < aligned ∧ aligned < upper ∧
          aligned ∉ tested then some aligned
      else none
    .ok
      { sustainableLowerBytes := lower
        unsustainableUpperBytes := upper
        granularityBytes := policy.granularityBytes
        refinementsCompleted := completed
        maximumRefinements := policy.maximumRefinements
        testedBytes := tested
        nextTestBytes := next
        reason :=
          if policy.maximumRefinements ≤ completed then
            "maximum deterministic refinement count reached"
          else if next.isSome then "deterministic midpoint inside tested closed bracket"
          else "no untested aligned point remains inside bracket" }

/-- What a call has to be given. -/
structure Refinable (policy : RefinementPolicy) (lower upper : UInt64) (tested : List UInt64) :
    Prop where
  enabled : policy.mode = .deterministicBracket
  positive : lower ≠ 0
  bracket : lower < upper
  granular : policy.granularityBytes ≠ 0
  lowerTested : lower ∈ tested
  upperTested : upper ∈ tested

/-- A level that a refinement may ask for. -/
structure Refines (granularity lower upper : UInt64) (tested : List UInt64) (level : UInt64) :
    Prop where
  aligned : granularity.toNat ∣ level.toNat
  above : lower < level
  below : level < upper
  untested : level ∉ tested

section Next

variable {lower upper granularity completed : UInt64} {policy : RefinementPolicy}
  {tested : List UInt64} {decision : RefinementDecision}

theorem nextRefinement_eq_ok
    (h : nextRefinement lower upper policy tested completed = .ok decision) :
    Refinable policy lower upper tested ∧
      decision.nextTestBytes =
        if completed < policy.maximumRefinements ∧
            lower < alignedMidpoint lower upper policy.granularityBytes ∧
            alignedMidpoint lower upper policy.granularityBytes < upper ∧
            alignedMidpoint lower upper policy.granularityBytes ∉ tested then
          some (alignedMidpoint lower upper policy.granularityBytes)
        else none := by
  unfold nextRefinement at h
  split at h
  · cases h
  · rename_i hrefinable
    simp only [not_or, ne_eq, not_not, UInt64.not_le] at hrefinable
    obtain ⟨hmode, hpositive, hbracket, hgranular, hlower, hupper⟩ := hrefinable
    obtain rfl := Except.ok.inj h
    exact ⟨⟨hmode, hpositive, hbracket, hgranular, hlower, hupper⟩, rfl⟩

/-- None of the operations overflows. -/
theorem toNat_alignedMidpoint (h : lower < upper) :
    (alignedMidpoint lower upper granularity).toNat =
      (lower.toNat + upper.toNat) / 2 / granularity.toNat * granularity.toNat := by
  have hlt := UInt64.lt_iff_toNat_lt.1 h
  have hupper := upper.toNat_lt
  rw [alignedMidpoint, U64.toNat_div_mul, UInt64.toNat_add, UInt64.toNat_div,
    UInt64.toNat_sub_of_le _ _ (UInt64.le_of_lt h)]
  have htwo : (2 : UInt64).toNat = 2 := rfl
  rw [htwo, Nat.mod_eq_of_lt (by omega)]
  congr 2
  omega

theorem alignedMidpoint_lt (h : lower < upper) :
    alignedMidpoint lower upper granularity < upper := by
  have hlt := UInt64.lt_iff_toNat_lt.1 h
  have hle := Nat.div_mul_le_self ((lower.toNat + upper.toNat) / 2) granularity.toNat
  rw [UInt64.lt_iff_toNat_lt, toNat_alignedMidpoint h]
  omega

/-- The level that is asked for is one that may be asked for. -/
theorem refines_of_next (h : nextRefinement lower upper policy tested completed = .ok decision)
    {next : UInt64} (hnext : decision.nextTestBytes = some next) :
    Refines policy.granularityBytes lower upper tested next := by
  obtain ⟨hrefinable, hdecision⟩ := nextRefinement_eq_ok h
  rw [hdecision] at hnext
  split at hnext
  · rename_i hasked
    obtain rfl := Option.some.inj hnext
    refine ⟨?_, hasked.2.1, hasked.2.2.1, hasked.2.2.2⟩
    rw [toNat_alignedMidpoint hrefinable.bracket]
    exact Nat.dvd_mul_left _ _
  · cases hnext

/-! ## §2 When no level is left -/

/-- The greatest multiple of the granularity that is not above the middle of the bracket. -/
structure MidpointLevel (granularity lower upper level : UInt64) : Prop where
  aligned : granularity.toNat ∣ level.toNat
  le_middle : 2 * level.toNat ≤ lower.toNat + upper.toNat
  greatest : lower.toNat + upper.toNat < 2 * (level.toNat + granularity.toNat)

theorem midpointLevel_iff {level : UInt64} (h : lower < upper) (hgranular : granularity ≠ 0) :
    MidpointLevel granularity lower upper level ↔
      level = alignedMidpoint lower upper granularity := by
  have hpos : 0 < granularity.toNat :=
    Nat.pos_of_ne_zero fun hzero => hgranular (UInt64.toNat_inj.1 hzero)
  rw [← UInt64.toNat_inj, toNat_alignedMidpoint h]
  constructor
  · rintro ⟨⟨k, hk⟩, hle, hgreatest⟩
    rw [hk] at hle hgreatest ⊢
    -- the middle lies between two multiples next to each other
    have hquotient : (lower.toNat + upper.toNat) / 2 / granularity.toNat = k := by
      refine Nat.div_eq_of_lt_le ?_ ?_
      · rw [Nat.mul_comm k]
        omega
      · rw [Nat.mul_comm (k + 1), Nat.mul_succ]
        omega
    rw [hquotient, Nat.mul_comm]
  · intro hlevel
    have hle := Nat.div_mul_le_self ((lower.toNat + upper.toNat) / 2) granularity.toNat
    have hlt := Nat.lt_div_mul_add (a := (lower.toNat + upper.toNat) / 2) hpos
    refine ⟨hlevel ▸ Nat.dvd_mul_left _ _, ?_, ?_⟩ <;> omega

/-- A refinement is complete exactly when the greatest multiple up to the middle of the bracket can
    be asked for, or nothing can. -/
theorem nextRefinement_complete_iff
    (h : nextRefinement lower upper policy tested completed = .ok decision)
    (hremaining : completed < policy.maximumRefinements) :
    ((∀ next, decision.nextTestBytes = some next →
        Refines policy.granularityBytes lower upper tested next) ∧
      (decision.nextTestBytes = none →
        ¬ ∃ level, Refines policy.granularityBytes lower upper tested level)) ↔
    (∃ level, MidpointLevel policy.granularityBytes lower upper level ∧ lower < level ∧
      level ∉ tested) ∨
      ∀ level, lower < level → level < upper →
        policy.granularityBytes.toNat ∣ level.toNat → level ∈ tested := by
  obtain ⟨hrefinable, hdecision⟩ := nextRefinement_eq_ok h
  have hnone : decision.nextTestBytes = none ↔ ¬ ∃ level,
      MidpointLevel policy.granularityBytes lower upper level ∧ lower < level ∧ level ∉ tested := by
    simp only [midpointLevel_iff hrefinable.bracket hrefinable.granular, exists_eq_left, hdecision,
      hremaining, alignedMidpoint_lt hrefinable.bracket, true_and]
    split <;> simp_all
  -- nothing refines exactly when every multiple between was tested
  have hall : (¬ ∃ level, Refines policy.granularityBytes lower upper tested level) ↔
      ∀ level, lower < level → level < upper →
        policy.granularityBytes.toNat ∣ level.toNat → level ∈ tested := by
    constructor
    · intro hnot level habove hbelow haligned
      by_contra huntested
      exact hnot ⟨level, haligned, habove, hbelow, huntested⟩
    · rintro hall ⟨level, haligned, habove, hbelow, huntested⟩
      exact huntested (hall level habove hbelow haligned)
  rw [and_iff_right fun next hnext => refines_of_next h hnext, hnone, hall]
  exact or_iff_not_imp_left.symm

end Next

/-! ## §3 Refining to the end -/

/-- A bracket, the tested levels and the refinements so far. -/
structure RefinementState where
  lower : UInt64
  upper : UInt64
  tested : List UInt64
  completed : UInt64

namespace RefinementState

variable {policy : RefinementPolicy} {sustainable : UInt64 → Bool} {s t : RefinementState}
  {level : UInt64}

/-- The bracket of a state. -/
def bracket (s : RefinementState) : SearchBracket := ⟨s.lower.toNat, s.upper.toNat⟩

/-- The test of a level: it becomes one of the ends. -/
def answer (s : RefinementState) (level : UInt64) (sustainable : Bool) : RefinementState where
  lower := if sustainable then level else s.lower
  upper := if sustainable then s.upper else level
  tested := if level ∈ s.tested then s.tested else s.tested.orderedInsert (· ≤ ·) level
  completed := s.completed + 1

theorem mem_tested_answer {answer : Bool} {other : UInt64} :
    other ∈ (s.answer level answer).tested ↔ other = level ∨ other ∈ s.tested := by
  by_cases h : level ∈ s.tested
  · simp only [RefinementState.answer, if_pos h]
    exact ⟨.inr, fun hor => hor.elim (fun heq => heq ▸ h) id⟩
  · simp [RefinementState.answer, if_neg h, List.mem_orderedInsert]

theorem bracket_answer (answer : Bool) :
    (s.answer level answer).bracket = s.bracket.narrow level.toNat answer := by
  cases answer <;> rfl

/-- One refinement, when there is a level to ask for. -/
def refine (policy : RefinementPolicy) (sustainable : UInt64 → Bool) (s : RefinementState) :
    Option RefinementState :=
  match nextRefinement s.lower s.upper policy s.tested s.completed with
  | .ok decision => decision.nextTestBytes.map fun level => s.answer level (sustainable level)
  | .error _ => none

theorem refine_eq_some (h : s.refine policy sustainable = some t) :
    ∃ level, Refinable policy s.lower s.upper s.tested ∧
      Refines policy.granularityBytes s.lower s.upper s.tested level ∧
      t = s.answer level (sustainable level) := by
  unfold refine at h
  split at h
  · rename_i decision hdecision
    obtain ⟨level, hlevel, rfl⟩ := Option.map_eq_some_iff.1 h
    exact ⟨level, (nextRefinement_eq_ok hdecision).1, refines_of_next hdecision hlevel, rfl⟩
  · cases h

/-- A refined bracket can be refined again. -/
theorem refinable_answer {answer : Bool} (h : Refinable policy s.lower s.upper s.tested)
    (hlevel : Refines policy.granularityBytes s.lower s.upper s.tested level) :
    Refinable policy (s.answer level answer).lower (s.answer level answer).upper
      (s.answer level answer).tested where
  enabled := h.enabled
  positive := by
    cases answer with
    | false => exact h.positive
    | true =>
      rintro rfl
      exact absurd hlevel.above (UInt64.not_lt.2 UInt64.zero_le)
  bracket := by
    cases answer with
    | true => exact hlevel.below
    | false => exact hlevel.above
  granular := h.granular
  lowerTested := by
    rw [mem_tested_answer]
    cases answer with
    | true => exact .inl rfl
    | false => exact .inr h.lowerTested
  upperTested := by
    rw [mem_tested_answer]
    cases answer with
    | true => exact .inr h.upperTested
    | false => exact .inl rfl

/-- Refining with any answers ends, and with a bracket that could be refined again. -/
theorem exists_refined (h : Refinable policy s.lower s.upper s.tested) :
    ∃ n final, SearchBracket.Search (refine policy sustainable) n s final ∧
      final.refine policy sustainable = none ∧
      Refinable policy final.lower final.upper final.tested := by
  have hnarrows : ∀ t, SearchBracket.Narrows (refine policy sustainable) bracket t := by
    intro t u hrefine
    obtain ⟨level, -, hlevel, rfl⟩ := refine_eq_some hrefine
    exact ⟨level.toNat, sustainable level,
      ⟨UInt64.lt_iff_toNat_lt.1 hlevel.above, UInt64.lt_iff_toNat_lt.1 hlevel.below⟩,
      bracket_answer _⟩
  obtain ⟨n, -, final, hsearch, hend⟩ := SearchBracket.exists_search_end fun n t _ => hnarrows t
  refine ⟨n, final, hsearch, hend, ?_⟩
  refine hsearch.preserves (I := fun t => Refinable policy t.lower t.upper t.tested) ?_ h
  intro t u ht hrefine
  obtain ⟨level, -, hlevel, rfl⟩ := refine_eq_some hrefine
  exact refinable_answer ht hlevel

end RefinementState

/-- **Refinements.** With refinements remaining, a call asks for a level that can be asked for, and
    for none only when there is none, if and only if the greatest multiple up to the middle can be
    asked for or all multiples inside are tested. Refining with any answers ends with a tested
    bracket. -/
theorem nextRefinement_complete {lower upper completed : UInt64} {policy : RefinementPolicy}
    {tested : List UInt64} {decision : RefinementDecision}
    (h : nextRefinement lower upper policy tested completed = .ok decision)
    (hremaining : completed < policy.maximumRefinements) :
    (((∀ next, decision.nextTestBytes = some next →
        Refines policy.granularityBytes lower upper tested next) ∧
      (decision.nextTestBytes = none →
        ¬ ∃ level, Refines policy.granularityBytes lower upper tested level)) ↔
    (∃ level, MidpointLevel policy.granularityBytes lower upper level ∧ lower < level ∧
      level ∉ tested) ∨
      ∀ level, lower < level → level < upper →
        policy.granularityBytes.toNat ∣ level.toNat → level ∈ tested) ∧
    ∀ sustainable : UInt64 → Bool, ∃ n final,
      SearchBracket.Search (RefinementState.refine policy sustainable) n
        ⟨lower, upper, tested, completed⟩ final ∧
      final.refine policy sustainable = none ∧
      Refinable policy final.lower final.upper final.tested := by
  refine ⟨nextRefinement_complete_iff h hremaining, fun sustainable => ?_⟩
  exact RefinementState.exists_refined (nextRefinement_eq_ok h).1

/-! ## §4 A level that is left over -/

/-- At most three refinements. -/
def threeRefinements (granularityBytes : UInt64) : RefinementPolicy where
  mode := .deterministicBracket
  granularityBytes := granularityBytes
  maximumRefinements := 3

theorem nextRefinement_complete_doubled : ∃ decision,
    nextRefinement 128 256 (threeRefinements 64) [128, 256] 0 = .ok decision ∧
    (decision.nextTestBytes = none → ¬ ∃ level, Refines 64 128 256 [128, 256] level) ∧
    ∀ sustainable : UInt64 → Bool, ∃ n final,
      SearchBracket.Search (RefinementState.refine (threeRefinements 64) sustainable) n
        ⟨128, 256, [128, 256], 0⟩ final ∧
      final.refine (threeRefinements 64) sustainable = none ∧
      Refinable (threeRefinements 64) final.lower final.upper final.tested := by
  obtain ⟨decision, hdecision⟩ : ∃ decision,
      nextRefinement 128 256 (threeRefinements 64) [128, 256] 0 = .ok decision := ⟨_, rfl⟩
  obtain ⟨hcomplete, hends⟩ := nextRefinement_complete hdecision (by decide)
  have hmidpoint : MidpointLevel 64 128 256 192 := ⟨⟨3, rfl⟩, by decide, by decide⟩
  have hsome := hcomplete.2 (.inl ⟨192, hmidpoint, by decide, by decide⟩)
  exact ⟨decision, hdecision, hsome.2, hends⟩

/-- Between 130 and 250 MiB, in steps of 64, the middle moves down to 128 and nothing is asked for,
    but 192 was not tested. -/
theorem untested_level_left : ∃ decision,
    nextRefinement (130 * 1048576) (250 * 1048576) (threeRefinements (64 * 1048576))
      [130 * 1048576, 250 * 1048576] 0 = .ok decision ∧
    decision.nextTestBytes = none ∧
    decision.reason = "no untested aligned point remains inside bracket" ∧
    Refines (64 * 1048576) (130 * 1048576) (250 * 1048576) [130 * 1048576, 250 * 1048576]
      (192 * 1048576) := by
  refine ⟨_, rfl, by decide, by decide, by decide, by decide, by decide, by decide⟩

end Nemor.Pressure
