import Nemor.Damos.Residency
import Nemor.Lib.Bracket
import Nemor.Performance.Evidence

/-!
# The search for the capacity

The next level to test is the middle between the highest sustainable and the lowest failed level,
as long as the two are more than the smallest step apart. Both are taken from the list of the
levels tested so far, and the smallest step is added to the one in 64 bits: near the upper end of
the range the sum does not fit, which stops a build with overflow checks and makes any other
go on with a bound far below both levels.

- §1: planning the next test
- §2: what a plan says of the tested levels
- §3: repeating the test
- §4: a search near the end of the range
-/

namespace Nemor.Performance

open Damos (OnOverflow)
open Damon (Panic)

/-! ## §1 Planning the next test -/

/-- A load that was tried. -/
structure TestedLoadLevel where
  logicalBytes : UInt64
  touchedBytes : UInt64
  sustainable : Bool
  reason : String
  durationMs : UInt64
  healthMetricsAvailable : Bool

/-- What to try next, and what is known. -/
structure CapacitySearchPlan where
  coarseLevels : List UInt64
  refinementLevels : List UInt64
  highestSustainable : Option UInt64
  lowestFailed : Option UInt64
  interpolationAllowed : Bool
  ownedCgroupRequired : Bool
  deriving DecidableEq

/-- Why there is no plan. -/
inductive SearchStop where
  | refused (message : String)
  | panicked (cause : Panic)
  deriving DecidableEq

/-- The largest load that was sustained. -/
def highestSustainable (tested : List TestedLoadLevel) : Option UInt64 :=
  ((tested.filter fun level => level.sustainable).map TestedLoadLevel.logicalBytes).max?

/-- The smallest load that was not. -/
def lowestFailed (tested : List TestedLoadLevel) : Option UInt64 :=
  ((tested.filter fun level => !level.sustainable).map TestedLoadLevel.logicalBytes).min?

/-- The levels to test next. -/
def refinementLevels (build : OnOverflow) (highest lowest : Option UInt64) (minimumStep : UInt64) :
    Except Panic (List UInt64) :=
  match highest, lowest with
  | some low, some high =>
    match build.add low minimumStep with
    | .ok reach => .ok (if reach < high then [low + (high - low) / 2] else [])
    | .error cause => .error cause
  | _, _ => .ok []

/-- The plan after these tests. -/
def searchPlan (tested : List TestedLoadLevel) (levels : List UInt64) : CapacitySearchPlan where
  coarseLevels := tested.map TestedLoadLevel.logicalBytes
  refinementLevels := levels
  highestSustainable := highestSustainable tested
  lowestFailed := lowestFailed tested
  interpolationAllowed := false
  ownedCgroupRequired := true

/-- `plan_capacity_search`. -/
def planCapacitySearch (build : OnOverflow) (tested : List TestedLoadLevel)
    (coarseStep minimumStep : UInt64) : Except SearchStop CapacitySearchPlan :=
  if coarseStep = 0 ∨ minimumStep = 0 ∨ coarseStep < minimumStep then
    .error (.refused "capacity search steps are invalid")
  else
    match refinementLevels build (highestSustainable tested) (lowestFailed tested) minimumStep with
    | .error cause => .error (.panicked cause)
    | .ok levels => .ok (searchPlan tested levels)

/-! ## §2 What a plan says of the tested levels -/

instance lawfulOrderMaxUInt64 : Std.LawfulOrderMax UInt64 where
  max_eq_or a b := by
    change (if a ≤ b then b else a) = a ∨ (if a ≤ b then b else a) = b
    split <;> simp
  max_le_iff a b c := by
    simp only [UInt64.le_iff_toNat_le, UInt64.toNat_max]
    omega

/-- The highest sustainable level is one of the tested, and no sustainable one is above it. -/
theorem highestSustainable_eq_some {tested : List TestedLoadLevel} {low : UInt64} :
    highestSustainable tested = some low ↔
      (∃ level ∈ tested, level.sustainable = true ∧ level.logicalBytes = low) ∧
        ∀ level ∈ tested, level.sustainable = true → level.logicalBytes ≤ low := by
  rw [highestSustainable, List.max?_eq_some_iff, List.forall_mem_map]
  simp [and_assoc]

theorem lowestFailed_eq_some {tested : List TestedLoadLevel} {high : UInt64} :
    lowestFailed tested = some high ↔
      (∃ level ∈ tested, level.sustainable = false ∧ level.logicalBytes = high) ∧
        ∀ level ∈ tested, level.sustainable = false → high ≤ level.logicalBytes := by
  rw [lowestFailed, List.min?_eq_some_iff, List.forall_mem_map]
  simp [and_assoc]

/-- One side was never observed. -/
theorem highestSustainable_eq_none {tested : List TestedLoadLevel} :
    highestSustainable tested = none ↔ ∀ level ∈ tested, level.sustainable = false := by
  simp [highestSustainable, List.filter_eq_nil_iff]

theorem lowestFailed_eq_none {tested : List TestedLoadLevel} :
    lowestFailed tested = none ↔ ∀ level ∈ tested, level.sustainable = true := by
  simp [lowestFailed, List.filter_eq_nil_iff]

/-- The levels leave room for the step: none of the sustainable ones is so high that the step does
    not fit above it, once a level has failed. -/
def Fits (minimumStep : UInt64) (tested : List TestedLoadLevel) : Prop :=
  ∀ failed ∈ tested, failed.sustainable = false →
    ∀ level ∈ tested, level.sustainable = true →
      level.logicalBytes.toNat + minimumStep.toNat < 2 ^ 64

/-- A level above all sustainable and below all failed ones, of which there are some. -/
structure Between (tested : List TestedLoadLevel) (point : UInt64) : Prop where
  sustained : ∃ level ∈ tested, level.sustainable = true
  failed : ∃ level ∈ tested, level.sustainable = false
  above : ∀ level ∈ tested, level.sustainable = true → level.logicalBytes < point
  below : ∀ level ∈ tested, level.sustainable = false → point < level.logicalBytes

/-- Two levels of which one is sustainable and the other is not are close, or there are none. -/
def Settled (minimumStep : UInt64) (tested : List TestedLoadLevel) : Prop :=
  (∀ level ∈ tested, level.sustainable = false) ∨ (∀ level ∈ tested, level.sustainable = true) ∨
    ∃ low ∈ tested, ∃ high ∈ tested, low.sustainable = true ∧ high.sustainable = false ∧
      high.logicalBytes.toNat ≤ low.logicalBytes.toNat + minimumStep.toNat

/-- What a plan should say: no addition overflows, whatever the build, the level to test is between
    the tested ones, and there is none only when they are close. -/
structure Planned (coarseStep minimumStep : UInt64) (tested : List TestedLoadLevel)
    (plan : CapacitySearchPlan) : Prop where
  planned : ∀ build, planCapacitySearch build tested coarseStep minimumStep = .ok plan
  between : ∀ point ∈ plan.refinementLevels, Between tested point
  settled : plan.refinementLevels = [] → Settled minimumStep tested

section Planning

variable {build : OnOverflow} {coarseStep minimumStep low high : UInt64}
  {tested : List TestedLoadLevel} {plan : CapacitySearchPlan}

/-- The steps of a search that is not refused. -/
structure StepsAccepted (coarseStep minimumStep : UInt64) : Prop where
  positive : minimumStep ≠ 0
  ordered : minimumStep ≤ coarseStep

theorem planCapacitySearch_of_accepted (h : StepsAccepted coarseStep minimumStep) :
    planCapacitySearch build tested coarseStep minimumStep =
      match refinementLevels build (highestSustainable tested) (lowestFailed tested)
        minimumStep with
      | .error cause => .error (.panicked cause)
      | .ok levels => .ok (searchPlan tested levels) := by
  have hcoarse : coarseStep ≠ 0 := by
    rintro rfl
    exact h.positive (UInt64.le_antisymm h.ordered UInt64.zero_le)
  exact if_neg (by simp [hcoarse, h.positive, h.ordered])

theorem planned_searchPlan {levels : List UInt64} (h : StepsAccepted coarseStep minimumStep)
    (hlevels : ∀ build, refinementLevels build (highestSustainable tested) (lowestFailed tested)
      minimumStep = .ok levels)
    (hbetween : ∀ point ∈ levels, Between tested point)
    (hsettled : levels = [] → Settled minimumStep tested) :
    Planned coarseStep minimumStep tested (searchPlan tested levels) where
  planned build := by rw [planCapacitySearch_of_accepted h, hlevels]
  between := hbetween
  settled := hsettled

/-- The middle lies inside when the ends are more than a step apart. -/
theorem between_middle (hlow : highestSustainable tested = some low)
    (hhigh : lowestFailed tested = some high) (hgap : low.toNat + 1 < high.toNat) :
    Between tested (low + (high - low) / 2) := by
  obtain ⟨⟨sustained, hsustained, hsustainable, -⟩, hlowest⟩ := highestSustainable_eq_some.1 hlow
  obtain ⟨⟨failed, hfailed, hnot, -⟩, hhighest⟩ := lowestFailed_eq_some.1 hhigh
  have hbound := high.toNat_lt
  have hmiddle : (low + (high - low) / 2).toNat = low.toNat + (high.toNat - low.toNat) / 2 := by
    have htwo : (2 : UInt64).toNat = 2 := rfl
    rw [UInt64.toNat_add, UInt64.toNat_div, htwo,
      UInt64.toNat_sub_of_le _ _ (UInt64.le_iff_toNat_le.2 (by omega)), Nat.mod_eq_of_lt (by omega)]
  refine ⟨⟨sustained, hsustained, hsustainable⟩, ⟨failed, hfailed, hnot⟩, ?_, ?_⟩
  · intro level hlevel h
    have := UInt64.le_iff_toNat_le.1 (hlowest level hlevel h)
    rw [UInt64.lt_iff_toNat_lt, hmiddle]
    omega
  · intro level hlevel h
    have := UInt64.le_iff_toNat_le.1 (hhighest level hlevel h)
    rw [UInt64.lt_iff_toNat_lt, hmiddle]
    omega

/-- The levels of a plan when the step fits. -/
theorem refinementLevels_of_fits (hfits : low.toNat + minimumStep.toNat < 2 ^ 64) :
    refinementLevels build (some low) (some high) minimumStep = .ok
      (if low.toNat + minimumStep.toNat < high.toNat then [low + (high - low) / 2] else []) := by
  have hadd : build.add low minimumStep = .ok (low + minimumStep) :=
    OnOverflow.check_eq_ok.2 ⟨rfl, fun _ => hfits⟩
  have hreach : low + minimumStep < high ↔ low.toNat + minimumStep.toNat < high.toNat := by
    rw [UInt64.lt_iff_toNat_lt, UInt64.toNat_add, Nat.mod_eq_of_lt hfits]
  simp only [refinementLevels, hadd, hreach]

/-- The highest sustainable level is the one that the step has to fit above. -/
theorem fits_iff_highest (hlow : highestSustainable tested = some low)
    (hhigh : lowestFailed tested = some high) :
    Fits minimumStep tested ↔ low.toNat + minimumStep.toNat < 2 ^ 64 := by
  obtain ⟨⟨sustained, hsustained, hsustainable, rfl⟩, hlowest⟩ := highestSustainable_eq_some.1 hlow
  obtain ⟨⟨failed, hfailed, hnot, -⟩, -⟩ := lowestFailed_eq_some.1 hhigh
  constructor
  · exact fun h => h failed hfailed hnot sustained hsustained hsustainable
  · intro h _ _ _ level hlevel hlevel'
    have := UInt64.le_iff_toNat_le.1 (hlowest level hlevel hlevel')
    omega

/-- A search that has seen one side only has nothing to refine. -/
theorem planned_of_one_side (h : StepsAccepted coarseStep minimumStep)
    (hside : highestSustainable tested = none ∨ lowestFailed tested = none) :
    Planned coarseStep minimumStep tested (searchPlan tested []) := by
  refine planned_searchPlan h (fun build => ?_) nofun fun _ => ?_
  · rcases hside with hside | hside <;> rw [hside] <;> cases highestSustainable tested <;> rfl
  · rcases hside with hside | hside
    · exact .inl (highestSustainable_eq_none.1 hside)
    · exact .inr (.inl (lowestFailed_eq_none.1 hside))

/-- With both sides seen there is a level to test as long as they are more than a step apart. -/
theorem planned_of_both_sides (h : StepsAccepted coarseStep minimumStep)
    (hlow : highestSustainable tested = some low) (hhigh : lowestFailed tested = some high)
    (hfits : low.toNat + minimumStep.toNat < 2 ^ 64) :
    Planned coarseStep minimumStep tested (searchPlan tested
      (if low.toNat + minimumStep.toNat < high.toNat then [low + (high - low) / 2] else [])) := by
  have hpositive : minimumStep.toNat ≠ 0 := fun hzero => h.positive (UInt64.toNat_inj.1 hzero)
  refine planned_searchPlan h (fun build => ?_) (fun point hpoint => ?_) fun hnil => ?_
  · rw [hlow, hhigh, refinementLevels_of_fits hfits]
  · split at hpoint
    · obtain rfl := List.mem_singleton.1 hpoint
      exact between_middle hlow hhigh (by omega)
    · cases hpoint
  · split at hnil
    · cases hnil
    · rename_i hclose
      obtain ⟨⟨low, hmem, hsustainable, rfl⟩, -⟩ := highestSustainable_eq_some.1 hlow
      obtain ⟨⟨high, hmem', hnot, rfl⟩, -⟩ := lowestFailed_eq_some.1 hhigh
      exact .inr (.inr ⟨low, hmem, high, hmem', hsustainable, hnot, Nat.le_of_not_lt hclose⟩)

/-- A build that checks returns a plan only when the step fits. -/
theorem fits_of_planned (h : StepsAccepted coarseStep minimumStep)
    (hlow : highestSustainable tested = some low) (hhigh : lowestFailed tested = some high)
    (hplan : planCapacitySearch .panic tested coarseStep minimumStep = .ok plan) :
    low.toNat + minimumStep.toNat < 2 ^ 64 := by
  rw [planCapacitySearch_of_accepted h, hlow, hhigh, refinementLevels] at hplan
  cases hadd : OnOverflow.panic.add low minimumStep with
  | error cause =>
    rw [hadd] at hplan
    cases hplan
  | ok reach => exact (OnOverflow.check_eq_ok.1 hadd).2 rfl

/-- A plan says what it should exactly when the levels leave room for the step. -/
theorem exists_planned_iff (h : StepsAccepted coarseStep minimumStep) :
    (∃ plan, Planned coarseStep minimumStep tested plan) ↔ Fits minimumStep tested := by
  cases hlow : highestSustainable tested with
  | none =>
    refine iff_of_true ⟨_, planned_of_one_side h (.inl hlow)⟩ ?_
    intro _ _ _ level hlevel hsustainable
    exact absurd (highestSustainable_eq_none.1 hlow level hlevel) (by simp [hsustainable])
  | some low =>
    cases hhigh : lowestFailed tested with
    | none =>
      refine iff_of_true ⟨_, planned_of_one_side h (.inr hhigh)⟩ ?_
      intro failed hfailed hnot
      exact absurd (lowestFailed_eq_none.1 hhigh failed hfailed) (by simp [hnot])
    | some high =>
      rw [fits_iff_highest hlow hhigh]
      constructor
      · rintro ⟨plan, hplan⟩
        exact fits_of_planned h hlow hhigh (hplan.planned .panic)
      · exact fun hfits => ⟨_, planned_of_both_sides h hlow hhigh hfits⟩

end Planning

/-! ## §3 Repeating the test -/

/-- The test of a level records this level. Its answers need not be monotone. -/
structure LoadTest where
  level : UInt64 → TestedLoadLevel
  logicalBytes_level : ∀ bytes, (level bytes).logicalBytes = bytes

/-- One test of a level that the plan asks for. -/
def searchOnce (build : OnOverflow) (test : LoadTest) (coarseStep minimumStep : UInt64)
    (tested : List TestedLoadLevel) : Option (List TestedLoadLevel) :=
  match planCapacitySearch build tested coarseStep minimumStep with
  | .ok plan => plan.refinementLevels.head?.map fun point => tested ++ [test.level point]
  | .error _ => none

/-- The two levels that a search is between. -/
def searchBracket (tested : List TestedLoadLevel) : SearchBracket :=
  ⟨((highestSustainable tested).getD 0).toNat, ((lowestFailed tested).getD 0).toNat⟩

section Searching

variable {build : OnOverflow} {test : LoadTest} {coarseStep minimumStep : UInt64}
  {tested after : List TestedLoadLevel}

/-- A step appends a level between the tested ones. -/
theorem searchOnce_eq_some {plan : CapacitySearchPlan}
    (hplan : Planned coarseStep minimumStep tested plan)
    (h : searchOnce build test coarseStep minimumStep tested = some after) :
    ∃ point, Between tested point ∧ after = tested ++ [test.level point] := by
  rw [searchOnce, hplan.planned build] at h
  obtain ⟨point, hpoint, rfl⟩ := Option.map_eq_some_iff.1 h
  exact ⟨point, hplan.between point (List.mem_of_head? hpoint), rfl⟩

theorem settled_of_searchOnce_eq_none {plan : CapacitySearchPlan}
    (hplan : Planned coarseStep minimumStep tested plan)
    (h : searchOnce build test coarseStep minimumStep tested = none) :
    Settled minimumStep tested := by
  rw [searchOnce, hplan.planned build] at h
  exact hplan.settled (List.head?_eq_none_iff.1 (Option.map_eq_none_iff.1 h))

/-- Appending a sustainable level leaves the failed ones, and the other way round. -/
theorem highestSustainable_append {level : TestedLoadLevel} {low : UInt64}
    (hlow : highestSustainable tested = some low) (hlt : low < level.logicalBytes) :
    highestSustainable (tested ++ [level]) =
      some (if level.sustainable then level.logicalBytes else low) := by
  cases hlevel : level.sustainable with
  | false => simpa [highestSustainable, hlevel] using hlow
  | true =>
    refine highestSustainable_eq_some.2 ⟨⟨level, by simp, hlevel, rfl⟩, fun other hother h => ?_⟩
    rcases List.mem_append.1 hother with hother | hother
    · exact UInt64.le_of_lt
        (UInt64.lt_of_le_of_lt ((highestSustainable_eq_some.1 hlow).2 other hother h) hlt)
    · rw [List.mem_singleton.1 hother]
      exact UInt64.le_refl _

theorem lowestFailed_append {level : TestedLoadLevel} {high : UInt64}
    (hhigh : lowestFailed tested = some high) (hlt : level.logicalBytes < high) :
    lowestFailed (tested ++ [level]) =
      some (if level.sustainable then high else level.logicalBytes) := by
  cases hlevel : level.sustainable with
  | true => simpa [lowestFailed, hlevel] using hhigh
  | false =>
    refine lowestFailed_eq_some.2 ⟨⟨level, by simp, hlevel, rfl⟩, fun other hother h => ?_⟩
    rcases List.mem_append.1 hother with hother | hother
    · exact UInt64.le_of_lt
        (UInt64.lt_of_lt_of_le hlt ((lowestFailed_eq_some.1 hhigh).2 other hother h))
    · rw [List.mem_singleton.1 hother]
      exact UInt64.le_refl _

/-- The new level takes the place of the highest sustainable or of the lowest failed one. -/
theorem searchBracket_append {point : UInt64} (h : Between tested point) :
    (searchBracket tested).Inside point.toNat ∧
      searchBracket (tested ++ [test.level point]) =
        (searchBracket tested).narrow point.toNat (test.level point).sustainable := by
  obtain ⟨low, hlow⟩ : ∃ low, highestSustainable tested = some low := by
    obtain ⟨level, hlevel, hsustainable⟩ := h.sustained
    refine Option.ne_none_iff_exists'.1 fun hnone => ?_
    exact absurd (highestSustainable_eq_none.1 hnone level hlevel) (by simp [hsustainable])
  obtain ⟨high, hhigh⟩ : ∃ high, lowestFailed tested = some high := by
    obtain ⟨level, hlevel, hnot⟩ := h.failed
    refine Option.ne_none_iff_exists'.1 fun hnone => ?_
    exact absurd (lowestFailed_eq_none.1 hnone level hlevel) (by simp [hnot])
  have hbelow : low < point := by
    obtain ⟨⟨level, hlevel, hsustainable, rfl⟩, -⟩ := highestSustainable_eq_some.1 hlow
    exact h.above level hlevel hsustainable
  have habove : point < high := by
    obtain ⟨⟨level, hlevel, hnot, rfl⟩, -⟩ := lowestFailed_eq_some.1 hhigh
    exact h.below level hlevel hnot
  have hpoint := test.logicalBytes_level point
  rw [searchBracket, searchBracket, highestSustainable_append hlow (hpoint.symm ▸ hbelow),
    lowestFailed_append hhigh (hpoint.symm ▸ habove), hlow, hhigh, hpoint]
  refine ⟨⟨UInt64.lt_iff_toNat_lt.1 hbelow, UInt64.lt_iff_toNat_lt.1 habove⟩, ?_⟩
  cases (test.level point).sustainable <;> rfl

/-- Levels of which the failed ones are above the sustainable ones and far from the end of the
    range. -/
structure Far (minimumStep : UInt64) (tested : List TestedLoadLevel) : Prop where
  ordered : ∀ low ∈ tested, ∀ high ∈ tested, low.sustainable = true → high.sustainable = false →
    low.logicalBytes < high.logicalBytes
  bounded : ∀ high ∈ tested, high.sustainable = false →
    high.logicalBytes.toNat + minimumStep.toNat < 2 ^ 64

theorem Far.fits (h : Far minimumStep tested) : Fits minimumStep tested := by
  intro high hhigh hnot low hlow hsustainable
  have := UInt64.lt_iff_toNat_lt.1 (h.ordered low hlow high hhigh hsustainable hnot)
  have := h.bounded high hhigh hnot
  omega

theorem Far.append {point : UInt64} (h : Far minimumStep tested) (hpoint : Between tested point) :
    Far minimumStep (tested ++ [test.level point]) where
  ordered := by
    intro low hlow high hhigh hsustainable hnot
    rcases List.mem_append.1 hlow with hlow | hlow <;>
      rcases List.mem_append.1 hhigh with hhigh | hhigh
    · exact h.ordered low hlow high hhigh hsustainable hnot
    · rw [List.mem_singleton.1 hhigh, test.logicalBytes_level]
      exact hpoint.above low hlow hsustainable
    · rw [List.mem_singleton.1 hlow, test.logicalBytes_level]
      exact hpoint.below high hhigh hnot
    · -- one level has one answer
      rw [List.mem_singleton.1 hlow] at hsustainable
      rw [List.mem_singleton.1 hhigh] at hnot
      exact absurd hsustainable (by simp [hnot])
  bounded := by
    intro high hhigh hnot
    rcases List.mem_append.1 hhigh with hhigh | hhigh
    · exact h.bounded high hhigh hnot
    · obtain ⟨failed, hfailed, hfailed'⟩ := hpoint.failed
      have := UInt64.lt_iff_toNat_lt.1 (hpoint.below failed hfailed hfailed')
      have := h.bounded failed hfailed hfailed'
      rw [List.mem_singleton.1 hhigh, test.logicalBytes_level]
      omega

/-- A search that starts far from the end of the range leaves room for the step in every state. -/
theorem Far.fits_search (hsteps : StepsAccepted coarseStep minimumStep)
    (h : Far minimumStep tested) {n : ℕ}
    (hsearch : SearchBracket.Search (searchOnce build test coarseStep minimumStep) n tested after) :
    Fits minimumStep after := by
  refine (hsearch.preserves (I := Far minimumStep) (fun s t hs hnext => ?_) h).fits
  obtain ⟨plan, hplan⟩ := (exists_planned_iff hsteps).2 hs.fits
  obtain ⟨point, hbetween, rfl⟩ := searchOnce_eq_some hplan hnext
  exact hs.append hbetween

/-- **The search converges**: every plan of the search is what it should be, and the search ends
    with close levels, exactly when the levels of every state of it leave room for the step. -/
theorem capacitySearch_converges_iff (build : OnOverflow) (test : LoadTest)
    (tested : List TestedLoadLevel) (h : StepsAccepted coarseStep minimumStep) :
    ((∀ n after,
        SearchBracket.Search (searchOnce build test coarseStep minimumStep) n tested after →
          ∃ plan, Planned coarseStep minimumStep after plan) ∧
      ∃ n final,
        SearchBracket.Search (searchOnce build test coarseStep minimumStep) n tested final ∧
          searchOnce build test coarseStep minimumStep final = none ∧ Settled minimumStep final) ↔
    ∀ n after, SearchBracket.Search (searchOnce build test coarseStep minimumStep) n tested after →
      Fits minimumStep after := by
  constructor
  · rintro ⟨hplanned, -⟩ n after hsearch
    exact (exists_planned_iff h).1 (hplanned n after hsearch)
  · intro hfits
    have hplanned := fun n after hsearch => (exists_planned_iff h).2 (hfits n after hsearch)
    have hnarrows : ∀ n after,
        SearchBracket.Search (searchOnce build test coarseStep minimumStep) n tested after →
          SearchBracket.Narrows (searchOnce build test coarseStep minimumStep) searchBracket
            after := by
      intro n after hsearch next hnext
      obtain ⟨plan, hplan⟩ := hplanned n after hsearch
      obtain ⟨point, hbetween, rfl⟩ := searchOnce_eq_some hplan hnext
      exact ⟨point.toNat, _, searchBracket_append hbetween⟩
    obtain ⟨n, -, final, hsearch, hend⟩ := SearchBracket.exists_search_end hnarrows
    obtain ⟨plan, hplan⟩ := hplanned n final hsearch
    exact ⟨hplanned, n, final, hsearch, hend, settled_of_searchOnce_eq_none hplan hend⟩

end Searching

/-! ## §4 A search near the end of the range -/

/-- Levels up to a limit are sustainable. -/
def testUpTo (limit : UInt64) : LoadTest where
  level bytes :=
    { logicalBytes := bytes
      touchedBytes := bytes
      sustainable := bytes ≤ limit
      reason := "tested"
      durationMs := 1000
      healthMetricsAvailable := true }
  logicalBytes_level _ := rfl

/-- A search for the limit 100 from the levels 64 and 128, in steps of 4. -/
theorem capacitySearch_converges_below : ∃ n final,
    SearchBracket.Search (searchOnce .wrap (testUpTo 100) 16 4) n
      [(testUpTo 100).level 64, (testUpTo 100).level 128] final ∧
    searchOnce .wrap (testUpTo 100) 16 4 final = none ∧ Settled 4 final := by
  have hsteps : StepsAccepted 16 4 := ⟨by decide, by decide⟩
  have hfar : Far 4 [(testUpTo 100).level 64, (testUpTo 100).level 128] := by
    constructor <;> simp [testUpTo]
  exact ((capacitySearch_converges_iff .wrap (testUpTo 100) _ hsteps).2
    fun _ _ hsearch => hfar.fits_search hsteps hsearch).2

/-- With the last two levels of the range a build that checks stops, and any other asks for the
    sustainable one again. -/
theorem lastLevels_not_refined :
    planCapacitySearch .panic
        [(testUpTo 18446744073709551614).level 18446744073709551614,
          (testUpTo 18446744073709551614).level 18446744073709551615] 10 10 =
      .error (.panicked .overflow) ∧
    ∃ plan, planCapacitySearch .wrap
        [(testUpTo 18446744073709551614).level 18446744073709551614,
          (testUpTo 18446744073709551614).level 18446744073709551615] 10 10 = .ok plan ∧
      plan.highestSustainable = some 18446744073709551614 ∧
      plan.refinementLevels = [18446744073709551614] := by
  refine ⟨by decide, _, rfl, by decide, by decide⟩

end Nemor.Performance
