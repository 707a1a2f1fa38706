import Nemor.Capacity.Evaluate

/-!
# The figures of an evaluation among themselves

An evaluation reports three percentages. The two bounds are medians of the bounds of the pairs,
rounded outwards; the demonstrated gain is the quotient of two medians, of what the baselines
and what the capacities have shown, rounded towards zero. The median pair of the one need not
be the median pair of the other.
-/

namespace Nemor.Capacity

open MachineNumbers

/-! ## §1 Orderly evidence -/

/-- No load that a run has sustained exceeds its first unsustainable one. -/
def CapacityCompositionRunEvidence.Orderly (run : CapacityCompositionRunEvidence) : Prop :=
  ∀ low ∈ run.loadsOf .sustainable, ∀ high, (run.loadsOf .unsustainableHealth).head? = some high →
    low.toNat ≤ high.toNat

/-- The highest sustainable load of an orderly run is not above its first unsustainable one. -/
theorem CapacityCompositionRunEvidence.Orderly.lower_le {run : CapacityCompositionRunEvidence}
    (h : run.Orderly) (ceiling : UInt64) {high : UInt64}
    (hhigh : (boundary run ceiling).firstUnsustainableBytes = some high) :
    ((boundary run ceiling).highestSustainableBytes.getD 0).toNat ≤ high.toNat := by
  show (((run.loadsOf .sustainable).argmax UInt64.toNat).getD 0).toNat ≤ high.toNat
  cases hmax : (run.loadsOf .sustainable).argmax UInt64.toNat with
  | none => exact Nat.zero_le _
  | some low => exact h low (List.argmax_mem hmax) high hhigh

/-- What a pair of orderly runs is known to be. -/
structure CapacityPairEvaluation.Orderly (p : CapacityPairEvaluation) : Prop where
  baseline : ∀ high, p.baselineUpperBoundBytes = some high →
    p.baselineLowerBoundBytes.toNat ≤ high.toNat
  capacity : ∀ high, p.capacityUpperBoundBytes = some high →
    p.capacityLowerBoundBytes.toNat ≤ high.toNat
  conservative : p.conservativeGainLowerBoundPercent = p.baselineUpperBoundBytes.bind fun high =>
    percentFloor ((p.capacityLowerBoundBytes.toNat : ℤ) - high.toNat) high
  possible : p.possibleGainUpperBoundPercent = p.capacityUpperBoundBytes.bind fun high =>
    percentCeil ((high.toNat : ℤ) - p.baselineLowerBoundBytes.toNat) p.baselineLowerBoundBytes

section Pairs

variable {runs : List CapacityCompositionRunEvidence} {ceiling : UInt64} {repetition : ℕ}
  {p : CapacityPairEvaluation} {low high : Int64}

theorem pairOf_orderly (horderly : ∀ run ∈ runs, run.Orderly)
    (h : pairOf runs ceiling repetition = some p) : p.Orderly := by
  obtain ⟨b, c, hb, hc, rfl⟩ := pairOf_some h
  exact ⟨fun _ => (horderly b (findRun_some hb).1).lower_le ceiling,
    fun _ => (horderly c (findRun_some hc).1).lower_le ceiling, rfl, rfl⟩

/-- The conservative bound of a pair is the rounded gain of its lower capacity over its upper
    baseline. -/
theorem CapacityPairEvaluation.Orderly.conservative_le (h : p.Orderly)
    (hlow : p.conservativeGainLowerBoundPercent = some low) :
    ∃ upper : UInt64, p.baselineLowerBoundBytes.toNat ≤ upper.toNat ∧ 0 < upper.toNat ∧
      (low.toInt : ℚ) ≤ gain upper.toNat p.capacityLowerBoundBytes.toNat := by
  rw [h.conservative] at hlow
  obtain ⟨upper, hupper, hfloor⟩ := Option.bind_eq_some_iff.1 hlow
  have hbound := percentFloor_le hfloor
  push_cast at hbound
  refine ⟨upper, h.baseline upper hupper, Nat.pos_of_ne_zero fun hzero => ?_, hbound⟩
  rw [percentFloor, if_pos hzero] at hfloor
  cases hfloor

/-- The possible bound of a pair is the rounded gain of its upper capacity over its lower
    baseline. -/
theorem CapacityPairEvaluation.Orderly.le_possible (h : p.Orderly)
    (hhigh : p.possibleGainUpperBoundPercent = some high) :
    ∃ upper : UInt64, p.capacityLowerBoundBytes.toNat ≤ upper.toNat ∧
      0 < p.baselineLowerBoundBytes.toNat ∧
      gain p.baselineLowerBoundBytes.toNat upper.toNat ≤ (high.toInt : ℚ) := by
  rw [h.possible] at hhigh
  obtain ⟨upper, hupper, hceil⟩ := Option.bind_eq_some_iff.1 hhigh
  have hbound := le_percentCeil hceil
  push_cast at hbound
  exact ⟨upper, h.capacity upper hupper, by exact_mod_cast percentCeil_pos hceil, hbound⟩

theorem CapacityPairEvaluation.Orderly.conservative_le_possible (h : p.Orderly)
    (hlow : p.conservativeGainLowerBoundPercent = some low)
    (hhigh : p.possibleGainUpperBoundPercent = some high) : low.toInt ≤ high.toInt := by
  obtain ⟨baseline, hbaseline, -, hbelow⟩ := h.conservative_le hlow
  obtain ⟨capacity, hcapacity, hpos, habove⟩ := h.le_possible hhigh
  have hmono : gain baseline.toNat p.capacityLowerBoundBytes.toNat ≤
      gain p.baselineLowerBoundBytes.toNat capacity.toNat :=
    gain_mono (by exact_mod_cast hpos) (by exact_mod_cast hbaseline) (by positivity)
      (by exact_mod_cast hcapacity)
  exact_mod_cast hbelow.trans (hmono.trans habove)

end Pairs

/-! ## §2 The bounds -/

section Bounds

variable {runs : List CapacityCompositionRunEvidence} {ceiling : UInt64} {low high : Int64}

theorem medianBounds_ordered (horderly : ∀ run ∈ runs, run.Orderly)
    (hlow : medianBound ((List.range 3).filterMap (pairOf runs ceiling))
      CapacityPairEvaluation.conservativeGainLowerBoundPercent = some low)
    (hhigh : medianBound ((List.range 3).filterMap (pairOf runs ceiling))
      CapacityPairEvaluation.possibleGainUpperBoundPercent = some high) :
    low.toInt ≤ high.toInt := by
  obtain ⟨lows, hlows, -, hlow⟩ := medianBound_some hlow
  obtain ⟨highs, hhighs, -, hhigh⟩ := medianBound_some hhigh
  refine Median.median_le_median hlow hhigh ?_ hlows hhighs
  intro r l u hl hu
  -- both bounds come from the pair of the repetition
  obtain ⟨p, hp, hl⟩ := Option.bind_eq_some_iff.1 hl
  obtain ⟨p', hp', hu⟩ := Option.bind_eq_some_iff.1 hu
  obtain rfl : p = p' := Option.some.inj (hp.symm.trans hp')
  exact (pairOf_orderly horderly hp).conservative_le_possible hl hu

/-- When a bound has a median, every pair has it. -/
theorem exists_bound_of_medianBound {pairs : List CapacityPairEvaluation}
    {bound : CapacityPairEvaluation → Option Int64} {v : Int64} (hthree : pairs.length = 3)
    (h : medianBound pairs bound = some v) {p : CapacityPairEvaluation} (hp : p ∈ pairs) :
    ∃ value, bound p = some value := by
  unfold medianBound at h
  dsimp only at h
  split at h
  · next hlength =>
    rw [← Option.ne_none_iff_exists']
    intro hnone
    have hlt := List.length_filterMap_lt_length_iff_exists.2 ⟨p, hp, hnone⟩
    omega
  · cases h

end Bounds

/-! ## §3 The demonstrated gain -/

/-- A whole number below a quotient is below the quotient rounded towards zero. -/
theorem le_tdiv {x n d : ℤ} (hd : 0 < d) (h : x * d ≤ n) : x ≤ n.tdiv d := by
  have hfloor := Int.le_ediv_of_mul_le hd h
  rw [Int.tdiv_eq_ediv, Int.sign_eq_one_of_pos hd]
  split <;> omega

theorem tdiv_le {x n d : ℤ} (hd : 0 < d) (h : n ≤ x * d) : n.tdiv d ≤ x := by
  have hneg := le_tdiv (x := -x) (n := -n) hd (by rw [neg_mul]; omega)
  rw [Int.neg_tdiv] at hneg
  omega

/-- The percentage that is reported as demonstrated, before it is put into 64 bits. -/
def demonstratedPercent (baseline capacity : UInt64) : ℤ :=
  (((capacity.toNat : ℤ) - baseline.toNat) * 100).tdiv baseline.toNat

theorem le_demonstratedPercent {baseline capacity : UInt64} {x : ℤ} (hpos : 0 < baseline.toNat)
    (h : (x : ℚ) ≤ gain baseline.toNat capacity.toNat) :
    x ≤ demonstratedPercent baseline capacity := by
  have hpos' : (0 : ℚ) < baseline.toNat := by exact_mod_cast hpos
  apply le_tdiv (by exact_mod_cast hpos)
  rw [gain, div_mul_eq_mul_div, le_div_iff₀ hpos'] at h
  exact_mod_cast h

theorem demonstratedPercent_le {baseline capacity : UInt64} {x : ℤ} (hpos : 0 < baseline.toNat)
    (h : gain baseline.toNat capacity.toNat ≤ (x : ℚ)) :
    demonstratedPercent baseline capacity ≤ x := by
  have hpos' : (0 : ℚ) < baseline.toNat := by exact_mod_cast hpos
  apply tdiv_le (by exact_mod_cast hpos)
  rw [gain, div_mul_eq_mul_div, div_le_iff₀ hpos'] at h
  exact_mod_cast h

section Demonstrated

variable {pairs : List CapacityPairEvaluation} {baseline capacity : UInt64}

/-- Some pair has at most the median capacity over at least the median baseline, so its
    conservative bound is below the demonstrated gain. -/
theorem exists_conservative_le (horderly : ∀ p ∈ pairs, p.Orderly)
    (hbounds : ∀ p ∈ pairs, ∃ low, p.conservativeGainLowerBoundPercent = some low)
    (hb : medianU64 (pairs.map CapacityPairEvaluation.baselineLowerBoundBytes) = some baseline)
    (hc : medianU64 (pairs.map CapacityPairEvaluation.capacityLowerBoundBytes) = some capacity)
    (hpos : 0 < baseline.toNat) :
    ∃ p ∈ pairs, ∃ low, p.conservativeGainLowerBoundPercent = some low ∧
      low.toInt ≤ demonstratedPercent baseline capacity := by
  obtain ⟨p, hp, hcapacity, hbaseline⟩ := Median.exists_le_ge hc hb
  obtain ⟨low, hlow⟩ := hbounds p hp
  obtain ⟨upper, hupper, -, hbelow⟩ := (horderly p hp).conservative_le hlow
  refine ⟨p, hp, low, hlow, le_demonstratedPercent hpos (hbelow.trans ?_)⟩
  exact gain_mono (by exact_mod_cast hpos) (by exact_mod_cast hbaseline.trans hupper)
    (by positivity) (by exact_mod_cast hcapacity)

/-- Some pair has at least the median capacity over at most the median baseline, so its possible
    bound is above the demonstrated gain. -/
theorem exists_le_possible (horderly : ∀ p ∈ pairs, p.Orderly)
    (hbounds : ∀ p ∈ pairs, ∃ high, p.possibleGainUpperBoundPercent = some high)
    (hb : medianU64 (pairs.map CapacityPairEvaluation.baselineLowerBoundBytes) = some baseline)
    (hc : medianU64 (pairs.map CapacityPairEvaluation.capacityLowerBoundBytes) = some capacity)
    (hpos : 0 < baseline.toNat) :
    ∃ p ∈ pairs, ∃ high, p.possibleGainUpperBoundPercent = some high ∧
      demonstratedPercent baseline capacity ≤ high.toInt := by
  obtain ⟨p, hp, hbaseline, hcapacity⟩ := Median.exists_le_ge hb hc
  obtain ⟨high, hhigh⟩ := hbounds p hp
  obtain ⟨upper, hupper, hlower, habove⟩ := (horderly p hp).le_possible hhigh
  refine ⟨p, hp, high, hhigh, demonstratedPercent_le hpos (le_trans ?_ habove)⟩
  exact gain_mono (by exact_mod_cast hlower) (by exact_mod_cast hbaseline) (by positivity)
    (by exact_mod_cast hcapacity.trans hupper)

end Demonstrated

/-! ## §4 The figures of an evaluation -/

/-- What one would expect of the figures. -/
structure FiguresConsistent (e : CapacityEvaluation) : Prop where
  complete : e.demonstratedCapacityGainPercent.isSome = true → e.state = .complete
  ordered : ∀ low shown high, e.conservativeGainLowerBoundPercent = some low →
    e.demonstratedCapacityGainPercent = some shown →
    e.possibleGainUpperBoundPercent = some high → low ≤ shown ∧ shown ≤ high

/-- How the figures of orderly evidence are related: the bounds are ordered, and the demonstrated
    gain lies between bounds of single pairs. -/
structure FiguresBounded (e : CapacityEvaluation) : Prop where
  ordered : ∀ low high, e.conservativeGainLowerBoundPercent = some low →
    e.possibleGainUpperBoundPercent = some high → low ≤ high
  between : ∀ low shown high, e.conservativeGainLowerBoundPercent = some low →
    e.demonstratedCapacityGainPercent = some shown →
    e.possibleGainUpperBoundPercent = some high →
    (∃ p ∈ e.pairs, ∃ value, p.conservativeGainLowerBoundPercent = some value ∧ value ≤ shown) ∧
    ∃ p ∈ e.pairs, ∃ value, p.possibleGainUpperBoundPercent = some value ∧ shown ≤ value

section Evaluation

variable {composition : CapacityCompositionExecutionEvidence} {ceiling : UInt64} {shown : Int64}

theorem demonstrated_eq_some
    (h : (evaluate composition ceiling).2.demonstratedCapacityGainPercent = some shown) :
    (evaluate composition ceiling).2.state ≠ .censored ∧ ∃ baseline capacity,
      medianU64 ((evaluate composition ceiling).2.pairs.map
        CapacityPairEvaluation.baselineLowerBoundBytes) = some baseline ∧
      medianU64 ((evaluate composition ceiling).2.pairs.map
        CapacityPairEvaluation.capacityLowerBoundBytes) = some capacity ∧
      0 < baseline.toNat ∧ shown = Int64.ofInt (demonstratedPercent baseline capacity) := by
  unfold evaluate at h ⊢
  dsimp only at h ⊢
  split at h
  · next baseline capacity hb hc =>
    obtain ⟨⟨hpos, huncensored⟩, hshown⟩ := Option.ite_none_right_eq_some.1 h
    refine ⟨?_, baseline, capacity, hb, hc, hpos, (Option.some.inj hshown).symm⟩
    rw [huncensored]
    split <;> simp
  · cases h

theorem evaluate_between (horderly : ∀ run ∈ composition.runs, run.Orderly) {low high : Int64}
    (hlow : (evaluate composition ceiling).2.conservativeGainLowerBoundPercent = some low)
    (hshown : (evaluate composition ceiling).2.demonstratedCapacityGainPercent = some shown)
    (hhigh : (evaluate composition ceiling).2.possibleGainUpperBoundPercent = some high) :
    (∃ p ∈ (evaluate composition ceiling).2.pairs, ∃ value,
      p.conservativeGainLowerBoundPercent = some value ∧ value ≤ shown) ∧
    ∃ p ∈ (evaluate composition ceiling).2.pairs, ∃ value,
      p.possibleGainUpperBoundPercent = some value ∧ shown ≤ value := by
  obtain ⟨-, baseline, capacity, hb, hc, hpos, rfl⟩ := demonstrated_eq_some hshown
  obtain ⟨hvalid, hlow⟩ := Option.ite_none_right_eq_some.1 hlow
  obtain ⟨-, hhigh⟩ := Option.ite_none_right_eq_some.1 hhigh
  have hthree : (evaluate composition ceiling).2.pairs.length = 3 := by
    have hlength := (Bool.and_eq_true_iff.1 hvalid).1
    exact beq_iff_eq.1 hlength
  have hpairs : ∀ p ∈ (evaluate composition ceiling).2.pairs, p.Orderly := by
    intro p hp
    obtain ⟨r, -, hr⟩ := List.mem_filterMap.1 hp
    exact pairOf_orderly horderly hr
  obtain ⟨p, hp, l, hl, hle⟩ := exists_conservative_le hpairs
    (fun _ => exists_bound_of_medianBound hthree hlow) hb hc hpos
  obtain ⟨p', hp', u, hu, hge⟩ := exists_le_possible hpairs
    (fun _ => exists_bound_of_medianBound hthree hhigh) hb hc hpos
  -- between two 64-bit numbers nothing wraps
  have hfits : (Int64.ofInt (demonstratedPercent baseline capacity)).toInt =
      demonstratedPercent baseline capacity :=
    Int64.toInt_ofInt_of_le (l.le_toInt.trans hle) (hge.trans_lt u.toInt_lt)
  refine ⟨⟨p, hp, l, hl, ?_⟩, p', hp', u, hu, ?_⟩
  · rw [Int64.le_iff_toInt_le, hfits]
    exact hle
  · rw [Int64.le_iff_toInt_le, hfits]
    exact hge

end Evaluation

/-- **Figures.** A demonstrated gain is not reported of a censored evaluation. For orderly
    evidence the conservative bound does not exceed the possible one, and where all three are
    reported the demonstrated gain reaches the conservative bound of some pair and does not
    exceed the possible bound of some pair. -/
theorem evaluate_figures (composition : CapacityCompositionExecutionEvidence) (ceiling : UInt64) :
    ((evaluate composition ceiling).2.demonstratedCapacityGainPercent.isSome = true →
      (evaluate composition ceiling).2.state ≠ .censored) ∧
    ((∀ run ∈ composition.runs, run.Orderly) →
      FiguresBounded (evaluate composition ceiling).2) := by
  constructor
  · intro hsome
    obtain ⟨shown, hshown⟩ := Option.isSome_iff_exists.1 hsome
    exact (demonstrated_eq_some hshown).1
  · intro horderly
    refine ⟨fun low high hlow hhigh => ?_, fun low shown high => evaluate_between horderly⟩
    rw [Int64.le_iff_toInt_le]
    exact medianBounds_ordered horderly (Option.ite_none_right_eq_some.1 hlow).2
      (Option.ite_none_right_eq_some.1 hhigh).2

/-- The figures of an experiment whose runs have sustained 100 and not 110 without the changes,
    and 150 and not 160 with them. -/
theorem gainedExperiment_figures :
    (evaluate gainedExperiment 1000).2.state ≠ .censored ∧
      FiguresBounded (evaluate gainedExperiment 1000).2 := by
  obtain ⟨hshown, hbounded⟩ := evaluate_figures gainedExperiment 1000
  refine ⟨hshown (by decide +kernel), hbounded ?_⟩
  have horderly : (gainedExperiment.runs.all fun run => (run.loadsOf .sustainable).all fun low =>
      (run.loadsOf .unsustainableHealth).head?.all fun high =>
        decide (low.toNat ≤ high.toNat)) = true := by
    decide +kernel
  intro run hrun low hlow high hhigh
  have hle := List.all_eq_true.1 (List.all_eq_true.1 horderly run hrun) low hlow
  rw [hhigh] at hle
  exact of_decide_eq_true hle

/-- Repetitions of a baseline and a capacity run; each run has sustained its first load and not
    its second one. -/
def bracketed (loads : List (UInt64 × UInt64 × UInt64 × UInt64)) :
    CapacityCompositionExecutionEvidence :=
  compositionOf true <| loads.zipIdx.flatMap fun ((bl, bu, cl, cu), r) =>
    [runOf (2 * r) .cachyosBaseline r true
        [levelAt 0 bl .sustainable, levelAt 1 bu .unsustainableHealth],
      runOf (2 * r + 1) .nemorCapacity r true
        [levelAt 0 cl .sustainable, levelAt 1 cu .unsustainableHealth]]

/-- The figures are not consistent. One repetition alone is an invalid evaluation with a
    demonstrated gain. Of three complete repetitions of very different sizes the demonstrated
    gain is 0 while the conservative bound is 809. Where every baseline run has failed at 100
    before it sustained 200, the conservative bound is 50 and the possible one is -20. -/
theorem figures_inconsistent :
    ¬ FiguresConsistent (evaluate (bracketed [(100, 110, 150, 160)]) 1000).2 ∧
    ¬ FiguresConsistent (evaluate (bracketed [(100, 110, 1000, 1010),
      (1000, 1010, 10000, 10010), (10000, 10010, 500, 510)]) 100000).2 ∧
    ¬ FiguresConsistent (evaluate (bracketed [(200, 100, 150, 160), (200, 100, 150, 160),
      (200, 100, 150, 160)]) 1000).2 := by
  refine ⟨fun h => ?_, fun h => ?_, fun h => ?_⟩
  · have hcomplete := h.complete (by decide +kernel)
    revert hcomplete
    decide +kernel
  · obtain ⟨hle, -⟩ := h.ordered 809 0 901 (by decide +kernel) (by decide +kernel)
      (by decide +kernel)
    revert hle
    decide
  · obtain ⟨hle, hle'⟩ := h.ordered 50 (-25) (-20) (by decide +kernel) (by decide +kernel)
      (by decide +kernel)
    revert hle
    decide

end Nemor.Capacity
