import Nemor.Lib.Fallible
import Nemor.Lib.Shuffle
import Nemor.Pressure.Experiment
import Nemor.Pressure.Worker

/-!
# The order of the runs

The runs of an experiment, one for each variant and repetition, are put into an order that only
depends on a seed. The plan of a pressure experiment takes this order for the baseline and the
observer; the runs of one repetition share a seed, so that the two variants are compared on the same
workload.

- §1: the order
- §2: the plan
- §3: pairs of runs
-/

namespace Nemor.Pressure

open Capacity Fallible

/-! ## §1 The order -/

/-- Each state of the generator is the mixed one before it, and gives the position by its
    remainder. -/
def deterministicOrder (variants : List BenchmarkVariant) (repetitions : ℕ) (seed : UInt64) :
    List (BenchmarkVariant × ℕ) :=
  Shuffle.shuffle splitmix64
    (fun index state => ⟨state.toNat % (index + 1), Nat.mod_lt _ (Nat.succ_pos index)⟩) seed
    ((List.range repetitions).flatMap fun rep => variants.map fun variant => (variant, rep))

section Order

variable {variants : List BenchmarkVariant} {repetitions : ℕ} {seed : UInt64}

theorem deterministicOrder_perm : (deterministicOrder variants repetitions seed).Perm
    ((List.range repetitions).flatMap fun rep => variants.map fun variant => (variant, rep)) :=
  Shuffle.shuffle_perm _ _ _ _

theorem mem_deterministicOrder {variant : BenchmarkVariant} {rep : ℕ} :
    (variant, rep) ∈ deterministicOrder variants repetitions seed ↔
      variant ∈ variants ∧ rep < repetitions := by
  rw [deterministicOrder_perm.mem_iff]
  simp only [List.mem_flatMap, List.mem_range, List.mem_map, Prod.mk.injEq]
  constructor
  · rintro ⟨r, hr, v, hv, rfl, rfl⟩
    exact ⟨hv, hr⟩
  · rintro ⟨hv, hr⟩
    exact ⟨rep, hr, variant, hv, rfl, rfl⟩

/-- Different repetitions have different pairs. -/
theorem nodup_deterministicOrder (h : variants.Nodup) :
    (deterministicOrder variants repetitions seed).Nodup := by
  rw [deterministicOrder_perm.nodup_iff, List.nodup_flatMap]
  refine ⟨fun rep _ => h.map fun v w hvw => (Prod.mk.inj hvw).1, ?_⟩
  refine List.nodup_range.imp fun {r s} hne pair hr hs => ?_
  obtain ⟨v, -, rfl⟩ := List.mem_map.1 hr
  obtain ⟨w, -, heq⟩ := List.mem_map.1 hs
  exact hne (Prod.mk.inj heq).2.symm

end Order

/-! ## §2 The plan -/

/-- `PRESSURE_RUN_PLAN_VERSION`. -/
def pressureRunPlanVersion : UInt32 := 1

deriving instance DecidableEq for PlannedPressureRun

/-- The runs of an experiment in their order. -/
structure PressureExperimentRunPlan where
  version : UInt32
  repetitions : ℕ
  experimentSeed : UInt64
  runs : List PlannedPressureRun
  automaticRetry : Bool
  deriving DecidableEq

/-- The seed, rotated by 17 bits, with the repetition in its lowest bits. -/
def pairedRunSeed (experimentSeed : UInt64) (repetitionIndex : ℕ) : UInt64 :=
  (experimentSeed <<< 17 ||| experimentSeed >>> 47) ^^^ UInt64.ofNat repetitionIndex

/-- Three repetitions of all variants, shuffled by the seed. -/
def PressureExperimentRunPlan.new (experimentSeed : UInt64) : PressureExperimentRunPlan where
  version := pressureRunPlanVersion
  repetitions := 3
  experimentSeed := experimentSeed
  runs := (deterministicOrder [.cachyosBaseline, .nemorObserve] 3 experimentSeed).zipIdx.map
    fun ((variant, repetitionIndex), orderIndex) =>
      { orderIndex := orderIndex
        variant := variant
        repetitionIndex := repetitionIndex
        runSeed := pairedRunSeed experimentSeed repetitionIndex
        state := .planned }
  automaticRetry := false

/-- The check of the runs of one repetition. -/
def validatePair (runs : List PlannedPressureRun) (repetition : ℕ) : Except String Unit :=
  match runs.filter fun run => run.repetitionIndex = repetition with
  | [first, second] =>
    refuse (first.runSeed ≠ second.runSeed ∨
        ¬ (first.variant = .cachyosBaseline ∨ second.variant = .cachyosBaseline) ∨
        ¬ (first.variant = .nemorObserve ∨ second.variant = .nemorObserve))
      "pressure repetition is not an exact baseline/observe seed pair"
  | _ => .error "pressure repetition is not an exact baseline/observe seed pair"

/-- The plan is the one that its seed gives. -/
def PressureExperimentRunPlan.validate (plan : PressureExperimentRunPlan) : Except String Unit := do
  refuse (plan.version ≠ pressureRunPlanVersion ∨ plan.repetitions ≠ 3 ∨ plan.runs.length ≠ 6 ∨
      plan.automaticRetry = true)
    "invalid Checkpoint 3C six-run plan"
  refuse (PressureExperimentRunPlan.new plan.experimentSeed ≠ plan)
    "pressure run order or paired seeds are not deterministic"
  (List.range 3).forM (validatePair plan.runs)

/-! ## §3 Pairs of runs -/

section Pairs

variable {seed : UInt64} {repetition : ℕ} {run : PlannedPressureRun}

/-- The variants and repetitions of the planned runs are the order. -/
theorem runs_new_pairs (seed : UInt64) :
    ((PressureExperimentRunPlan.new seed).runs.map fun run => (run.variant, run.repetitionIndex)) =
      deterministicOrder [.cachyosBaseline, .nemorObserve] 3 seed := by
  rw [PressureExperimentRunPlan.new, List.map_map]
  exact List.zipIdx_map_fst 0 _

theorem runSeed_of_mem_new (h : run ∈ (PressureExperimentRunPlan.new seed).runs) :
    run.runSeed = pairedRunSeed seed run.repetitionIndex ∧ run.repetitionIndex < 3 := by
  have hpair := List.mem_map_of_mem (f := fun run => (run.variant, run.repetitionIndex)) h
  rw [runs_new_pairs, mem_deterministicOrder] at hpair
  refine ⟨?_, hpair.2⟩
  obtain ⟨entry, -, rfl⟩ := List.mem_map.1 h
  rfl

/-- The runs of a repetition are one of each variant. -/
theorem repetition_pairs (seed : UInt64) (h : repetition < 3) :
    (((PressureExperimentRunPlan.new seed).runs.filter fun run =>
      run.repetitionIndex = repetition).map fun run => (run.variant, run.repetitionIndex)).Perm
      [(.cachyosBaseline, repetition), (.nemorObserve, repetition)] := by
  have hfilter := List.filter_map (f := fun run : PlannedPressureRun =>
    (run.variant, run.repetitionIndex)) (p := fun pair => pair.2 = repetition)
    (l := (PressureExperimentRunPlan.new seed).runs)
  rw [runs_new_pairs] at hfilter
  refine (List.Perm.of_eq hfilter.symm).trans ((deterministicOrder_perm.filter _).trans ?_)
  obtain rfl | rfl | rfl : repetition = 0 ∨ repetition = 1 ∨ repetition = 2 := by omega
  · exact .refl _
  · exact .refl _
  · exact .refl _

/-- One run of each variant with the seed of the repetition is what is asked for. -/
theorem validatePair_of_perm {runs : List PlannedPressureRun}
    (hpairs : ((runs.filter fun run => run.repetitionIndex = repetition).map fun run =>
      (run.variant, run.repetitionIndex)).Perm
      [(.cachyosBaseline, repetition), (.nemorObserve, repetition)])
    (hseeds : ∀ run ∈ runs, run.runSeed = pairedRunSeed seed run.repetitionIndex) :
    validatePair runs repetition = .ok () := by
  have hseeds' : ∀ run ∈ runs.filter fun run => run.repetitionIndex = repetition,
      run.runSeed = pairedRunSeed seed repetition := by
    intro run hrun
    obtain ⟨hmem, heq⟩ := List.mem_filter.1 hrun
    rw [hseeds run hmem, of_decide_eq_true heq]
  unfold validatePair
  generalize runs.filter (fun run => run.repetitionIndex = repetition) = paired at hpairs hseeds' ⊢
  obtain ⟨first, second, rfl⟩ : ∃ first second, paired = [first, second] :=
    List.length_eq_two.1 (by simpa using hpairs.length_eq)
  have hmem (variant : BenchmarkVariant) := hpairs.mem_iff (a := (variant, repetition))
  have hbaseline := (hmem .cachyosBaseline).2 (by simp)
  have hobserve := (hmem .nemorObserve).2 (by simp)
  simp only [List.map_cons, List.map_nil, List.mem_cons, Prod.mk.injEq, List.not_mem_nil,
    or_false] at hbaseline hobserve
  refine refuse_eq_ok.2 ?_
  rw [hseeds' first (by simp), hseeds' second (by simp)]
  rintro (hne | hno | hno)
  · exact hne rfl
  · exact hno (hbaseline.imp (fun h => h.1.symm) fun h => h.1.symm)
  · exact hno (hobserve.imp (fun h => h.1.symm) fun h => h.1.symm)

theorem validate_new (seed : UInt64) : (PressureExperimentRunPlan.new seed).validate = .ok () := by
  have hlength : (PressureExperimentRunPlan.new seed).runs.length = 6 := by
    have h := congrArg List.length (runs_new_pairs seed)
    rw [List.length_map, deterministicOrder_perm.length_eq] at h
    exact h
  rw [PressureExperimentRunPlan.validate, refuse_bind_eq_ok]
  refine ⟨?_, refuse_bind_eq_ok.2 ⟨fun hne => hne rfl, forM_eq_ok.2 fun repetition h => ?_⟩⟩
  · rintro (h | h | h | h)
    · exact h rfl
    · exact h rfl
    · exact h hlength
    · cases h
  · exact validatePair_of_perm (repetition_pairs seed (List.mem_range.1 h))
      fun run hrun => (runSeed_of_mem_new hrun).1

theorem pairedRunSeed_inj {a b : ℕ} (ha : a < 2 ^ 64) (hb : b < 2 ^ 64) :
    pairedRunSeed seed a = pairedRunSeed seed b ↔ a = b := by
  rw [pairedRunSeed, pairedRunSeed, UInt64.xor_right_inj, ← UInt64.toNat_inj,
    UInt64.toNat_ofNat_of_lt' ha, UInt64.toNat_ofNat_of_lt' hb]

end Pairs

/-- **Order and pairs.** Every order has each variant and repetition exactly once, and the plan of
    every seed is valid, with the same seed for two runs exactly when they are of one repetition. -/
theorem run_order_exact {variants : List BenchmarkVariant} (h : variants.Nodup)
    (repetitions : ℕ) (orderSeed experimentSeed : UInt64) :
    ((deterministicOrder variants repetitions orderSeed).Nodup ∧
      ∀ variant rep, (variant, rep) ∈ deterministicOrder variants repetitions orderSeed ↔
        variant ∈ variants ∧ rep < repetitions) ∧
    (PressureExperimentRunPlan.new experimentSeed).validate = .ok () ∧
    ∀ a ∈ (PressureExperimentRunPlan.new experimentSeed).runs,
      ∀ b ∈ (PressureExperimentRunPlan.new experimentSeed).runs,
        a.runSeed = b.runSeed ↔ a.repetitionIndex = b.repetitionIndex := by
  refine ⟨⟨nodup_deterministicOrder h, fun _ _ => mem_deterministicOrder⟩,
    validate_new experimentSeed, fun a ha b hb => ?_⟩
  obtain ⟨hseed, hlt⟩ := runSeed_of_mem_new ha
  obtain ⟨hseed', hlt'⟩ := runSeed_of_mem_new hb
  rw [hseed, hseed', pairedRunSeed_inj (by omega) (by omega)]

theorem run_order_exact_capacity :
    (deterministicOrder [.cachyosBaseline, .nemorCapacity] 3 1).Nodup ∧
    (PressureExperimentRunPlan.new 42).validate = .ok () :=
  have h := @run_order_exact [.cachyosBaseline, .nemorCapacity] (by decide) 3 1 42
  ⟨h.1.1, h.2.1⟩

example : deterministicOrder [.cachyosBaseline, .nemorObserve] 3 42 ≠
    deterministicOrder [.cachyosBaseline, .nemorObserve] 3 43 := by decide

end Nemor.Pressure
