import Mathlib.Data.List.Forall2
import Nemor.Policy.Hysteresis

/-!
# Policy engine: severity is monotone in the evidence

The target state is a cascade of guards, from the severest state down, each a conjunction or
disjunction of thresholds. The thresholds of one guard need not be ordered against those of
the next: what makes the cascade monotone is only that worse evidence keeps every guard that
holds, and that the states come in descending order.
-/

namespace Nemor.Policy

open MachineNumbers

/-! ## §1 Cascades of guards -/

section Cascade

variable {α : Type*}

/-- The level of the first guard that holds. -/
def cascade (fallback : α) : List (Bool × α) → α
  | [] => fallback
  | (guard, level) :: rest => if guard then level else cascade fallback rest

/-- No cascade is above an upper bound of its levels. -/
theorem cascade_le [Preorder α] {fallback bound : α} {steps : List (Bool × α)}
    (hfallback : fallback ≤ bound) (hsteps : ∀ step ∈ steps, step.2 ≤ bound) :
    cascade fallback steps ≤ bound := by
  induction steps with
  | nil => exact hfallback
  | cons step rest ih =>
    simp only [cascade]
    split
    · exact hsteps step (by simp)
    · exact ih fun other hother => hsteps other (by simp [hother])

/-- **Cascades are monotone in their guards**, when the levels descend. -/
theorem cascade_mono [Preorder α] {fallback : α} {first second : List (Bool × α)}
    (hguards : List.Forall₂ (fun a b => (a.1 = true → b.1 = true) ∧ a.2 = b.2) first second)
    (hlevels : first.Pairwise fun a b => b.2 ≤ a.2) (hfallback : ∀ a ∈ first, fallback ≤ a.2) :
    cascade fallback first ≤ cascade fallback second := by
  induction hguards with
  | nil => exact le_refl _
  | @cons a b restFirst restSecond hab _ ih =>
    obtain ⟨hguard, hlevel⟩ := hab
    have hpair := List.pairwise_cons.1 hlevels
    have hrest := ih hpair.2 fun c hc => hfallback c (by simp [hc])
    simp only [cascade]
    by_cases ha : a.1 = true
    · simp [ha, hguard ha, hlevel]
    · by_cases hb : b.1 = true
      · -- only the second stops here: the rest of the first is not above this level
        have hbelow : cascade fallback restFirst ≤ a.2 :=
          cascade_le (hfallback a (by simp)) hpair.1
        simpa [ha, hb, ← hlevel] using hbelow
      · simpa [ha, hb] using hrest

/-- More guards that hold, more to count. -/
theorem length_filter_mono {first second : List Bool}
    (h : List.Forall₂ (fun a b => a = true → b = true) first second) :
    (first.filter fun value => value).length ≤ (second.filter fun value => value).length := by
  induction h with
  | nil => simp
  | @cons a b _ _ hab _ ih =>
    cases a
    · cases b
      · simpa using ih
      · simpa using Nat.le_succ_of_le ih
    · simpa [hab] using ih

end Cascade

/-! ## §2 Worse evidence -/

/-- A signal that is no lower than before, or new. -/
def NoLower : Option F64 → Option F64 → Prop
  | none, _ => True
  | some v, some w => v.NoHigher w
  | some _, none => False

/-- `second` shows no less pressure than `first` in anything the target state reads. -/
structure NoMilder (first second : PolicyInput) : Prop where
  available : second.availablePercent.NoHigher first.availablePercent
  psiSome : NoLower first.psiMemorySomeAvg10 second.psiMemorySomeAvg10
  psiFull : NoLower first.psiMemoryFullAvg10 second.psiMemoryFullAvg10
  majorFaults : NoLower first.majorFaultsPerSecond second.majorFaultsPerSecond
  swapIn : NoLower first.swapInPerSecond second.swapInPerSecond
  swapOut : NoLower first.swapOutPerSecond second.swapOutPerSecond

theorem atLeast_mono {v w : Option F64} (h : NoLower v w) (threshold : F64)
    (hv : atLeast v threshold = true) : atLeast w threshold = true := by
  cases v with
  | none => simp [atLeast] at hv
  | some v =>
    cases w with
    | none => exact h.elim
    | some w =>
      simp only [atLeast, Option.any_some] at hv ⊢
      exact F64.le_trans_noHigher hv h

variable {first second : PolicyInput}

theorem corroborating_mono (h : NoMilder first second) (config : PressureConfig) :
    corroborating first config ≤ corroborating second config := by
  apply length_filter_mono
  simp only [List.forall₂_cons, List.Forall₂.nil, and_true]
  exact ⟨atLeast_mono h.psiSome _, atLeast_mono h.psiFull _, atLeast_mono h.majorFaults _,
    atLeast_mono h.swapIn _, atLeast_mono h.swapOut _⟩

/-- The guards of `observedTarget`, from the severest state down. -/
def severitySteps (input : PolicyInput) (config : PressureConfig) : List (Bool × ℕ) :=
  let available := input.availablePercent
  let n := corroborating input config
  let fullEmergency := atLeast input.psiMemoryFullAvg10 config.emergencyPsiFullAvg10Threshold
  [(available.le (.ofU8 config.emergencyAvailablePercent) && (fullEmergency || 2 ≤ n), 4),
    (available.le (.ofU8 config.criticalAvailablePercent) && 2 ≤ n, 3),
    (available.le (.ofU8 config.pressureAvailablePercent) && 1 ≤ n, 2),
    (available.le (.ofU8 config.watchAvailablePercent) || 1 ≤ n, 1)]

theorem rank_observedTarget (input : PolicyInput) (config : PressureConfig) :
    (observedTarget input config).rank = cascade 0 (severitySteps input config) := by
  unfold observedTarget severitySteps cascade
  dsimp only [cascade]
  split_ifs <;> rfl

/-- Worse evidence keeps every guard that holds. -/
theorem severitySteps_mono (h : NoMilder first second) (config : PressureConfig) :
    List.Forall₂ (fun a b => (a.1 = true → b.1 = true) ∧ a.2 = b.2)
      (severitySteps first config) (severitySteps second config) := by
  have hn := corroborating_mono h config
  have hfull := atLeast_mono h.psiFull config.emergencyPsiFullAvg10Threshold
  have havailable : ∀ percent, first.availablePercent.le percent = true →
      second.availablePercent.le percent = true := fun _ => h.available.le_trans
  simp only [severitySteps, List.forall₂_cons, List.Forall₂.nil, and_true, Bool.and_eq_true,
    Bool.or_eq_true, decide_eq_true_eq]
  refine ⟨fun hg => ⟨havailable _ hg.1, hg.2.imp hfull hn.trans'⟩,
    fun hg => ⟨havailable _ hg.1, hg.2.trans hn⟩, fun hg => ⟨havailable _ hg.1, hg.2.trans hn⟩,
    fun hg => hg.imp (havailable _) hn.trans'⟩

/-! ## §3 Monotonicity of the target -/

/-- **Severity is monotone**: on evidence that is no milder, the target state is at least as
    severe, under every configuration, ordered thresholds or not. -/
theorem targetState_severity_mono (h : NoMilder first second) (config : PressureConfig) :
    (targetState first config).1.rank ≤ (targetState second config).1.rank := by
  simp only [targetState, rank_observedTarget]
  exact cascade_mono (severitySteps_mono h config) (by simp [severitySteps])
    (by simp [severitySteps])

/-- Less memory left, and memory pressure that was not measured before. -/
theorem targetState_severity_mono_new_signal :
    let first := { inputAt 0 15 0 0 with psiMemoryFullAvg10 := none }
    let second := inputAt 1 11 11 3
    (targetState first (shippedPressure 10)).1 = .watch ∧
    (targetState second (shippedPressure 10)).1 = .pressure ∧
    (targetState first (shippedPressure 10)).1.rank ≤
      (targetState second (shippedPressure 10)).1.rank := by
  refine ⟨by decide +kernel, by decide +kernel, targetState_severity_mono ?_ _⟩
  constructor <;> simp [NoLower, F64.NoHigher, F64.le, inputAt]
  all_goals decide +kernel

end Nemor.Policy
