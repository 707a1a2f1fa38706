import Nemor.Lib.Fallible
import Nemor.Policy.Input

/-!
# KSM: which process may be planned for

`evaluateEligibility` collects the reasons against a process, and a process without one is
eligible. A measurement that is missing refuses nothing. That is what is wrong with the profit:
under pressure only work that is known to be profitable is to be continued, with the profit
bound of the profile, and the function neither asks for a measurement nor looks at the bound.
-/

namespace Nemor.Ksm

open MachineNumbers Fallible Policy

/-! ## §1 Evidence and bounds -/

/-- A process that cannot be taken for a later one. -/
structure StableProcessIdentity where
  pid : UInt32
  startTicks : UInt64
  stableKey : String
  deriving DecidableEq

/-- The kinds of programs that merging is made for. -/
inductive KsmProfileKind where
  | vm
  | browser
  | electron
  | synthetic
  | unknown
  deriving DecidableEq

/-- What a kind of program may cost. -/
structure KsmProfile where
  kind : KsmProfileKind
  expectedSharingSuitability : UInt8
  foregroundSensitive : Bool
  gamingSensitive : Bool
  minimumStableObservations : UInt32
  minimumMergeableBytes : UInt64
  maximumScannerCpuPercent : F64
  minimumPositiveProfitBytes : Int64
  maximumCowEventsPerSecond : UInt64
  inefficiencyWindows : UInt32
  cooldownSeconds : UInt64

/-- The shipped profile of a kind. -/
def profile (kind : KsmProfileKind) : KsmProfile where
  kind := kind
  expectedSharingSuitability :=
    match kind with
    | .vm => 70
    | .browser => 35
    | .electron => 45
    | .synthetic => 100
    | .unknown => 0
  foregroundSensitive := true
  gamingSensitive := true
  minimumStableObservations := 3
  minimumMergeableBytes := 33554432
  maximumScannerCpuPercent := .finite 1
  minimumPositiveProfitBytes := 4096
  maximumCowEventsPerSecond := 64
  inefficiencyWindows := 3
  cooldownSeconds := 300

/-- What is known of a candidate. -/
structure EligibilityInput where
  identity : Option StableProcessIdentity
  identityFresh : Bool
  profile : KsmProfileKind
  alreadyMergeable : Bool
  ownedCooperative : Bool
  foreground : Bool
  gaming : Bool
  critical : Bool
  protected_ : Bool
  sameSecurityDomain : Bool
  pressure : PressureState
  stableObservations : UInt32
  mergeableBytes : UInt64
  profitBytes : Option Int64
  cowEventsPerSecond : Option UInt64
  cpuPercent : Option F64
  cooldownActive : Bool
  externalKsmActivity : Bool

/-- What is decided about a candidate. -/
inductive PlanDisposition where
  | eligible
  | rejected
  | unsupported
  deriving DecidableEq

/-- The decision and its reasons. -/
structure EligibilityDecision where
  disposition : PlanDisposition
  reasons : List String
  ruleVersion : String
  deriving DecidableEq

/-- `RULE_VERSION`. -/
def ruleVersion : String := "selective-ksm-v1"

/-! ## §2 The decision -/

/-- The states in which nothing is started. -/
def globalStateUnsafe (state : PressureState) : Bool :=
  state == .critical || state == .emergency || state == .stabilizing

/-- The checks, each with whether it refuses and its reason. -/
def eligibilityChecks (input : EligibilityInput) (bounds : KsmProfile) : List (Bool × String) :=
  [(input.profile == .unknown, "unknown_profile"),
    (input.identity.isNone, "unknown_identity"),
    (input.identity.isSome && !input.identityFresh, "stale_identity"),
    (input.foreground, "foreground_protected"),
    (input.gaming, "gaming_protected"),
    (input.critical || input.protected_, "critical_process"),
    (!input.sameSecurityDomain, "external_security_domain"),
    (!input.alreadyMergeable && !input.ownedCooperative, "cooperation_required"),
    (input.externalKsmActivity, "external_ksm_activity"),
    (input.stableObservations < bounds.minimumStableObservations, "insufficient_observation"),
    (input.mergeableBytes < bounds.minimumMergeableBytes, "ksm_not_mergeable"),
    (globalStateUnsafe input.pressure, "global_state_not_safe"),
    (input.cooldownActive, "cooldown_active"),
    (input.profitBytes.any fun profit => profit ≤ 0, "profit_not_positive"),
    (input.cowEventsPerSecond.any fun rate => bounds.maximumCowEventsPerSecond < rate,
      "cow_rate_excessive"),
    (input.cpuPercent.any fun cpu => bounds.maximumScannerCpuPercent.lt cpu,
      "cpu_budget_exceeded")]

/-- Eligible without a reason against it. -/
def evaluateEligibility (input : EligibilityInput) (bounds : KsmProfile) :
    EligibilityDecision :=
  let reasons := refusals (eligibilityChecks input bounds)
  { disposition := if reasons.isEmpty then .eligible else .rejected
    reasons
    ruleVersion }

/-! ## §3 The gates -/

/-- The gates that the function evaluates. What was not measured passes. -/
structure EvaluatedGates (input : EligibilityInput) (bounds : KsmProfile) : Prop where
  profile : input.profile ≠ .unknown
  identity : input.identity.isSome = true
  fresh : input.identityFresh = true
  foreground : input.foreground = false
  gaming : input.gaming = false
  critical : input.critical = false
  protected_ : input.protected_ = false
  securityDomain : input.sameSecurityDomain = true
  cooperation : input.alreadyMergeable = true ∨ input.ownedCooperative = true
  external : input.externalKsmActivity = false
  observations : bounds.minimumStableObservations ≤ input.stableObservations
  mergeable : bounds.minimumMergeableBytes ≤ input.mergeableBytes
  state : globalStateUnsafe input.pressure = false
  cooldown : input.cooldownActive = false
  profit : ∀ profit, input.profitBytes = some profit → 0 < profit
  cowRate : ∀ rate, input.cowEventsPerSecond = some rate → rate ≤ bounds.maximumCowEventsPerSecond
  cpu : ∀ cpu, input.cpuPercent = some cpu → bounds.maximumScannerCpuPercent.lt cpu = false

/-- The states in which only profitable work is continued. -/
def continuesOnly (state : PressureState) : Prop := state = .watch ∨ state = .pressure

/-- The profit was measured, is positive and reaches the bound. -/
def KnownProfitable (input : EligibilityInput) (bounds : KsmProfile) : Prop :=
  ∃ profit, input.profitBytes = some profit ∧ 0 < profit ∧
    bounds.minimumPositiveProfitBytes ≤ profit

/-- The gates as they are documented. -/
structure DocumentedGates (input : EligibilityInput) (bounds : KsmProfile) : Prop
    extends EvaluatedGates input bounds where
  knownProfitable : continuesOnly input.pressure → KnownProfitable input bounds

/-- **Eligible means that the evaluated gates are passed**, and nothing more. -/
theorem eligible_iff (input : EligibilityInput) (bounds : KsmProfile) :
    (evaluateEligibility input bounds).disposition = .eligible ↔ EvaluatedGates input bounds := by
  -- eligible means that no check has left a reason
  have hreasons : (evaluateEligibility input bounds).disposition = .eligible ↔
      refusals (eligibilityChecks input bounds) = [] := by
    simp [evaluateEligibility]
  rw [hreasons, refusals_eq_nil]
  simp only [eligibilityChecks, List.forall_mem_cons, List.not_mem_nil, false_implies,
    implies_true, and_true]
  constructor
  · rintro ⟨hprofile, hidentity, hfresh, hforeground, hgaming, hcritical, hdomain, hcooperation,
      hexternal, hobservations, hmergeable, hstate, hcooldown, hprofit, hcow, hcpu⟩
    have hsome : input.identity.isSome = true := by simpa using hidentity
    simp only [Bool.or_eq_false_iff] at hcritical
    constructor
    · simpa using hprofile
    · exact hsome
    · simpa [hsome] using hfresh
    · exact hforeground
    · exact hgaming
    · exact hcritical.1
    · exact hcritical.2
    · simpa using hdomain
    · cases h : input.alreadyMergeable
      · exact .inr (by simpa [h] using hcooperation)
      · exact .inl rfl
    · exact hexternal
    · simpa using hobservations
    · simpa using hmergeable
    · exact hstate
    · exact hcooldown
    · intro profit h
      simpa [h] using hprofit
    · intro rate h
      simpa [h] using hcow
    · intro cpu h
      simpa [h] using hcpu
  · intro h
    refine ⟨by simpa using h.profile, by simpa using h.identity, by simp [h.fresh], h.foreground,
      h.gaming, by simp [h.critical, h.protected_], by simp [h.securityDomain], ?_, h.external,
      by simpa using h.observations, by simpa using h.mergeable, h.state, h.cooldown, ?_, ?_, ?_⟩
    · rcases h.cooperation with hc | hc <;> simp [hc]
    · cases hp : input.profitBytes with
      | none => rfl
      | some profit => simpa using h.profit profit hp
    · cases hr : input.cowEventsPerSecond with
      | none => rfl
      | some rate => simpa using h.cowRate rate hr
    · cases hc : input.cpuPercent with
      | none => rfl
      | some cpu => simpa using h.cpu cpu hc

/-- **When eligible means that the documented gates are passed**: when one of the evaluated gates
    refuses, when the state is neither watch nor pressure, or when the profit was measured and
    reaches the bound. -/
theorem eligible_documented_iff (input : EligibilityInput) (bounds : KsmProfile) :
    ((evaluateEligibility input bounds).disposition = .eligible → DocumentedGates input bounds) ↔
      ¬ EvaluatedGates input bounds ∨ ¬ continuesOnly input.pressure ∨
        ∃ profit, input.profitBytes = some profit ∧
          bounds.minimumPositiveProfitBytes ≤ profit := by
  rw [eligible_iff]
  constructor
  · intro h
    by_cases hgates : EvaluatedGates input bounds
    · by_cases hstate : continuesOnly input.pressure
      · obtain ⟨profit, hprofit, -, hbound⟩ := (h hgates).knownProfitable hstate
        exact .inr (.inr ⟨profit, hprofit, hbound⟩)
      · exact .inr (.inl hstate)
    · exact .inl hgates
  · rintro h hgates
    refine ⟨hgates, fun hstate => ?_⟩
    rcases h with h | h | ⟨profit, hprofit, hbound⟩
    · exact absurd hgates h
    · exact absurd hstate h
    · exact ⟨profit, hprofit, hgates.profit profit hprofit, hbound⟩

/-- An owned virtual machine under pressure, with the given measurement of its profit. -/
def underPressure (profitBytes : Option Int64) : EligibilityInput where
  identity := some { pid := 7, startTicks := 100, stableKey := "vm-7" }
  identityFresh := true
  profile := .vm
  alreadyMergeable := false
  ownedCooperative := true
  foreground := false
  gaming := false
  critical := false
  protected_ := false
  sameSecurityDomain := true
  pressure := .pressure
  stableObservations := 3
  mergeableBytes := 67108864
  profitBytes := profitBytes
  cowEventsPerSecond := some 1
  cpuPercent := some (.finite 0)
  cooldownActive := false
  externalKsmActivity := false

/-- Without a measurement, or with one byte of profit, it is eligible all the same. -/
theorem eligible_unprofitable :
    ((evaluateEligibility (underPressure none) (profile .vm)).disposition = .eligible ∧
      ¬ DocumentedGates (underPressure none) (profile .vm)) ∧
    (evaluateEligibility (underPressure (some 1)) (profile .vm)).disposition = .eligible ∧
      ¬ DocumentedGates (underPressure (some 1)) (profile .vm) := by
  refine ⟨⟨by decide +kernel, fun h => ?_⟩, by decide +kernel, fun h => ?_⟩
  · obtain ⟨profit, hprofit, -⟩ := h.knownProfitable (.inr rfl)
    cases hprofit
  · obtain ⟨profit, hprofit, -, hbound⟩ := h.knownProfitable (.inr rfl)
    cases hprofit
    exact absurd hbound (by decide)

end Nemor.Ksm
