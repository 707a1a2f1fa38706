import Nemor.Damon.Zones

/-!
# DAMOS: plans

What a plan must satisfy before anything is written for it. `DamosPlan.validate` checks the
links of the plan, its target, its access pattern and its quota; the fence of the plan is
checked on its own, by `AddressFence.validate` against the COLD range.
-/

namespace Nemor.Damos

open Fallible MachineNumbers

open Damon (AddressRange)

/-! ## §1 Types -/

/-- Why a plan is refused. -/
inductive DamosError where
  | invalid (reason : String)
  | unsupported (capability : String)
  deriving DecidableEq

/-- What the scheme does with a region. -/
inductive DamosAction where
  | stat
  | pageout
  deriving DecidableEq

/-- The process that a plan is for. -/
structure StableTargetIdentity where
  pid : UInt32
  startTicks : UInt64
  stableKey : String
  owned : Bool

/-- How much a scheme may do in an interval. -/
structure DamosQuota where
  timeMs : UInt64
  bytes : UInt64
  resetIntervalMs : UInt64
  totalAppliedBytes : UInt64

/-- How the kernel reads a filter. -/
inductive FilterApi where
  | legacyMatchingOnly
  | matchingAllow
  deriving DecidableEq

/-- The range that the scheme has to stay in. -/
structure AddressFence where
  range : AddressRange
  layer : String
  filterType : String
  api : FilterApi
  matching : Bool
  allow : Option Bool

/-- A plan, with its evidence and its bounds. -/
structure DamosPlan where
  decisionId : String
  planId : String
  sessionId : String
  schemeId : UInt32
  target : StableTargetIdentity
  action : DamosAction
  patternAccessesMin : UInt64
  patternAccessesMax : UInt64
  patternAgeMin : UInt64
  patternAgeMax : UInt64
  applyIntervalUs : UInt64
  quota : DamosQuota
  fence : AddressFence
  maxNrSnapshots : Option UInt64
  dryRun : Bool

/-! ## §2 Quotas -/

namespace DamosQuota

/-- The quota is not empty and within the bounds. -/
def validate (quota : DamosQuota) (maxTimeMs maxBytes : UInt64) : Except DamosError Unit := do
  refuse (quota.timeMs = 0 ∧ quota.bytes = 0)
    (.invalid "time and byte quotas cannot both be zero")
  refuse (maxTimeMs < quota.timeMs ∨ maxBytes < quota.bytes)
    (.invalid "quota exceeds absolute configuration ceiling")
  refuse (quota.resetIntervalMs = 0 ∨ quota.totalAppliedBytes < quota.bytes)
    (.invalid "invalid reset/total quota")

/-- One of the two quotas may be zero, which leaves that one open. -/
structure Bounded (quota : DamosQuota) (maxTimeMs maxBytes : UInt64) : Prop where
  limited : quota.timeMs ≠ 0 ∨ quota.bytes ≠ 0
  time_le : quota.timeMs ≤ maxTimeMs
  bytes_le : quota.bytes ≤ maxBytes
  reset_ne : quota.resetIntervalMs ≠ 0
  total_ge : quota.bytes ≤ quota.totalAppliedBytes

theorem validate_eq_ok {quota : DamosQuota} {maxTimeMs maxBytes : UInt64} :
    quota.validate maxTimeMs maxBytes = .ok () ↔ quota.Bounded maxTimeMs maxBytes := by
  simp only [validate, refuse_bind_eq_ok, refuse_eq_ok, not_and_or, not_or, UInt64.not_lt]
  constructor
  · rintro ⟨hlimited, ⟨htime, hbytes⟩, hreset, htotal⟩
    exact ⟨hlimited, htime, hbytes, hreset, htotal⟩
  · intro h
    exact ⟨h.limited, ⟨h.time_le, h.bytes_le⟩, h.reset_ne, h.total_ge⟩

end DamosQuota

/-! ## §3 Fences -/

namespace AddressFence

/-- What the filter says of the addresses it matches, in the words of its ABI. -/
def semantics (fence : AddressFence) : Bool :=
  match fence.api with
  | .matchingAllow => fence.matching && fence.allow == some true
  | .legacyMatchingOnly => !fence.matching && fence.allow.isNone

/-- The fence is around the cold zone and nothing else. -/
def validate (fence : AddressFence) (cold : AddressRange) : Except DamosError Unit :=
  refuse
    (fence.layer ≠ "core" ∨ fence.filterType ≠ "addr" ∨ fence.semantics = false ∨
      fence.range ≠ cold)
    (.invalid "address fence does not exactly match COLD")

/-- The scheme may touch the address. -/
def allows (fence : AddressFence) (address : UInt64) : Bool :=
  (fence.validate fence.range).isOk && fence.range.start ≤ address && address < fence.range.end_

/-- A core address filter for exactly the range. -/
structure Exactly (fence : AddressFence) (cold : AddressRange) : Prop where
  layer : fence.layer = "core"
  filterType : fence.filterType = "addr"
  semantics : fence.semantics = true
  range : fence.range = cold

theorem validate_eq_ok {fence : AddressFence} {cold : AddressRange} :
    fence.validate cold = .ok () ↔ fence.Exactly cold := by
  simp only [validate, refuse_eq_ok, not_or, not_not, Bool.not_eq_false]
  constructor
  · rintro ⟨hlayer, htype, hsemantics, hrange⟩
    exact ⟨hlayer, htype, hsemantics, hrange⟩
  · intro h
    exact ⟨h.layer, h.filterType, h.semantics, h.range⟩

/-- A fence that matches a range lets its bytes through and nothing else. -/
theorem Exactly.allows_iff {fence : AddressFence} {cold : AddressRange} (h : fence.Exactly cold)
    (address : UInt64) : fence.allows address = true ↔ address.toNat ∈ cold.bytes := by
  have hvalid : fence.validate cold = .ok () := validate_eq_ok.2 h
  simp [allows, hvalid, h.range, AddressRange.bytes, Except.isOk, Except.toBool,
    UInt64.le_iff_toNat_le, UInt64.lt_iff_toNat_lt]

end AddressFence

/-! ## §4 Plans -/

namespace DamosPlan

/-- The plan is linked, bounded and fenced. -/
def validate (plan : DamosPlan) (maxTimeMs maxBytes : UInt64) : Except DamosError Unit := do
  refuse (plan.decisionId = "" ∨ plan.planId = "" ∨ plan.sessionId = "")
    (.invalid "decision/plan/session link required")
  refuse (plan.target.owned = false ∨ plan.target.pid = 1 ∨ plan.target.stableKey = "")
    (.invalid "stable owned target required")
  refuse
    (plan.patternAccessesMin ≠ 0 ∨ plan.patternAccessesMax ≠ 0 ∨ plan.patternAgeMin < 3 ∨
      plan.patternAgeMax < plan.patternAgeMin ∨ plan.applyIntervalUs = 0)
    (.invalid "unsafe access pattern")
  plan.quota.validate maxTimeMs maxBytes

/-- Everything that the validation of a plan asks for. -/
structure Accepted (plan : DamosPlan) (maxTimeMs maxBytes : UInt64) : Prop where
  linked : plan.decisionId ≠ "" ∧ plan.planId ≠ "" ∧ plan.sessionId ≠ ""
  target : plan.target.owned = true ∧ plan.target.pid ≠ 1 ∧ plan.target.stableKey ≠ ""
  unaccessed : plan.patternAccessesMin = 0 ∧ plan.patternAccessesMax = 0
  aged : 3 ≤ plan.patternAgeMin ∧ plan.patternAgeMin ≤ plan.patternAgeMax
  interval : plan.applyIntervalUs ≠ 0
  quota : plan.quota.Bounded maxTimeMs maxBytes

theorem validate_eq_ok {plan : DamosPlan} {maxTimeMs maxBytes : UInt64} :
    plan.validate maxTimeMs maxBytes = .ok () ↔ plan.Accepted maxTimeMs maxBytes := by
  simp only [validate, refuse_bind_eq_ok, DamosQuota.validate_eq_ok, not_or, not_not,
    UInt64.not_lt, Bool.not_eq_false]
  constructor
  · rintro ⟨hlinked, htarget, ⟨hmin, hmax, hage, hages, hinterval⟩, hquota⟩
    exact ⟨hlinked, htarget, ⟨hmin, hmax⟩, ⟨hage, hages⟩, hinterval, hquota⟩
  · intro h
    exact ⟨h.linked, h.target, ⟨h.unaccessed.1, h.unaccessed.2, h.aged.1, h.aged.2, h.interval⟩,
      h.quota⟩

/-- **What a validated plan is, and what its fence is.** The plan is accepted on its links,
    target, pattern and quota alone, whatever its action and its fence are. Its fence is
    accepted exactly when it is a core address filter for the COLD range, and then it lets
    exactly the bytes of that range through. -/
theorem validate_plan_and_fence (plan : DamosPlan) (maxTimeMs maxBytes : UInt64)
    (cold : AddressRange) :
    (plan.validate maxTimeMs maxBytes = .ok () ↔ plan.Accepted maxTimeMs maxBytes) ∧
    (∀ action fence, { plan with action := action, fence := fence }.validate maxTimeMs maxBytes =
      plan.validate maxTimeMs maxBytes) ∧
    (plan.fence.validate cold = .ok () ↔ plan.fence.Exactly cold) ∧
    (plan.fence.validate cold = .ok () → ∀ address : UInt64,
      plan.fence.allows address = true ↔ address.toNat ∈ cold.bytes) := by
  refine ⟨validate_eq_ok, fun _ _ => rfl, AddressFence.validate_eq_ok, ?_⟩
  intro hfence
  exact (AddressFence.validate_eq_ok.1 hfence).allows_iff

/-- A live plan without a time quota and with a fence on no address at all. -/
def unfenced : DamosPlan where
  decisionId := "decision"
  planId := "plan"
  sessionId := "session"
  schemeId := 0
  target := { pid := 7, startTicks := 1, stableKey := "key", owned := true }
  action := .pageout
  patternAccessesMin := 0
  patternAccessesMax := 0
  patternAgeMin := 3
  patternAgeMax := 3
  applyIntervalUs := 1
  quota := { timeMs := 0, bytes := 4096, resetIntervalMs := 1000, totalAppliedBytes := 4096 }
  fence :=
    { range := ⟨5, 5⟩, layer := "ops", filterType := "anon", api := .matchingAllow,
      matching := false, allow := none }
  maxNrSnapshots := none
  dryRun := false

theorem unfenced_accepted :
    unfenced.action = .pageout ∧ unfenced.validate 5 8388608 = .ok () ∧
      unfenced.fence.layer ≠ "core" ∧ unfenced.fence.filterType ≠ "addr" ∧
      unfenced.fence.range.bytes = ∅ ∧ unfenced.fence.range.start % 4096 ≠ 0 ∧
      unfenced.fence.validate unfenced.fence.range ≠ .ok () ∧ unfenced.quota.timeMs = 0 := by
  decide

end DamosPlan

end Nemor.Damos
