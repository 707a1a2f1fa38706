import Mathlib.Data.Finset.Basic

/-!
# Actuator data model

The records the actuator exchanges with its backend, its snapshot store and the policy
engine, and the name test that separates Nemor's own control groups from all others.
-/

namespace Nemor.Actuator

/-! ## §1 Names -/

/-- The group of what is in use. -/
def foregroundGroup : String := "nemor-foreground.slice"

/-- The group of what is not. -/
def backgroundGroup : String := "nemor-background.slice"

/-- The bytes allowed in the name of a test or validation scope. -/
def isScopeByte (c : Char) : Bool :=
  c.isAlphanum || c == '.' || c == '_' || c == '-'

/-- Names of groups that belong to Nemor: the two fixed slices, and test or validation
    scopes over a closed alphabet. -/
def isManagedName (name : String) : Bool :=
  (name == foregroundGroup || name == backgroundGroup) ||
    (("nemor-test-".toList.isPrefixOf name.toList ||
        "nemor-validation-".toList.isPrefixOf name.toList) &&
      ".scope".toList.isSuffixOf name.toList &&
      name.toList.all isScopeByte)

/-- Every character of a managed name is one of the scope bytes; in particular a managed
    name has no path separator. -/
theorem isManagedName_all {name : String} (h : isManagedName name = true) :
    name.toList.all isScopeByte = true := by
  unfold isManagedName at h
  rw [Bool.or_eq_true, Bool.or_eq_true, Bool.and_eq_true, Bool.and_eq_true] at h
  rcases h with (h | h) | ⟨-, h⟩
  · rw [beq_iff_eq.1 h]
    decide
  · rw [beq_iff_eq.1 h]
    decide
  · exact h

/-! ## §2 Records -/

/-- What the host lets the daemon do with groups. -/
structure CgroupCapabilities where
  cgroupV2 : Bool
  memoryController : Bool
  hierarchy : String
  writable : Bool
  memoryLow : Bool
  memoryHigh : Bool
  attach : Bool
  deriving DecidableEq

/-- Everything is there that a mutation needs. -/
def CgroupCapabilities.mutationReady (c : CgroupCapabilities) : Bool :=
  c.cgroupV2 && c.memoryController && c.writable && c.memoryLow && c.memoryHigh && c.attach

/-- Which backend has made a group. -/
inductive BackendKind where
  | linuxCgroupfs
  | simulated
  deriving DecidableEq

/-- Limits as the actuator handles them. `none` stands for "do not write" in a request and
    for "no number" in a readback. -/
structure RequestedProperties where
  memoryLow : Option UInt64
  memoryHigh : Option UInt64
  deriving DecidableEq

/-- What is seen of a group. -/
structure GroupState where
  name : String
  path : String
  ownedByNemor : Bool
  memoryLow : Option UInt64
  memoryHigh : Option UInt64
  pids : Finset UInt32
  deriving DecidableEq

/-- A process, the group it is to be in, and its limits. -/
structure CgroupPlan where
  processCatalogId : Int64
  identity : String
  pid : UInt32
  startTimeTicks : UInt64
  sourceGroup : String
  targetGroup : String
  properties : RequestedProperties
  reason : String
  allowed : Bool
  blockReasons : List String
  dryRun : Bool
  deriving DecidableEq

/-- What a mutation has to be undone from. -/
structure MutationSnapshot where
  id : ℕ
  sessionId : Int64
  timestampNs : Int64
  processCatalogId : Int64
  identity : String
  pid : UInt32
  startTimeTicks : UInt64
  originalGroup : String
  targetGroup : String
  originalProperties : RequestedProperties
  requestedProperties : RequestedProperties
  reason : String
  applied : Bool
  verified : Bool
  rolledBack : Bool
  lastError : Option String
  deriving DecidableEq

/-! ## §3 Errors -/

/-- `backend` carries the text of the operating-system error. -/
inductive ActuatorError where
  | capability (message : String)
  | blocked (message : String)
  | backend (operation source : String)
  | verification (message : String)
  | persistence (message : String)
  deriving DecidableEq

/-- The text stored in `lastError`. -/
def ActuatorError.display : ActuatorError → String
  | .capability m => "cgroup capability unavailable: " ++ m
  | .blocked m => "mutation is blocked: " ++ m
  | .backend op source => "backend operation `" ++ op ++ "` failed: " ++ source
  | .verification m => "verification failed: " ++ m
  | .persistence m => "snapshot persistence failed: " ++ m

end Nemor.Actuator
