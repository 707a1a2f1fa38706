import Nemor.Actuator.Types
import Nemor.Lib.MachineNumbers

/-!
# Policy engine: states, inputs and their validation

The policy engine sees a machine only through `PolicyInput`. `validate` is the check every
input passes before it can move the state.
-/

namespace Nemor.Policy

open MachineNumbers

/-! ## §1 Pressure states -/

/-- The states of the host, from the mildest on. -/
inductive PressureState where
  | normal
  | watch
  | pressure
  | critical
  | emergency
  | stabilizing
  deriving DecidableEq

namespace PressureState

/-- Position in the declaration order, which is the order the comparisons use. -/
def rank : PressureState → ℕ
  | .normal => 0
  | .watch => 1
  | .pressure => 2
  | .critical => 3
  | .emergency => 4
  | .stabilizing => 5

instance : LT PressureState := ⟨fun a b => a.rank < b.rank⟩

instance (a b : PressureState) : Decidable (a < b) :=
  inferInstanceAs (Decidable (a.rank < b.rank))

/-- The three states a recovery starts from. -/
def isPressure : PressureState → Bool
  | .pressure | .critical | .emergency => true
  | _ => false

end PressureState

/-- What the engine carries from one evaluation to the next. -/
structure PersistentState where
  current : PressureState
  previous : Option PressureState
  enteredAtNs : Int64
  candidate : Option PressureState
  candidateSinceNs : Option Int64
  lastTransitionNs : Option Int64
  transitionReason : String
  deriving DecidableEq

/-- The state after a restart without trustworthy continuity. -/
def PersistentState.conservative (timestampNs : Int64) : PersistentState where
  current := .watch
  previous := none
  enteredAtNs := timestampNs
  candidate := none
  candidateSinceNs := none
  lastTransitionNs := none
  transitionReason := "restart_without_continuity"

/-! ## §2 Configuration and input -/

/-- The thresholds and the holds. -/
structure PressureConfig where
  watchAvailablePercent : UInt8
  pressureAvailablePercent : UInt8
  criticalAvailablePercent : UInt8
  emergencyAvailablePercent : UInt8
  psiSomeAvg10Threshold : F64
  psiFullAvg10Threshold : F64
  emergencyPsiFullAvg10Threshold : F64
  majorFaultRateThreshold : F64
  swapInRateThreshold : F64
  swapOutRateThreshold : F64
  stateHoldSeconds : UInt64
  recoveryHoldSeconds : UInt64

/-- What the host is used for. -/
inductive WorkloadClass where
  | idle
  | desktop
  | browserHeavy
  | development
  | gaming
  | gamingBackgroundHeavy
  | virtualization
  | memoryPressure
  | criticalPressure
  deriving DecidableEq

/-- Whether somebody works with a program. -/
inductive ForegroundState where
  | foreground
  | background
  | unknown
  deriving DecidableEq

/-- What one evaluation is given. A signal may be missing. -/
structure PolicyInput where
  timestampNs : Int64
  ramTotalBytes : UInt64
  memAvailableBytes : UInt64
  availablePercent : F64
  swapTotalBytes : Option UInt64
  swapUsedBytes : Option UInt64
  swapInPerSecond : Option F64
  swapOutPerSecond : Option F64
  majorFaultsPerSecond : Option F64
  pgscanPerSecond : Option F64
  pgstealPerSecond : Option F64
  psiMemorySomeAvg10 : Option F64
  psiMemoryFullAvg10 : Option F64
  workloadClass : Option WorkloadClass
  workloadConfidence : Option F64
  gaming : Bool
  criticalProcesses : UInt64
  protectedProcesses : UInt64
  unknownProcesses : UInt64
  foreground : ForegroundState
  cgroupCapabilities : Option Actuator.CgroupCapabilities
  actuatorAvailable : Bool
  recentSafetyEvents : UInt64
  recentDecisions : UInt64

/-! ## §3 Validation -/

/-- Why an input is refused. -/
inductive PolicyError where
  | invalidInput (field message : String)
  | timeRegression
  | serialization (message : String)
  deriving DecidableEq

/-- Refuse a field. -/
def invalid (field message : String) : Except PolicyError Unit :=
  .error (.invalidInput field message)

/-- A finite number in a range. -/
def finiteRange (field : String) (value min max : F64) : Except PolicyError Unit :=
  if value.isFinite && (min.le value && value.le max) then .ok ()
  else invalid field "must be finite and in range"

/-- One entry of the first loop of `validate`. -/
def validateRate (entry : String × Option F64) : Except PolicyError Unit :=
  if entry.2.any fun value => !value.isFinite || value.lt (.finite 0) then
    invalid entry.1 "must be finite and non-negative"
  else .ok ()

/-- One entry of the second loop of `validate`. -/
def validateBounded (entry : String × Option F64) : Except PolicyError Unit :=
  match entry.2 with
  | some value =>
    finiteRange entry.1 value (.finite 0)
      (if entry.1 == "workload_confidence" then .finite 1 else .finite 100)
  | none => .ok ()

/-- A swap that is in use beyond its size cannot have been measured. -/
def swapInconsistent (input : PolicyInput) : Bool :=
  match input.swapTotalBytes, input.swapUsedBytes with
  | some total, some used => total < used
  | _, _ => false

/-- `PolicyInput::validate`. -/
def PolicyInput.validate (input : PolicyInput) : Except PolicyError Unit := do
  if input.timestampNs < 0 then invalid "timestamp_ns" "must be non-negative"
  if input.ramTotalBytes == 0 then invalid "ram_total_bytes" "must be greater than zero"
  if input.ramTotalBytes < input.memAvailableBytes then
    invalid "mem_available_bytes" "must not exceed total RAM"
  finiteRange "available_percent" input.availablePercent (.finite 0) (.finite 100)
  if swapInconsistent input then invalid "swap_used_bytes" "must not exceed swap total"
  [("swap_in_per_second", input.swapInPerSecond),
    ("swap_out_per_second", input.swapOutPerSecond),
    ("major_faults_per_second", input.majorFaultsPerSecond),
    ("pgscan_per_second", input.pgscanPerSecond),
    ("pgsteal_per_second", input.pgstealPerSecond)].forM validateRate
  [("psi_memory_some_avg10", input.psiMemorySomeAvg10),
    ("psi_memory_full_avg10", input.psiMemoryFullAvg10),
    ("workload_confidence", input.workloadConfidence)].forM validateBounded

/-- An accepted input has a non-negative timestamp. -/
theorem validate_timestamp {input : PolicyInput} (h : input.validate = .ok ()) :
    0 ≤ input.timestampNs.toInt := by
  unfold PolicyInput.validate at h
  by_cases hneg : input.timestampNs < 0
  · simp [hneg, invalid, bind, Except.bind] at h
  · have hnn := Int64.lt_iff_toInt_lt.not.1 hneg
    simpa using hnn

end Nemor.Policy
