import Nemor.Lib.OrderedMap
import Nemor.Lib.Text
import Nemor.Pressure.HoldSampling

/-!
# The verdict on a held level

At the end of a hold the executor reads the counters of the host, of the worker's cgroup and of the
processes, and classifies the level. Each of these files may be missing or unreadable. A verdict
should rest on what was measured: a level is sustainable when everything was measured and within
its limits, and unsustainable when a measured value was not.

- §1: readings
- §2: the gates and the verdict
- §3: what a reading says
- §4: when the verdict rests on measurements
- §5: levels judged without a measurement
-/

namespace Nemor.Pressure

open Capacity Fallible MachineNumbers UnixPath

/-! ## §1 Readings -/

/-- Lines of a name and a number; other lines are passed over. -/
def counterMap (text : List Char) : List Char → Option UInt64 :=
  HashMap.collect <| (Text.lines text).filterMap fun line =>
    match Text.splitWhitespace line with
    | name :: value :: _ => (Text.parseU64 value).map fun value => (name, value)
    | _ => none

/-- A counter of a file that may not be readable. -/
def counterOf (file : Option (List Char)) (name : String) : Option UInt64 :=
  file.bind fun text => counterMap text name.toList

/-- A file of one number. -/
def scalar (file : Option (List Char)) : Option UInt64 :=
  file.bind fun text => Text.parseU64 (Text.trim text)

/-- User and system time of a process, from what follows its name in parentheses. -/
def processCpuTicks (stat : Option (List Char)) : Option UInt64 := do
  let text ← stat
  if ')' ∈ text then
    let fields := Text.splitWhitespace (text.reverse.takeWhile (· ≠ ')')).reverse
    let user ← fields[11]?.bind Text.parseU64
    let system ← fields[12]?.bind Text.parseU64
    checkedAdd user system
  else none

/-- The sectors written by all devices, in bytes. -/
def blockWriteBytes (diskstats : Option (List Char)) : Option UInt64 := do
  let text ← diskstats
  (Text.lines text).foldlM (fun sum line => do
    let sectors ← (Text.splitWhitespace line)[9]?.bind Text.parseU64
    let bytes ← checkedMul sectors 512
    checkedAdd sum bytes) 0

/-- The difference of two readings of a counter. -/
def relativeCounter (before after : Option UInt64) : Option UInt64 := do
  let a ← before
  let b ← after
  checkedSub b a

/-- A number of pages in bytes. -/
def pagesInBytes (pages : Option UInt64) : Option UInt64 := pages.bind fun n => checkedMul n 4096

/-- `Err` for what is not a percentage. -/
def psiAvg10ThresholdCrossed (observed threshold : F64) : Except String Bool :=
  if observed.isFinite = false ∨ threshold.isFinite = false ∨ observed.lt (.finite 0) = true ∨
      threshold.lt (.finite 0) = true ∨ (F64.finite 100).lt observed = true ∨
      (F64.finite 100).lt threshold = true then
    .error "PSI avg10 values must use Linux percent units in [0,100]"
  else .ok (threshold.le observed)

/-- The part of `PressureHealthPolicy` that a level is judged by. -/
structure PressureHealthLimits where
  hostPsiFullAvg10Emergency : F64
  cgroupPsiFullAvg10Unsustainable : F64
  maxMajorFaultsPerLevel : UInt64
  maxSwapInBytesPerLevel : UInt64
  maxSwapOutBytesPerLevel : UInt64
  maxBlockWritesBytesPerLevel : UInt64

/-- What is read for a level, with `none` for a file that cannot be read. -/
structure HoldReadings where
  -- `/proc/vmstat` at the start of the run, before the level and twice after the hold
  vmstatAtStart : Option (List Char)
  vmstatBefore : Option (List Char)
  vmstatAtEnd : Option (List Char)
  vmstatAfter : Option (List Char)
  diskstatsBefore : Option (List Char)
  diskstatsAfter : Option (List Char)
  workerStatBefore : Option (List Char)
  workerStatAfter : Option (List Char)
  runnerStatBefore : Option (List Char)
  runnerStatAfter : Option (List Char)
  memoryEvents : Option (List Char)
  memoryMax : Option (List Char)
  membership : Option (List Char)
  workerStartTicks : Option UInt64
  observerHeld : Bool
  samples : List PressureLevelSample
  endedNs : ℕ

/-- What the level was planned as, and what is known of its worker. -/
structure HeldLevel where
  variant : BenchmarkVariant
  limits : PressureHealthLimits
  holdDurationMs : UInt64
  sampleIntervalMs : UInt64
  workerMemoryMaxBytes : UInt64
  targetTouchedBytes : UInt64
  startTicks : UInt64
  controlGroup : String

/-! ## §2 The gates and the verdict -/

/-- What was observed during a hold, gate by gate. -/
structure LevelGateObservations where
  workerAlive : Bool
  workerIdentity : Bool
  heartbeatFresh : Bool
  workerIntegrity : Bool
  cgroupMembership : Bool
  memoryLimitContract : Bool
  hostPsi : Bool
  cgroupPsi : Bool
  majorFaults : Bool
  swapIn : Bool
  swapOut : Bool
  blockWrites : Bool
  workerCpu : Bool
  runnerCpu : Bool
  observerContract : Bool
  elapsedDuration : Bool

/-- The name of the gate, as `Debug` prints it. -/
def HealthGate.debug : HealthGate → String
  | .workerAlive => "WorkerAlive"
  | .workerIdentity => "WorkerIdentity"
  | .heartbeatFresh => "HeartbeatFresh"
  | .workerIntegrity => "WorkerIntegrity"
  | .cgroupMembership => "CgroupMembership"
  | .memoryLimitContract => "MemoryLimitContract"
  | .hostPsi => "HostPsi"
  | .cgroupPsi => "CgroupPsi"
  | .majorFaults => "MajorFaults"
  | .swapIn => "SwapIn"
  | .swapOut => "SwapOut"
  | .blockWrites => "BlockWrites"
  | .workerCpu => "WorkerCpu"
  | .runnerCpu => "RunnerCpu"
  | .observerContract => "ObserverContract"
  | .elapsedDuration => "ElapsedDuration"
  | .restoreOwnership => "RestoreOwnership"

/-- Whether a gate has passed. -/
def LevelGateObservations.passed (o : LevelGateObservations) : HealthGate → Bool
  | .workerAlive => o.workerAlive
  | .workerIdentity => o.workerIdentity
  | .heartbeatFresh => o.heartbeatFresh
  | .workerIntegrity => o.workerIntegrity
  | .cgroupMembership => o.cgroupMembership
  | .memoryLimitContract => o.memoryLimitContract
  | .hostPsi => o.hostPsi
  | .cgroupPsi => o.cgroupPsi
  | .majorFaults => o.majorFaults
  | .swapIn => o.swapIn
  | .swapOut => o.swapOut
  | .blockWrites => o.blockWrites
  | .workerCpu => o.workerCpu
  | .runnerCpu => o.runnerCpu
  | .observerContract => o.observerContract
  | .elapsedDuration => o.elapsedDuration
  | .restoreOwnership => false

/-- The gates of a variant with their results. -/
def granularHealthGates (variant : BenchmarkVariant) (observed : LevelGateObservations) :
    List (HealthGate × HealthGateResult) :=
  (requiredLevelHealthGates variant).map fun gate =>
    (gate,
      { passed := observed.passed gate
        mandatory := true
        reason := if observed.passed gate then none
          else some (gate.debug ++ " evidence missing or failed") })

section Verdict

variable (level : HeldLevel) (r : HoldReadings)

/-- OOM kills on the host. -/
def HoldReadings.hostOomDelta : Option UInt64 :=
  relativeCounter (counterOf r.vmstatAtStart "oom_kill") (counterOf r.vmstatAtEnd "oom_kill")

/-- A file that cannot be read counts as one without entries, and a missing entry as zero. -/
def HoldReadings.oom : UInt64 := (counterOf r.memoryEvents "oom").getD 0

/-- OOM kills in the group. An unreadable file counts none. -/
def HoldReadings.oomKill : UInt64 := (counterOf r.memoryEvents "oom_kill").getD 0

/-- Major faults. -/
def HoldReadings.majorFaultDelta : Option UInt64 :=
  relativeCounter (counterOf r.vmstatBefore "pgmajfault") (counterOf r.vmstatAfter "pgmajfault")

/-- Bytes that were swapped in. -/
def HoldReadings.swapInBytesDelta : Option UInt64 :=
  pagesInBytes
    (relativeCounter (counterOf r.vmstatBefore "pswpin") (counterOf r.vmstatAfter "pswpin"))

/-- Bytes that were swapped out. -/
def HoldReadings.swapOutBytesDelta : Option UInt64 :=
  pagesInBytes
    (relativeCounter (counterOf r.vmstatBefore "pswpout") (counterOf r.vmstatAfter "pswpout"))

/-- Bytes that were written to disks. -/
def HoldReadings.blockWriteBytesDelta : Option UInt64 :=
  relativeCounter (blockWriteBytes r.diskstatsBefore) (blockWriteBytes r.diskstatsAfter)

/-- Ticks of the worker. -/
def HoldReadings.workerCpuDelta : Option UInt64 :=
  relativeCounter (processCpuTicks r.workerStatBefore) (processCpuTicks r.workerStatAfter)

/-- Ticks of the runner. -/
def HoldReadings.runnerCpuDelta : Option UInt64 :=
  relativeCounter (processCpuTicks r.runnerStatBefore) (processCpuTicks r.runnerStatAfter)

/-- `is_some_and` with a limit. -/
def atMost (limit : UInt64) (delta : Option UInt64) : Bool := delta.any fun value => value ≤ limit

/-- A sample below its threshold; one without a value, or with no percentage, is not. -/
def psiHealthy (threshold : F64) (percent : Option F64) : Bool :=
  percent.any fun value =>
    match psiAvg10ThresholdCrossed value threshold with
    | .ok crossed => !crossed
    | .error _ => false

/-- The hold lasted long enough and has a sample for every interval. -/
def elapsedHealthy : Bool :=
  U64.saturatingSub level.holdDurationMs level.sampleIntervalMs ≤ millis r.endedNs &&
    (level.holdDurationMs.toNat + (level.sampleIntervalMs.toNat - 1)) /
      level.sampleIntervalMs.toNat ≤ r.samples.length

/-- The observations of a hold, from its readings. -/
def observeHold : LevelGateObservations where
  workerAlive := r.samples.all fun sample => sample.workerAlive
  workerIdentity := r.workerStartTicks = some level.startTicks
  heartbeatFresh := r.samples.all fun sample =>
    sample.heartbeatTouchedBytes = level.targetTouchedBytes
  workerIntegrity := r.samples.all fun sample => sample.integrityIdentity.isSome
  cgroupMembership := r.membership.any fun text => contains (String.ofList text) level.controlGroup
  memoryLimitContract := scalar r.memoryMax = some level.workerMemoryMaxBytes
  hostPsi := r.samples.all fun sample =>
    psiHealthy level.limits.hostPsiFullAvg10Emergency sample.hostMemoryFullAvg10Percent
  cgroupPsi := r.samples.all fun sample =>
    psiHealthy level.limits.cgroupPsiFullAvg10Unsustainable sample.cgroupMemoryFullAvg10Percent
  majorFaults := atMost level.limits.maxMajorFaultsPerLevel r.majorFaultDelta
  swapIn := atMost level.limits.maxSwapInBytesPerLevel r.swapInBytesDelta
  swapOut := atMost level.limits.maxSwapOutBytesPerLevel r.swapOutBytesDelta
  blockWrites := atMost level.limits.maxBlockWritesBytesPerLevel r.blockWriteBytesDelta
  workerCpu := r.workerCpuDelta.isSome
  runnerCpu := r.runnerCpuDelta.isSome
  observerContract := level.variant = .cachyosBaseline || r.observerHeld
  elapsedDuration := elapsedHealthy level r

/-- `runtime_healthy` -/
def runtimeHealthy (observed : LevelGateObservations) : Bool :=
  observed.majorFaults && observed.swapIn && observed.swapOut && observed.blockWrites

/-- `identity_healthy` -/
def identityHealthy : Bool :=
  r.samples.all fun sample => sample.workerAlive &&
    sample.heartbeatTouchedBytes = level.targetTouchedBytes && sample.integrityIdentity.isSome

/-- The first reason to end the whole experiment. -/
def safetyAbort : Option SafetyAbortClass :=
  let observed := observeHold level r
  if r.hostOomDelta.any fun value => 0 < value then some .hostOomDetected
  else if !observed.hostPsi then some .hostPsiEmergency
  else if !observed.workerAlive || !observed.workerIdentity then some .workerIdentityLost
  else if !observed.cgroupMembership then some .cgroupOwnershipLost
  else if !observed.memoryLimitContract then some .memoryLimitContractBroken
  else if !observed.observerContract then some .observerContractBroken
  else none

/-- No gate has failed. -/
def everyHealthGatePassed : Bool :=
  (granularHealthGates level.variant (observeHold level r)).all fun gate =>
    gate.2.mandatory && gate.2.passed

/-- What a level has shown. -/
def classifyLevel : LevelClassification :=
  if (safetyAbort level r).isSome then .safetyAbort
  else if 0 < r.oom ∨ 0 < r.oomKill ∨ runtimeHealthy (observeHold level r) = false ∨
      identityHealthy level r = false ∨ everyHealthGatePassed level r = false then
    .unsustainableHealth
  else .sustainable

end Verdict

/-! ## §3 What a reading says -/

/-- What is known of a quantity with a limit. -/
inductive Reading where
  | missing
  | within
  | violated
  deriving DecidableEq

/-- A check whose answer is always there. -/
def Reading.ofBool (held : Bool) : Reading := if held then .within else .violated

/-- A measurement against its limit. -/
def Reading.ofLimit (limit : UInt64) : Option UInt64 → Reading
  | none => .missing
  | some value => if value ≤ limit then .within else .violated

/-- A quantity that only has to be there. -/
def Reading.ofPresent {α : Type} : Option α → Reading
  | none => .missing
  | some _ => .within

/-- A percentage; a value that is none was not measured. -/
def Reading.ofPsi (threshold : F64) : Option F64 → Reading
  | none => .missing
  | some value =>
    match psiAvg10ThresholdCrossed value threshold with
    | .ok crossed => .ofBool !crossed
    | .error _ => .missing

@[simp] theorem Reading.ofBool_eq_within {held : Bool} : ofBool held = .within ↔ held = true := by
  cases held <;> simp [ofBool]

@[simp] theorem Reading.ofBool_eq_violated {held : Bool} :
    ofBool held = .violated ↔ held = false := by
  cases held <;> simp [ofBool]

@[simp] theorem Reading.ofLimit_eq_within {limit : UInt64} {delta : Option UInt64} :
    ofLimit limit delta = .within ↔ atMost limit delta = true := by
  cases delta with
  | none => simp [ofLimit, atMost]
  | some value => by_cases hle : value ≤ limit <;> simp [ofLimit, atMost, hle]

@[simp] theorem Reading.ofPresent_eq_within {α : Type} {o : Option α} :
    ofPresent o = .within ↔ o.isSome = true := by
  cases o <;> simp [ofPresent]

@[simp] theorem Reading.ofPsi_eq_within {threshold : F64} {percent : Option F64} :
    ofPsi threshold percent = .within ↔ psiHealthy threshold percent = true := by
  cases percent with
  | none => simp [ofPsi, psiHealthy]
  | some value =>
    cases h : psiAvg10ThresholdCrossed value threshold with
    | error e => simp [ofPsi, psiHealthy, h]
    | ok crossed => simp [ofPsi, psiHealthy, h]

/-- A counter above zero. -/
theorem Reading.ofLimit_zero_eq_violated {delta : Option UInt64} :
    ofLimit 0 delta = .violated ↔ ∃ value, delta = some value ∧ 0 < value := by
  cases delta with
  | none => simp [ofLimit]
  | some value =>
    by_cases hle : value ≤ 0
    · simp [ofLimit, hle, UInt64.not_lt.2 hle]
    · simp [ofLimit, hle, UInt64.not_le.1 hle]

/-- A decision that passes when all of some readings are within their limits, but of others asks
    only that they are not above them, rests on measurements if and only if something was violated
    or nothing is missing. -/
theorem backed_iff {sure unsure : List Reading} {pass : Prop}
    (hpass : pass ↔ (∀ o ∈ sure, o = .within) ∧ ∀ o ∈ unsure, o ≠ .violated) :
    ((pass → ∀ o ∈ unsure ++ sure, o = .within) ∧
        (¬ pass → ∃ o ∈ unsure ++ sure, o = .violated)) ↔
      (∃ o ∈ unsure ++ sure, o = .violated) ∨ ∀ o ∈ unsure ++ sure, o ≠ .missing := by
  have hthird (o : Reading) (hmissing : o ≠ .missing) (hviolated : o ≠ .violated) : o = .within := by
    cases o with
    | missing => exact absurd rfl hmissing
    | within => rfl
    | violated => exact absurd rfl hviolated
  -- what is violated is not passed
  have hfails (hviolated : ∃ o ∈ unsure ++ sure, o = .violated) : ¬ pass := by
    intro h
    obtain ⟨o, ho, rfl⟩ := hviolated
    obtain ⟨hsure, hunsure⟩ := hpass.1 h
    rcases List.mem_append.1 ho with ho | ho
    · exact absurd rfl (hunsure _ ho)
    · exact absurd (hsure _ ho) (by decide)
  constructor
  · rintro ⟨hall, hsome⟩
    by_cases h : pass
    · refine .inr fun o ho => ?_
      rw [hall h o ho]
      decide
    · exact .inl (hsome h)
  · intro h
    by_cases hviolated : ∃ o ∈ unsure ++ sure, o = .violated
    · exact ⟨fun hpassed => absurd hpassed (hfails hviolated), fun _ => hviolated⟩
    · -- all there and none violated: all within, and passed
      have hpresent := h.resolve_left hviolated
      have hwithin : ∀ o ∈ unsure ++ sure, o = .within := fun o ho =>
        hthird o (hpresent o ho) fun h => hviolated ⟨o, ho, h⟩
      refine ⟨fun _ => hwithin, fun hnot => absurd (hpass.2 ⟨?_, ?_⟩) hnot⟩
      · exact fun o ho => hwithin o (List.mem_append_right _ ho)
      · exact fun o ho h => hviolated ⟨o, List.mem_append_left _ ho, h⟩

/-! ## §4 When the verdict rests on measurements -/

section Verdict

variable (level : HeldLevel) (r : HoldReadings)

/-- The counters of out-of-memory events, which have to be zero. -/
def oomReadings : List Reading :=
  [.ofLimit 0 r.hostOomDelta, .ofLimit 0 (counterOf r.memoryEvents "oom"),
    .ofLimit 0 (counterOf r.memoryEvents "oom_kill")]

/-- What a sample says of the level. -/
def sampleReadings (sample : PressureLevelSample) : List Reading :=
  [.ofPsi level.limits.hostPsiFullAvg10Emergency sample.hostMemoryFullAvg10Percent,
    .ofPsi level.limits.cgroupPsiFullAvg10Unsustainable sample.cgroupMemoryFullAvg10Percent,
    .ofBool (sample.heartbeatTouchedBytes = level.targetTouchedBytes),
    .ofPresent sample.integrityIdentity]

/-- What the files say of the level. -/
def deltaReadings : List Reading :=
  [.ofLimit level.limits.maxMajorFaultsPerLevel r.majorFaultDelta,
    .ofLimit level.limits.maxSwapInBytesPerLevel r.swapInBytesDelta,
    .ofLimit level.limits.maxSwapOutBytesPerLevel r.swapOutBytesDelta,
    .ofLimit level.limits.maxBlockWritesBytesPerLevel r.blockWriteBytesDelta,
    .ofPresent r.workerCpuDelta, .ofPresent r.runnerCpuDelta, .ofBool (elapsedHealthy level r)]

/-- Every observation at the end of a hold. -/
def holdReadings : List Reading :=
  oomReadings r ++ (deltaReadings level r ++ r.samples.flatMap (sampleReadings level))

/-- What ends the whole run: the level is not judged. -/
inductive Endangered : Prop where
  | hostOom (h : Reading.ofLimit 0 r.hostOomDelta = .violated)
  | hostPsi (sample : PressureLevelSample) (h : sample ∈ r.samples)
      (hpsi : Reading.ofPsi level.limits.hostPsiFullAvg10Emergency
        sample.hostMemoryFullAvg10Percent ≠ .within)
  | workerDied (sample : PressureLevelSample) (h : sample ∈ r.samples)
      (hdied : sample.workerAlive = false)
  | workerReplaced (h : r.workerStartTicks ≠ some level.startTicks)
  | cgroupLost (h : ∀ text, r.membership = some text →
      contains (String.ofList text) level.controlGroup = false)
  | memoryMaxChanged (h : scalar r.memoryMax ≠ some level.workerMemoryMaxBytes)
  | observerLost (h : level.variant ≠ .cachyosBaseline) (hlost : r.observerHeld = false)

/-- The level is judged when none of the checks of the run has failed. -/
theorem safetyAbort_eq_none_iff : safetyAbort level r = none ↔
    (r.hostOomDelta.any fun value => 0 < value) = false ∧
      (observeHold level r).hostPsi = true ∧ (observeHold level r).workerAlive = true ∧
      (observeHold level r).workerIdentity = true ∧
      (observeHold level r).cgroupMembership = true ∧
      (observeHold level r).memoryLimitContract = true ∧
      (observeHold level r).observerContract = true := by
  unfold safetyAbort
  generalize (r.hostOomDelta.any fun value => decide (0 < value)) = oom
  generalize observeHold level r = observed
  cases oom with
  | true => simp
  | false => grind

theorem hostOom_any_iff : (r.hostOomDelta.any fun value => 0 < value) = true ↔
    Reading.ofLimit 0 r.hostOomDelta = .violated := by
  rw [Reading.ofLimit_zero_eq_violated]
  simp [Option.any_eq_true]

theorem safetyAbort_isSome_iff : (safetyAbort level r).isSome = true ↔ Endangered level r := by
  rw [← not_iff_not, Bool.not_eq_true, Option.isSome_eq_false_iff, Option.isNone_iff_eq_none,
    safetyAbort_eq_none_iff]
  constructor
  · -- the tests of the code in their order, against the ways to be endangered
    rintro ⟨hoom, hpsi, halive, hidentity, hmember, hmax, hobserver⟩ hend
    cases hend with
    | hostOom h => exact absurd ((hostOom_any_iff r).2 h) (by simp [hoom])
    | hostPsi sample h hpsi' =>
      exact hpsi' (Reading.ofPsi_eq_within.2 (List.all_eq_true.1 hpsi sample h))
    | workerDied sample h hdied =>
      exact absurd (List.all_eq_true.1 halive sample h) (by simp [hdied])
    | workerReplaced h => exact h (of_decide_eq_true hidentity)
    | cgroupLost h =>
      obtain ⟨text, htext, hin⟩ := (Option.any_eq_true _ _).1 hmember
      exact absurd hin (by simp [h text htext])
    | memoryMaxChanged h => exact h (of_decide_eq_true hmax)
    | observerLost h hlost => simp [observeHold, h, hlost] at hobserver
  · intro hsafe
    refine ⟨?_, ?_, ?_, ?_, ?_, ?_, ?_⟩
    · rw [Bool.eq_false_iff]
      exact fun h => hsafe (.hostOom ((hostOom_any_iff r).1 h))
    · refine List.all_eq_true.2 fun sample h => ?_
      by_contra hpsi
      exact hsafe (.hostPsi sample h fun hw => hpsi (Reading.ofPsi_eq_within.1 hw))
    · refine List.all_eq_true.2 fun sample h => ?_
      by_contra hdied
      exact hsafe (.workerDied sample h (Bool.eq_false_iff.2 hdied))
    · by_contra h
      exact hsafe (.workerReplaced fun heq => h (decide_eq_true heq))
    · by_contra h
      refine hsafe (.cgroupLost fun text htext => Bool.eq_false_iff.2 fun hin => h ?_)
      exact (Option.any_eq_true _ _).2 ⟨text, htext, hin⟩
    · by_contra h
      exact hsafe (.memoryMaxChanged fun heq => h (decide_eq_true heq))
    · by_contra h
      simp only [observeHold, Bool.or_eq_true, decide_eq_true_eq, not_or] at h
      exact hsafe (.observerLost h.1 (Bool.eq_false_iff.2 h.2))

/-- All gates of the level, those of the run included. -/
theorem everyHealthGatePassed_iff (hsafe : ¬ Endangered level r) :
    everyHealthGatePassed level r = true ↔
      (observeHold level r).heartbeatFresh = true ∧ (observeHold level r).workerIntegrity = true ∧
      (observeHold level r).cgroupPsi = true ∧ (observeHold level r).majorFaults = true ∧
      (observeHold level r).swapIn = true ∧ (observeHold level r).swapOut = true ∧
      (observeHold level r).blockWrites = true ∧ (observeHold level r).workerCpu = true ∧
      (observeHold level r).runnerCpu = true ∧ (observeHold level r).elapsedDuration = true := by
  rw [← safetyAbort_isSome_iff, Bool.not_eq_true, Option.isSome_eq_false_iff,
    Option.isNone_iff_eq_none, safetyAbort_eq_none_iff] at hsafe
  obtain ⟨-, hpsi, halive, hidentity, hmember, hmax, hobserver⟩ := hsafe
  have hgates : everyHealthGatePassed level r = true ↔
      ∀ gate ∈ requiredLevelHealthGates level.variant,
        (observeHold level r).passed gate = true := by
    simp [everyHealthGatePassed, granularHealthGates]
  rw [hgates]
  have hlast : ∀ gate ∈ (if level.variant = .nemorObserve then [HealthGate.observerContract] else []),
      (observeHold level r).passed gate = true := by
    split
    · simpa [LevelGateObservations.passed] using hobserver
    · simp
  unfold requiredLevelHealthGates
  simp only [List.forall_mem_append, List.forall_mem_cons, LevelGateObservations.passed]
  grind

/-- What a level has to show to be sustainable: for the out-of-memory events, only that none were
    counted. -/
def ShowsSustainable : Prop :=
  (∀ o ∈ deltaReadings level r ++ r.samples.flatMap (sampleReadings level), o = .within) ∧
    ∀ o ∈ oomReadings r, o ≠ .violated

theorem oom_pos_iff (name : String) : 0 < (counterOf r.memoryEvents name).getD 0 ↔
    Reading.ofLimit 0 (counterOf r.memoryEvents name) = .violated := by
  rw [Reading.ofLimit_zero_eq_violated]
  cases counterOf r.memoryEvents name <;> simp

theorem identityHealthy_iff : identityHealthy level r = true ↔
    (observeHold level r).workerAlive = true ∧ (observeHold level r).heartbeatFresh = true ∧
      (observeHold level r).workerIntegrity = true := by
  simp only [identityHealthy, observeHold, List.all_eq_true, Bool.and_eq_true]
  constructor
  · intro h
    exact ⟨fun s hs => (h s hs).1.1, fun s hs => (h s hs).1.2, fun s hs => (h s hs).2⟩
  · rintro ⟨halive, hfresh, hintegrity⟩ s hs
    exact ⟨⟨halive s hs, hfresh s hs⟩, hintegrity s hs⟩

theorem sampleReadings_within_iff (hsafe : ¬ Endangered level r) :
    (∀ o ∈ r.samples.flatMap (sampleReadings level), o = .within) ↔
      (observeHold level r).heartbeatFresh = true ∧ (observeHold level r).workerIntegrity = true ∧
        (observeHold level r).cgroupPsi = true := by
  have hpsi : ∀ sample ∈ r.samples, Reading.ofPsi level.limits.hostPsiFullAvg10Emergency
      sample.hostMemoryFullAvg10Percent = .within := fun sample h => by
    by_contra hpsi
    exact hsafe (.hostPsi sample h hpsi)
  simp only [observeHold, List.all_eq_true, List.mem_flatMap, sampleReadings, List.mem_cons,
    List.not_mem_nil, or_false]
  constructor
  · intro h
    refine ⟨fun s hs => ?_, fun s hs => ?_, fun s hs => ?_⟩
    · exact Reading.ofBool_eq_within.1 (h _ ⟨s, hs, .inr (.inr (.inl rfl))⟩)
    · exact Reading.ofPresent_eq_within.1 (h _ ⟨s, hs, .inr (.inr (.inr rfl))⟩)
    · exact Reading.ofPsi_eq_within.1 (h _ ⟨s, hs, .inr (.inl rfl)⟩)
  · rintro ⟨hfresh, hintegrity, hcgroup⟩ o ⟨s, hs, rfl | rfl | rfl | rfl⟩
    · exact hpsi s hs
    · exact Reading.ofPsi_eq_within.2 (hcgroup s hs)
    · exact Reading.ofBool_eq_within.2 (hfresh s hs)
    · exact Reading.ofPresent_eq_within.2 (hintegrity s hs)

theorem deltaReadings_within_iff : (∀ o ∈ deltaReadings level r, o = .within) ↔
    (observeHold level r).majorFaults = true ∧ (observeHold level r).swapIn = true ∧
      (observeHold level r).swapOut = true ∧ (observeHold level r).blockWrites = true ∧
      (observeHold level r).workerCpu = true ∧ (observeHold level r).runnerCpu = true ∧
      (observeHold level r).elapsedDuration = true := by
  simp [deltaReadings, observeHold]

theorem oomReadings_iff (hsafe : ¬ Endangered level r) :
    (∀ o ∈ oomReadings r, o ≠ .violated) ↔ ¬ 0 < r.oom ∧ ¬ 0 < r.oomKill := by
  have hhost : Reading.ofLimit 0 r.hostOomDelta ≠ .violated := fun h => hsafe (.hostOom h)
  simp only [oomReadings, HoldReadings.oom, HoldReadings.oomKill, oom_pos_iff, List.forall_mem_cons,
    List.not_mem_nil, false_implies, implies_true, and_true]
  exact and_iff_right hhost

/-- A run that is not ended judges the level by what it shows. -/
theorem classifyLevel_of_safe (hsafe : ¬ Endangered level r) :
    (classifyLevel level r = .sustainable ↔ ShowsSustainable level r) ∧
      (classifyLevel level r = .unsustainableHealth ↔ ¬ ShowsSustainable level r) := by
  have hnone : (safetyAbort level r).isSome = false :=
    Bool.eq_false_iff.2 fun h => hsafe ((safetyAbort_isSome_iff level r).1 h)
  have halive : (observeHold level r).workerAlive = true :=
    ((safetyAbort_eq_none_iff level r).1 (Option.isNone_iff_eq_none.1
      (Option.isSome_eq_false_iff.1 hnone))).2.2.1
  have hpasses : ShowsSustainable level r ↔ ¬ (0 < r.oom ∨ 0 < r.oomKill ∨
      runtimeHealthy (observeHold level r) = false ∨ identityHealthy level r = false ∨
        everyHealthGatePassed level r = false) := by
    simp only [ShowsSustainable, List.forall_mem_append, deltaReadings_within_iff,
      sampleReadings_within_iff level r hsafe, oomReadings_iff level r hsafe, not_or,
      Bool.not_eq_false, identityHealthy_iff, everyHealthGatePassed_iff level r hsafe,
      runtimeHealthy, Bool.and_eq_true, halive]
    tauto
  rw [hpasses]
  unfold classifyLevel
  rw [hnone, if_neg (by simp)]
  split <;> simp [*]

/-- Every verdict rests on measurements: a sustainable level has all of them within their limits,
    and an unsustainable one has one that is not. -/
theorem verdict_measured_iff :
    ((classifyLevel level r = .sustainable → ∀ o ∈ holdReadings level r, o = .within) ∧
        (classifyLevel level r = .unsustainableHealth →
          ∃ o ∈ holdReadings level r, o = .violated)) ↔
      Endangered level r ∨ (∃ o ∈ holdReadings level r, o = .violated) ∨
        ∀ o ∈ holdReadings level r, o ≠ .missing := by
  by_cases hsafe : Endangered level r
  · have habort : classifyLevel level r = .safetyAbort :=
      if_pos ((safetyAbort_isSome_iff level r).2 hsafe)
    simp [habort, hsafe]
  · obtain ⟨hsustainable, hunsustainable⟩ := classifyLevel_of_safe level r hsafe
    rw [hsustainable, hunsustainable, or_iff_right hsafe]
    exact backed_iff Iff.rfl

end Verdict

/-! ## §5 Levels judged without a measurement -/

/-- A worker held for two samples. -/
def heldWorker : HeldLevel where
  variant := .cachyosBaseline
  limits :=
    { hostPsiFullAvg10Emergency := .finite 20
      cgroupPsiFullAvg10Unsustainable := .finite 10
      maxMajorFaultsPerLevel := 100
      maxSwapInBytesPerLevel := 0
      maxSwapOutBytesPerLevel := 0
      maxBlockWritesBytesPerLevel := 1048576 }
  holdDurationMs := 1000
  sampleIntervalMs := 500
  workerMemoryMaxBytes := 4096
  targetTouchedBytes := 4096
  startTicks := 7
  controlGroup := "/nemor.scope"

/-- A sample without pressure. -/
def quietSample : PressureLevelSample where
  monotonicNs := 1
  memoryCurrentBytes := some 4096
  hostMemoryFullAvg10Percent := some (.finite 0)
  cgroupMemoryFullAvg10Percent := some (.finite 0)
  workerAlive := true
  heartbeatTouchedBytes := 4096
  integrityIdentity := some "aa"

/-- Counters that do not move. -/
def quietVmstat : List Char := "oom_kill 0\npgmajfault 3\npswpin 0\npswpout 0".toList

/-- One disk. -/
def quietDiskstats : List Char := "8 0 sda 1 2 3 4 5 6 7".toList

/-- A worker with ten ticks. -/
def quietStat : List Char := "9 (worker) S 1 1 1 0 -1 0 0 0 0 0 5 5".toList

/-- Everything measured and within its limits. -/
def quietReadings : HoldReadings where
  vmstatAtStart := some quietVmstat
  vmstatBefore := some quietVmstat
  vmstatAtEnd := some quietVmstat
  vmstatAfter := some quietVmstat
  diskstatsBefore := some quietDiskstats
  diskstatsAfter := some quietDiskstats
  workerStatBefore := some quietStat
  workerStatAfter := some quietStat
  runnerStatBefore := some quietStat
  runnerStatAfter := some quietStat
  memoryEvents := some "oom 0\noom_kill 0".toList
  memoryMax := some "4096\n".toList
  membership := some "0::/nemor.scope\n".toList
  workerStartTicks := some 7
  observerHeld := false
  samples := [quietSample, quietSample]
  endedNs := 1000000000

example : classifyLevel heldWorker quietReadings = .sustainable := by decide +kernel

/-- Without `memory.events` the level is sustainable, and without the counters of the start it is
    unsustainable with nothing above its limit. -/
theorem unread_files_decide :
    (classifyLevel heldWorker { quietReadings with memoryEvents := none } = .sustainable ∧
      ¬ ∀ o ∈ holdReadings heldWorker { quietReadings with memoryEvents := none }, o = .within) ∧
    classifyLevel heldWorker { quietReadings with vmstatBefore := none } = .unsustainableHealth ∧
      ¬ ∃ o ∈ holdReadings heldWorker { quietReadings with vmstatBefore := none },
        o = .violated := by
  decide +kernel

end Nemor.Pressure
