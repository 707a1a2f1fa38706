import Nemor.Lib.Polling
import Nemor.Pressure.Experiment

/-!
# Sampling the hold of a level

While a level is held the worker is sampled: the executor sleeps for the sample interval, asks the
worker for a heartbeat and reads the memory, and does so until the hold is over. The record of the
level is accepted only with a sample for every interval of the hold. The intervals are not kept to
a schedule: what a pass takes beyond its interval pushes back all passes after it.

- §1: the loop
- §2: how many samples it takes
- §3: whether the record covers the hold
- §4: passes that are late and passes that are not
-/

namespace Nemor.Pressure

open Fallible MachineNumbers Polling

/-! ## §1 The loop -/

/-- Milliseconds in nanoseconds, the unit of the monotonic clock. -/
def msToNs (ms : UInt64) : ℕ := ms.toNat * 1000000

/-- One pass of the loop: how long it takes from one reading of the clock to the next, and the
    sample, or why the worker did not give one. -/
structure HoldPass where
  duration : ℕ
  sample : Except WorkloadError PressureLevelSample

/-- What the loop leaves: the samples and the time that the hold took. -/
structure HoldEnd where
  samples : List PressureLevelSample
  endedNs : ℕ

/-- The sampling loop, from a time and the samples so far. A level has a deadline, as the time that
    was left for it when its hold started. -/
def holdLoop (plan : ProgressivePressurePlan) (deadline : ℕ) (passes : ℕ → HoldPass) :
    ℕ → ℕ → List PressureLevelSample → Option (Except WorkloadError HoldEnd)
  | 0, _, _ => none
  | fuel + 1, elapsed, samples =>
    if elapsed < msToNs plan.holdDurationMs then
      if deadline ≤ elapsed then some (.error (.watchdogTimeout "level lifecycle"))
      else
        match (passes samples.length).sample with
        | .error e => some (.error e)
        | .ok sample =>
          holdLoop plan deadline passes fuel (elapsed + (passes samples.length).duration)
            (samples ++ [sample])
    else some (.ok { samples := samples, endedNs := elapsed })

/-- The samples that a record of the plan has to have. -/
def minimumSamples (plan : ProgressivePressurePlan) : ℕ :=
  (plan.holdDurationMs.toNat + (plan.sampleIntervalMs.toNat - 1)) / plan.sampleIntervalMs.toNat

/-- A worker that answers each pass within the heartbeat timeout. -/
structure Responsive (plan : ProgressivePressurePlan) (passes : ℕ → HoldPass) : Prop where
  sampled : ∀ i, (passes i).sample.isOk = true
  slept : ∀ i, msToNs plan.sampleIntervalMs ≤ (passes i).duration
  answered : ∀ i, (passes i).duration ≤
    msToNs plan.sampleIntervalMs + msToNs plan.watchdog.heartbeatTimeoutMs

/-- The time that the first passes take. -/
abbrev passesTake (passes : ℕ → HoldPass) (n : ℕ) : ℕ := clock (fun i => (passes i).duration) n

/-! ## §2 How many samples are taken -/

section Loop

variable {plan : ProgressivePressurePlan} {deadline : ℕ} {passes : ℕ → HoldPass} {fuel n : ℕ}
  {samples : List PressureLevelSample} {stop : HoldEnd}

/-- A completed loop has made exactly the passes that there was time for. -/
theorem holdLoop_makes
    (h : holdLoop plan deadline passes fuel (passesTake passes samples.length) samples =
      some (.ok stop))
    (hrunning : ∀ k < samples.length, passesTake passes k < msToNs plan.holdDurationMs) :
    Makes (fun i => (passes i).duration) (msToNs plan.holdDurationMs) stop.samples.length ∧
      stop.endedNs = passesTake passes stop.samples.length := by
  induction fuel generalizing samples with
  | zero => cases h
  | succ fuel ih =>
    unfold holdLoop at h
    split at h
    · rename_i hbefore
      split at h
      · cases h
      · split at h
        · cases h
        · -- one more sample, and the clock is where the passes have left it
          rename_i sample _
          have hlength : (samples ++ [sample]).length = samples.length + 1 := by simp
          apply @ih (samples ++ [sample])
          · rw [hlength, passesTake, clock_succ]
            exact h
          · intro k hk
            rw [hlength] at hk
            rcases Nat.lt_succ_iff_lt_or_eq.1 hk with hk | rfl
            · exact hrunning k hk
            · exact hbefore
    · rename_i hover
      obtain rfl := Except.ok.inj (Option.some.inj h)
      exact ⟨⟨Nat.not_lt.1 hover, hrunning⟩, rfl⟩

/-- A responsive worker is sampled to the end of the hold, if the deadline is not before it. -/
theorem holdLoop_completes (hpasses : Responsive plan passes)
    (hdeadline : msToNs plan.holdDurationMs ≤ deadline)
    (hmakes : Makes (fun i => (passes i).duration) (msToNs plan.holdDurationMs) n)
    (hle : samples.length ≤ n) (hfuel : n < fuel + samples.length) :
    ∃ stop, holdLoop plan deadline passes fuel (passesTake passes samples.length) samples =
      some (.ok stop) := by
  induction fuel generalizing samples with
  | zero => omega
  | succ fuel ih =>
    unfold holdLoop
    by_cases hbefore : passesTake passes samples.length < msToNs plan.holdDurationMs
    · rw [if_pos hbefore, if_neg (by omega)]
      obtain ⟨sample, hsample⟩ := exists_of_isOk (hpasses.sampled samples.length)
      -- there is time left, so this is not the last pass
      have hlt : samples.length < n := by
        by_contra hge
        obtain rfl : samples.length = n := by omega
        exact absurd hbefore (Nat.not_lt.2 hmakes.ended)
      have hlength : (samples ++ [sample]).length = samples.length + 1 := by simp
      have hrest := @ih (samples ++ [sample]) (by omega) (by omega)
      rw [hlength, passesTake, clock_succ] at hrest
      simpa only [hsample] using hrest
    · rw [if_neg hbefore]
      exact ⟨_, rfl⟩

/-- The first samples that have to be there leave time for the last of them. -/
def InTime (plan : ProgressivePressurePlan) (passes : ℕ → HoldPass) : Prop :=
  passesTake passes (minimumSamples plan - 1) < msToNs plan.holdDurationMs

theorem ProgressivePressurePlan.Sound.interval_pos (h : plan.Sound) :
    0 < plan.sampleIntervalMs.toNat :=
  Nat.pos_of_ne_zero fun hzero => h.sampled (UInt64.toNat_inj.1 hzero)

theorem ProgressivePressurePlan.Sound.minimumSamples_pos (h : plan.Sound) :
    0 < minimumSamples plan := by
  have hinterval := UInt64.le_iff_toNat_le.1 h.sampledInHold
  exact Nat.div_pos (by omega) h.interval_pos

/-- So many intervals are not shorter than the hold. -/
theorem ProgressivePressurePlan.Sound.hold_le_mul (h : plan.Sound) :
    plan.holdDurationMs.toNat ≤ minimumSamples plan * plan.sampleIntervalMs.toNat := by
  have hsplit := Nat.div_add_mod
    (plan.holdDurationMs.toNat + (plan.sampleIntervalMs.toNat - 1)) plan.sampleIntervalMs.toNat
  have hrest := Nat.mod_lt
    (plan.holdDurationMs.toNat + (plan.sampleIntervalMs.toNat - 1)) h.interval_pos
  have hinterval := h.interval_pos
  unfold minimumSamples
  rw [Nat.mul_comm]
  omega

/-- The loop makes no more passes than samples are asked for. -/
theorem makes_le_minimumSamples (h : plan.Sound) (hpasses : Responsive plan passes)
    (hmakes : Makes (fun i => (passes i).duration) (msToNs plan.holdDurationMs) n) :
    n ≤ minimumSamples plan := by
  -- after so many passes the hold is over
  have hover : msToNs plan.holdDurationMs ≤ passesTake passes (minimumSamples plan) := by
    refine le_trans ?_ (mul_le_clock hpasses.slept)
    have hhold := h.hold_le_mul
    unfold msToNs
    rw [← Nat.mul_assoc]
    exact Nat.mul_le_mul_right _ hhold
  by_contra hlt
  exact absurd (hmakes.running _ (Nat.not_le.1 hlt)) (Nat.not_lt.2 hover)

/-- So the loop completes with fuel for them. -/
theorem exists_stop (h : plan.Sound) (hpasses : Responsive plan passes)
    (hdeadline : msToNs plan.holdDurationMs ≤ deadline) (hfuel : minimumSamples plan < fuel) :
    ∃ stop, holdLoop plan deadline passes fuel 0 [] = some (.ok stop) := by
  have hstep : 0 < msToNs plan.sampleIntervalMs := Nat.mul_pos h.interval_pos (by decide)
  obtain ⟨n, -, hmakes⟩ := @exists_makes _ (msToNs plan.holdDurationMs) _ hstep hpasses.slept
  have hle := makes_le_minimumSamples h hpasses hmakes
  exact @holdLoop_completes _ _ _ _ _ [] hpasses hdeadline hmakes (Nat.zero_le n)
    (Nat.lt_of_le_of_lt hle hfuel)

/-- A completed loop has enough samples exactly when those before the last one are in time. -/
theorem samples_enough_iff (h : plan.Sound)
    (hstop : holdLoop plan deadline passes fuel 0 [] = some (.ok stop)) :
    minimumSamples plan ≤ stop.samples.length ↔ InTime plan passes := by
  obtain ⟨hmakes, -⟩ := @holdLoop_makes _ _ _ _ [] _ hstop (fun k hk => by cases hk)
  have hpos := h.minimumSamples_pos
  have hsucc : minimumSamples plan - 1 + 1 = minimumSamples plan := by omega
  rw [← hsucc, hmakes.succ_le_iff]
  rfl

end Loop

/-! ## §3 Whether the record covers the hold -/

section Coverage

variable {plan : ProgressivePressurePlan} {deadline : ℕ} {passes : ℕ → HoldPass} {fuel : ℕ}
  {stop : HoldEnd} {clock clock' : UInt64} {e : LevelEvidence}

/-- `as_millis` of a duration, as 64 bits. -/
def millis (ns : ℕ) : UInt64 := .ofNat (min (ns / 1000000) (2 ^ 64 - 1))

/-- The record that is made at the end of a hold. The clock is read twice for it, for the start and
    for the end, and has not gone on by a sample interval in between. -/
structure RecordsHold (plan : ProgressivePressurePlan) (stop : HoldEnd) (clock clock' : UInt64)
    (e : LevelEvidence) : Prop where
  executed : e.classification ≠ .invalidLevelEvidence
  duration : e.durationMs = millis stop.endedNs
  samples : e.sampleCount = .ofNat stop.samples.length
  started : e.startedMonotonicNs = U64.saturatingSub clock (.ofNat stop.endedNs)
  ended : e.endedMonotonicNs = clock'
  up : stop.endedNs ≤ clock.toNat
  forward : clock ≤ clock'
  steady : clock'.toNat < clock.toNat + msToNs plan.sampleIntervalMs

theorem toNat_millis {ns : ℕ} (h : ns < 2 ^ 64) : (millis ns).toNat = ns / 1000000 := by
  have hmin : min (ns / 1000000) (2 ^ 64 - 1) = ns / 1000000 := by omega
  rw [millis, hmin, UInt64.toNat_ofNat_of_lt' (by show _ < 2 ^ 64; omega)]

/-- The time between the start and the end of the record. -/
theorem RecordsHold.elapsed (h : RecordsHold plan stop clock clock' e) :
    ∃ elapsed, checkedSub e.endedMonotonicNs e.startedMonotonicNs = some elapsed ∧
      elapsed.toNat = clock'.toNat - clock.toNat + stop.endedNs := by
  have hsmall : stop.endedNs < 2 ^ 64 := lt_of_le_of_lt h.up clock.toNat_lt
  have hforward := UInt64.le_iff_toNat_le.1 h.forward
  have hup := h.up
  have hstarted : e.startedMonotonicNs.toNat = clock.toNat - stop.endedNs := by
    rw [h.started, U64.toNat_saturatingSub, UInt64.toNat_ofNat_of_lt' hsmall]
  have hle : e.startedMonotonicNs ≤ e.endedMonotonicNs := by
    rw [h.ended]
    apply UInt64.le_iff_toNat_le.2
    omega
  refine ⟨_, if_pos hle, ?_⟩
  rw [UInt64.toNat_sub_of_le _ _ hle, hstarted, h.ended]
  omega

theorem checkedAdd_hold (h : plan.Sound) :
    ∃ covered, checkedAdd plan.holdDurationMs (plan.sampleIntervalMs - 1) = some covered ∧
      (covered / plan.sampleIntervalMs).toNat = minimumSamples plan := by
  have hshort : plan.holdDurationMs.toNat ≤ 900000 := h.short
  have hinterval := UInt64.le_iff_toNat_le.1 h.sampledInHold
  have hone : (1 : UInt64) ≤ plan.sampleIntervalMs := UInt64.le_iff_toNat_le.2 h.interval_pos
  have hpred : (plan.sampleIntervalMs - 1).toNat = plan.sampleIntervalMs.toNat - 1 :=
    UInt64.toNat_sub_of_le _ _ hone
  have hfits : plan.holdDurationMs.toNat + (plan.sampleIntervalMs - 1).toNat < 2 ^ 64 := by omega
  refine ⟨_, if_pos hfits, ?_⟩
  rw [UInt64.toNat_div, UInt64.toNat_add, Nat.mod_eq_of_lt hfits, hpred]
  rfl

/-- **Coverage.** The check of the record asks for the samples and for nothing else that a
    completed loop could miss. -/
theorem RecordsHold.covered_iff (h : RecordsHold plan stop clock clock' e) (hplan : plan.Sound)
    (hended : msToNs plan.holdDurationMs ≤ stop.endedNs)
    (hcount : stop.samples.length < 2 ^ 64) :
    e.validateCoverage plan = .ok () ↔ minimumSamples plan ≤ stop.samples.length := by
  obtain ⟨elapsed, hsub, helapsed⟩ := h.elapsed
  obtain ⟨covered, hadd, hminimum⟩ := checkedAdd_hold hplan
  have hsmall : stop.endedNs < 2 ^ 64 := lt_of_le_of_lt h.up clock.toNat_lt
  have hinterval := UInt64.le_iff_toNat_le.1 hplan.sampledInHold
  have hforward := UInt64.le_iff_toNat_le.1 h.forward
  have hsteady := h.steady
  unfold msToNs at hended hsteady
  have hms : (elapsed / 1000000).toNat = elapsed.toNat / 1000000 := UInt64.toNat_div _ _
  have hduration : e.durationMs.toNat = stop.endedNs / 1000000 := by
    rw [h.duration, toNat_millis hsmall]
  have hsaturated : (plan.holdDurationMs - min plan.sampleIntervalMs plan.holdDurationMs).toNat =
      plan.holdDurationMs.toNat - plan.sampleIntervalMs.toNat := by
    have hmin : min plan.sampleIntervalMs plan.holdDurationMs = plan.sampleIntervalMs :=
      if_pos hplan.sampledInHold
    rw [hmin, UInt64.toNat_sub_of_le _ _ hplan.sampledInHold]
  -- the hold was long enough by either clock, and the two agree
  have hlong : ¬ e.durationMs <
      plan.holdDurationMs - min plan.sampleIntervalMs plan.holdDurationMs := by
    rw [UInt64.lt_iff_toNat_lt, hsaturated, hduration]
    omega
  have hlong' : ¬ elapsed / 1000000 <
      plan.holdDurationMs - min plan.sampleIntervalMs plan.holdDurationMs := by
    rw [UInt64.lt_iff_toNat_lt, hsaturated, hms, helapsed]
    omega
  have hagrees : ¬ plan.sampleIntervalMs <
      LevelEvidence.absDiff (elapsed / 1000000) e.durationMs := by
    have hle : e.durationMs ≤ elapsed / 1000000 := by
      rw [UInt64.le_iff_toNat_le, hms, hduration, helapsed]
      omega
    rw [LevelEvidence.absDiff]
    split_ifs with hge
    · have heq : e.durationMs = elapsed / 1000000 := UInt64.le_antisymm hle hge
      simp [heq]
    · rw [UInt64.lt_iff_toNat_lt, UInt64.toNat_sub_of_le _ _ hle, hms, hduration, helapsed]
      omega
  have hsamples : e.sampleCount < covered / plan.sampleIntervalMs ↔
      stop.samples.length < minimumSamples plan := by
    rw [UInt64.lt_iff_toNat_lt, hminimum, h.samples, UInt64.toNat_ofNat_of_lt' hcount]
  unfold LevelEvidence.validateCoverage
  rw [hsub, hadd]
  simp only [orError, bind, Except.bind]
  rw [if_pos h.executed, refuse_eq_ok, hsamples]
  simp [hlong, hlong', hagrees]

/-- **Covered holds.** A worker that answers each pass within the heartbeat timeout is sampled to
    the end of its hold, if the level has the time for it. There are enough samples, and the record
    covers the hold, if and only if the samples before the last one that is asked for take less
    than the hold. -/
theorem hold_covered_iff {plan : ProgressivePressurePlan} {passes : ℕ → HoldPass}
    (hplan : plan.validate = .ok ()) (hpasses : Responsive plan passes) (deadline : ℕ) :
    (msToNs plan.holdDurationMs ≤ deadline → ∀ fuel, minimumSamples plan < fuel →
      ∃ stop, holdLoop plan deadline passes fuel 0 [] = some (.ok stop)) ∧
    ∀ fuel stop, holdLoop plan deadline passes fuel 0 [] = some (.ok stop) →
      (minimumSamples plan ≤ stop.samples.length ↔ InTime plan passes) ∧
      ∀ clock clock' e, RecordsHold plan stop clock clock' e →
        (e.validateCoverage plan = .ok () ↔ InTime plan passes) := by
  have hsound := ProgressivePressurePlan.validate_ok hplan
  constructor
  · exact fun hdeadline fuel hfuel => exists_stop hsound hpasses hdeadline hfuel
  · intro fuel stop hstop
    have henough := samples_enough_iff hsound hstop
    refine ⟨henough, fun clock clock' e hrecord => ?_⟩
    obtain ⟨hmakes, hended⟩ := @holdLoop_makes _ _ _ _ [] _ hstop (fun k hk => by cases hk)
    have hover : msToNs plan.holdDurationMs ≤ stop.endedNs := hended ▸ hmakes.ended
    have hcount : stop.samples.length < 2 ^ 64 := by
      have hle := makes_le_minimumSamples hsound hpasses hmakes
      have hhold : plan.holdDurationMs.toNat ≤ 900000 := hsound.short
      have hmost : minimumSamples plan ≤
          plan.holdDurationMs.toNat + (plan.sampleIntervalMs.toNat - 1) := Nat.div_le_self _ _
      have hinterval := UInt64.le_iff_toNat_le.1 hsound.sampledInHold
      omega
    rw [hrecord.covered_iff hsound hover hcount, henough]

end Coverage

/-! ## §4 Passes that are late and passes that are not -/

/-- Every pass takes so many milliseconds. -/
def evenPasses (ms : ℕ) (_ : ℕ) : HoldPass where
  duration := ms * 1000000
  sample := .ok {
    monotonicNs := 0
    memoryCurrentBytes := some 4096
    hostMemoryFullAvg10Percent := none
    cgroupMemoryFullAvg10Percent := none
    workerAlive := true
    heartbeatTouchedBytes := 1
    integrityIdentity := some "i" }

theorem evenPasses_responsive {ms : ℕ} (hslept : 500 ≤ ms) (hanswered : ms ≤ 1500) :
    Responsive twoLevelPlan (evenPasses ms) := by
  have hinterval : msToNs twoLevelPlan.sampleIntervalMs = 500 * 1000000 := rfl
  have htimeout : msToNs twoLevelPlan.watchdog.heartbeatTimeoutMs = 1000 * 1000000 := rfl
  refine ⟨fun _ => rfl, fun _ => ?_, fun _ => ?_⟩
  · show msToNs twoLevelPlan.sampleIntervalMs ≤ ms * 1000000
    omega
  · show ms * 1000000 ≤ _
    omega

/-- A hold of two seconds with a sample every half second, of which each takes a quarter of a
    second more: three samples are taken where four are asked for. -/
theorem late_samples_too_few :
    ¬ ∀ (plan : ProgressivePressurePlan) (passes : ℕ → HoldPass) (deadline fuel : ℕ)
        (stop : HoldEnd), plan.validate = .ok () → Responsive plan passes →
        holdLoop plan deadline passes fuel 0 [] = some (.ok stop) →
        minimumSamples plan ≤ stop.samples.length := by
  intro hclaim
  have hplan : twoLevelPlan.validate = .ok () := by decide +kernel
  have hpasses := @evenPasses_responsive 750 (by decide) (by decide)
  have hsound := ProgressivePressurePlan.validate_ok hplan
  have hhold : msToNs twoLevelPlan.holdDurationMs = 2000 * 1000000 := rfl
  have hasked : minimumSamples twoLevelPlan = 4 := rfl
  obtain ⟨stop, hstop⟩ := @exists_stop _ _ _ 5 hsound hpasses (Nat.le_refl _) (by omega)
  have henough := hclaim _ _ _ _ _ hplan hpasses hstop
  rw [samples_enough_iff hsound hstop] at henough
  simp [InTime, hhold, hasked, passesTake, evenPasses] at henough

/-- With five milliseconds more for each sample there are four. -/
theorem small_delays_covered :
    ∃ stop, holdLoop twoLevelPlan 10000000000 (evenPasses 505) 5 0 [] = some (.ok stop) ∧
      minimumSamples twoLevelPlan ≤ stop.samples.length := by
  have hplan : twoLevelPlan.validate = .ok () := by decide +kernel
  have hpasses := @evenPasses_responsive 505 (by decide) (by decide)
  obtain ⟨hcompletes, hcovers⟩ := hold_covered_iff hplan hpasses 10000000000
  have hdeadline : msToNs twoLevelPlan.holdDurationMs ≤ 10000000000 := by
    have hhold : msToNs twoLevelPlan.holdDurationMs = 2000 * 1000000 := rfl
    omega
  obtain ⟨stop, hstop⟩ := hcompletes hdeadline 5 (by decide)
  have hinTime : InTime twoLevelPlan (evenPasses 505) := by
    have hhold : msToNs twoLevelPlan.holdDurationMs = 2000 * 1000000 := rfl
    have hasked : minimumSamples twoLevelPlan = 4 := rfl
    simp [InTime, hhold, hasked, passesTake, evenPasses]
  exact ⟨stop, hstop, (hcovers 5 stop hstop).1.2 hinTime⟩

end Nemor.Pressure
