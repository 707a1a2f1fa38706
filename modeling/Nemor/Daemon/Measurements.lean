import Nemor.Classifier.Workload
import Nemor.Collector.SystemSample
import Nemor.Daemon.SamplingLoop
import Nemor.Lib.RoundingError

/-!
# What the daemon measures

The input of a policy evaluation is put together from a system sample, the rates between two
samples and the outcome of the classifier. `PolicyInput::validate` looks at all its numbers. Of
what the daemon computes itself nothing can be refused: percentages, rates, averages and
confidences are in their ranges for any files and any processes. What is left to refuse is what
the files say of the memory and the swap, and the clock.

- §1: percentages and rates
- §2: averages and totals of a sample
- §3: confidences
- §4: the loop on what it measures
- §5: runs of that loop
-/

namespace Nemor.Daemon

open Machine MachineNumbers Policy Fallible

/-! ## §1 Percentages and rates -/

/-- A finite number from zero up to a bound. -/
def UpTo (bound : ℕ) (x : F64) : Prop := ∃ q : ℚ, x = .finite q ∧ 0 ≤ q ∧ q ≤ bound

/-- A finite number that is not negative. -/
def Measured (x : F64) : Prop := ∃ q : ℚ, x = .finite q ∧ 0 ≤ q

/-- The floating-point computations of the loop as they are compiled. -/
def binary64 : FloatOps where
  percent available total := ((F64.ofU64 available).times (.finite 100)).quotient (F64.ofU64 total)
  perSecond delta elapsed :=
    (F64.ofU64 delta).quotient ((F64.ofRat elapsed.toInt).quotient (.finite 1000000000))

/-- A number up to a bound that is exact is rounded to one up to that bound. -/
theorem upTo_ofRat {q : ℚ} {bound : ℕ} (h : 0 ≤ q) (hle : q ≤ bound) (hbound : bound ≤ 2 ^ 53) :
    UpTo bound (F64.ofRat q) := by
  have hexact : F64.nearest bound = bound := F64.nearest_natCast hbound
  have hsmall : (bound : ℚ) ≤ 2 ^ 200 := by
    have hcast : (bound : ℚ) ≤ 2 ^ 53 := by exact_mod_cast hbound
    exact hcast.trans (pow_le_pow_right₀ (by norm_num) (by norm_num))
  refine ⟨F64.nearest q, F64.ofRat_of_le h (hle.trans hsmall), F64.nearest_nonneg h, ?_⟩
  rw [← hexact]
  exact F64.nearest_mono h hle

/-- Amounts in KiB, and hundred times as much, are exact as long as they are not very large. -/
theorem nearest_kib {k c : ℕ} (h : k * c ≤ 2 ^ 53) :
    F64.nearest ((1024 * k : ℕ) * c) = (1024 * k : ℕ) * c := by
  have hexact := @F64.nearest_exact (k * c) 10 h (by decide)
  have hvalue : ((k * c : ℕ) : ℚ) * 2 ^ (10 : ℤ) = (1024 * k : ℕ) * c := by
    push_cast
    ring
  rwa [hvalue] at hexact

/-- The available part of the memory is a percentage. -/
theorem upTo_percent {available total : UInt64} (htotal : total ≠ 0) (hle : available ≤ total)
    (hsmall : total.toNat < 2 ^ 56) (hkib : 1024 ∣ total.toNat) (hkib' : 1024 ∣ available.toNat) :
    UpTo 100 (binary64.percent available total) := by
  obtain ⟨k, hk⟩ := hkib
  obtain ⟨i, hi⟩ := hkib'
  have hpos : 0 < total.toNat := by
    rw [Nat.pos_iff_ne_zero]
    exact fun h => htotal (UInt64.toNat_inj.1 h)
  have hik : available.toNat ≤ total.toNat := UInt64.le_iff_toNat_le.1 hle
  -- sizes are whole KiB, so they and a hundred times them are exact
  have hone {m : ℕ} (h : m * 1 ≤ 2 ^ 53) : F64.nearest ((1024 * m : ℕ) : ℚ) = (1024 * m : ℕ) := by
    simpa using nearest_kib h
  have hhundred : F64.nearest ((1024 * i : ℕ) * (100 : ℕ)) = (1024 * i : ℕ) * (100 : ℕ) :=
    nearest_kib (by omega)
  have hproduct : F64.ofRat ((1024 * i : ℕ) * 100) = .finite ((1024 * i : ℕ) * 100) := by
    rw [F64.ofRat_of_le (by positivity), ← Nat.cast_ofNat (R := ℚ) (n := 100), hhundred]
    have hcast : ((1024 * i : ℕ) : ℚ) ≤ 2 ^ 56 := by exact_mod_cast (hi ▸ hik.trans hsmall.le)
    calc ((1024 * i : ℕ) : ℚ) * 100 ≤ 2 ^ 56 * 100 := by linarith
      _ ≤ 2 ^ 200 := by norm_num
  have hne : ((1024 * k : ℕ) : ℚ) ≠ 0 := by
    rw [← hk]
    exact_mod_cast hpos.ne'
  have heq : binary64.percent available total =
      F64.ofRat (((1024 * i : ℕ) * 100) / (1024 * k : ℕ)) := by
    simp only [binary64, F64.ofU64_eq, hi, hk, F64.times]
    rw [hone (by omega), hone (by omega), hproduct]
    simp only [F64.quotient, if_neg hne]
  -- only the division rounds, and 100 is a binary64 value
  rw [heq]
  apply upTo_ofRat _ _ (by norm_num)
  · positivity
  · rw [div_le_iff₀ (by rw [← hk]; exact_mod_cast hpos)]
    have hcast : ((1024 * i : ℕ) : ℚ) ≤ (1024 * k : ℕ) := by
      rw [← hi, ← hk]
      exact_mod_cast hik
    push_cast at hcast ⊢
    linarith

/-- A rate over a positive time is finite. -/
theorem measured_perSecond (delta : UInt64) {elapsed : Int64} (h : 0 < elapsed.toInt) :
    Measured (binary64.perSecond delta elapsed) := by
  have hlt := elapsed.toInt_lt
  obtain ⟨n, hn⟩ := Int.eq_ofNat_of_zero_le h.le
  have hnpos : 0 < n := by omega
  have hcast : (elapsed.toInt : ℚ) = n := by
    rw [hn]
    rfl
  -- the time in seconds is neither zero nor very small
  have hns : F64.InRange 0 63 (n : ℚ) := F64.inRange_natCast (by omega)
  have htime := hns.nearest (by norm_num)
  have hseconds : F64.InRange 31 64 (F64.nearest n / 1000000000) := by
    have := htime.div (d := 1000000000) (a := 0) (b := 30) (by norm_num) (by norm_num)
    simpa using this
  have hpos : 0 < F64.nearest n / 1000000000 := by
    have := hns.nearest_pos (by norm_num) (by exact_mod_cast hnpos)
    positivity
  have hrounded := hseconds.nearest (by norm_num)
  have hrounded_pos := hseconds.nearest_pos (by norm_num) hpos
  have hdelta : F64.InRange 0 64 (delta.toNat : ℚ) :=
    F64.inRange_natCast delta.toNat_lt.le
  have hquotient : F64.InRange (1 + 65) (65 + 32)
      (F64.nearest delta.toNat / F64.nearest (F64.nearest n / 1000000000)) := by
    rcases hrounded with hzero | ⟨hlow, hhigh⟩
    · rw [hzero] at hrounded_pos
      exact absurd hrounded_pos (lt_irrefl 0)
    · exact (hdelta.nearest (by norm_num)).div hlow hhigh
  refine ⟨_, ?_, F64.nearest_nonneg hquotient.nonneg⟩
  have hinner : (F64.ofRat elapsed.toInt).quotient (.finite 1000000000) =
      .finite (F64.nearest (F64.nearest n / 1000000000)) := by
    rw [hcast, hns.ofRat_eq (by norm_num)]
    simp only [F64.quotient]
    rw [if_neg (by norm_num), hseconds.ofRat_eq (by norm_num)]
  simp only [binary64]
  rw [hinner, F64.ofU64_eq]
  simp only [F64.quotient, if_neg hrounded_pos.ne']
  exact hquotient.ofRat_eq (by norm_num)

/-! ## §2 Averages and totals of a sample -/

/-- What the loop sees of a collected sample. -/
def seen (s : Collector.SystemSample) : SystemSample where
  timestampNs := s.timestampNs
  memTotalBytes := s.memTotalBytes
  memAvailableBytes := s.memAvailableBytes
  swapInPages := s.swapInPages
  swapOutPages := s.swapOutPages
  majorFaults := s.majorFaults
  pgscan := s.pgscan
  pgsteal := s.pgsteal
  psiMemory := s.psiMemory.map fun psi =>
    ⟨psi.some.map Collector.Psi.PsiLine.avg10, psi.full.map Collector.Psi.PsiLine.avg10⟩
  swapEntries := s.swap.entries.map fun e => ⟨e.sizeBytes, e.usedBytes⟩

/-- What holds of the numbers of a sample, whatever the files say. -/
structure SystemSample.Sound (s : SystemSample) : Prop where
  total : 1024 ∣ s.memTotalBytes.toNat
  available : 1024 ∣ s.memAvailableBytes.toNat
  some : ∀ x ∈ s.psiMemory.bind PsiSample.someAvg10, UpTo 100 x
  full : ∀ x ∈ s.psiMemory.bind PsiSample.fullAvg10, UpTo 100 x

theorem kibBytes_dvd {metric : String} {complaints : Collector.KibComplaints} {raw : List Char}
    {bytes : UInt64} (h : Collector.kibBytes metric complaints raw = .ok bytes) :
    1024 ∣ bytes.toNat := by
  unfold Collector.kibBytes at h
  split at h
  · obtain ⟨-, h⟩ := refuse_bind_eq_ok.1 h
    obtain ⟨kib, -, h⟩ := bind_eq_ok.1 h
    have hmul := okOr_eq_ok.1 h
    unfold U64.mul at hmul
    split at hmul
    · next hfits =>
      rw [← Option.some.inj hmul, UInt64.toNat_ofNat_of_lt' hfits]
      exact ⟨kib.toNat, Nat.mul_comm _ _⟩
    · cases hmul
  · cases h

/-- The counters of meminfo are whole KiB. -/
theorem counterOf_dvd {input : List Char} {key : String} {bytes : UInt64}
    (h : Collector.MemInfo.counterOf input key = some bytes) : 1024 ∣ bytes.toNat := by
  obtain ⟨line, -, hline⟩ := List.mem_filterMap.1 (FoldedLines.mem_of_lastValue h)
  unfold KeyedLines.fieldOf at hline
  split at hline
  · next hok =>
    subst hline
    unfold Collector.MemInfo.readLine at hok
    split at hok
    · cases hok
    · dsimp only at hok
      split at hok
      · cases hok
      · obtain ⟨value, hvalue, hok⟩ := bind_eq_ok.1 hok
        cases hok
        exact kibBytes_dvd hvalue
  · cases hline

theorem sound_seen {source : Collector.TelemetrySource} {timestampNs : Int64}
    {s : Collector.SystemSample} (h : Collector.sampleSystem source timestampNs = .ok s) :
    (seen s).Sound := by
  have hpsi := (Collector.sampleSystem_honest h).psiMemory
  obtain ⟨meminfo, vmstat, swap, ⟨text, -, hmem⟩, -, -, rfl⟩ := Collector.sampleSystem_eq_ok.1 h
  obtain ⟨-, hvalues⟩ := Collector.MemInfo.parse_eq_ok.1 hmem
  simp only [Collector.MemInfo.ofValues, bind_eq_ok] at hvalues
  obtain ⟨used, -, total, htotal, available, havailable, cache, -, hm⟩ := hvalues
  cases hm
  have hbounded {psi : Collector.Psi.PsiSample} (hseen : (Collector.collectPsi source
      "/proc/pressure/memory" "psi_memory").1 = some psi) : psi.Bounded := by
    obtain ⟨text, -, hparse⟩ := (hpsi psi).1 hseen
    exact (Collector.Psi.parse_bounded hparse).2
  have hpercentage {x : F64} (hx : Collector.Psi.Percentage x) : UpTo 100 x := hx
  refine ⟨counterOf_dvd (okOr_eq_ok.1 htotal), counterOf_dvd (okOr_eq_ok.1 havailable), ?_, ?_⟩
  · intro x hx
    obtain ⟨averages, hpsi', hx⟩ := Option.bind_eq_some_iff.1 hx
    obtain ⟨psi, hseen, rfl⟩ := Option.map_eq_some_iff.1 hpsi'
    obtain ⟨line, hline, rfl⟩ := Option.map_eq_some_iff.1 hx
    exact hpercentage ((hbounded hseen).some line hline).avg10
  · intro x hx
    obtain ⟨averages, hpsi', hx⟩ := Option.bind_eq_some_iff.1 hx
    obtain ⟨psi, hseen, rfl⟩ := Option.map_eq_some_iff.1 hpsi'
    obtain ⟨line, hline, rfl⟩ := Option.map_eq_some_iff.1 hx
    exact hpercentage ((hbounded hseen).full line hline).avg10

/-! ## §3 Confidences -/

/-- What the checks of the policy look at. -/
theorem upTo_iff {bound : ℕ} {x : F64} : UpTo bound x ↔
    (x.isFinite && ((F64.finite 0).le x && x.le (.finite bound))) = true := by
  cases x <;> simp [UpTo, F64.isFinite, F64.le]

theorem upTo_max {bound : ℕ} {a b : F64} (ha : UpTo bound a) (hb : UpTo bound b) :
    UpTo bound (a.max b) := by
  unfold F64.max
  split_ifs <;> assumption

theorem upTo_zero (bound : ℕ) : UpTo bound (.finite 0) := ⟨0, rfl, le_rfl, Nat.cast_nonneg _⟩

section Confidence

open Classifier

/-- The hundredths in which the rules give their confidence. -/
theorem upTo_hundredths {n : ℕ} (h : n ≤ 100) : UpTo 1 (F64.ofRat (n / 100)) := by
  apply upTo_ofRat (by positivity) _ (by norm_num)
  rw [div_le_iff₀ (by norm_num)]
  have hcast : (n : ℚ) ≤ 100 := by exact_mod_cast h
  simpa using hcast

theorem upTo_score (e : GameEvidence) : UpTo 1 e.score := by
  have hall : ∀ a b c d g : Bool, let x := (GameEvidence.mk a b c d g).score
      (x.isFinite && ((F64.finite 0).le x && x.le (.finite (1 : ℕ)))) = true := by
    decide +kernel
  obtain ⟨a, b, c, d, g⟩ := e
  exact upTo_iff.2 (hall a b c d g)

theorem upTo_categoryOf (name : String) (critical isGame : Bool) {score : F64}
    (h : UpTo 1 score) : UpTo 1 (categoryOf name critical isGame score).2 := by
  unfold categoryOf categoryByName
  split_ifs
  · exact upTo_zero 1
  · exact upTo_hundredths (n := 98) (by norm_num)
  · exact h
  · exact upTo_hundredths (n := 90) (by norm_num)
  · exact upTo_hundredths (n := 88) (by norm_num)
  · exact upTo_hundredths (n := 90) (by norm_num)
  · exact upTo_hundredths (n := 85) (by norm_num)
  · exact upTo_hundredths (n := 90) (by norm_num)
  · exact upTo_hundredths (n := 85) (by norm_num)
  · exact upTo_hundredths (n := 25) (by norm_num)

theorem upTo_classifyAll (sha256 : String → String) (samples : List ProcessSample)
    (config : Common.ClassificationConfig) :
    ∀ p ∈ classifyAll sha256 samples config, UpTo 1 p.confidence := by
  intro p hp
  obtain ⟨s, -, rfl⟩ := List.mem_map.1 hp
  exact upTo_categoryOf _ _ _ (upTo_score _)

section Outcome

variable {system : Option Classifier.SystemSample} {processes : List ProcessClassification}
  {config : Common.ClassificationConfig} {pressure : PressureConfig}

/-- A rule with one candidate. -/
theorem upTo_candidate {p : Prop} [Decidable p] {workloadClass : WorkloadClass}
    {confidence : F64} {code observed : String} {threshold : Option String}
    (h : UpTo 1 confidence) :
    ∀ c ∈ if p then [candidate workloadClass confidence code observed threshold] else [],
      UpTo 1 c.confidence := by
  intro c hc
  split at hc
  · rw [List.mem_singleton.1 hc]
    exact h
  · cases hc

/-- The largest confidence of some games. -/
theorem upTo_foldl_max {confidences : List F64} (h : ∀ x ∈ confidences, UpTo 1 x) {a : F64}
    (ha : UpTo 1 a) : UpTo 1 (confidences.foldl F64.max a) := by
  induction confidences generalizing a with
  | nil => exact ha
  | cons x confidences ih =>
    obtain ⟨hx, hrest⟩ := List.forall_mem_cons.1 h
    exact ih hrest (upTo_max ha hx)

theorem upTo_gamingCandidates (h : ∀ p ∈ processes, UpTo 1 p.confidence) :
    ∀ c ∈ gamingCandidates system processes config, UpTo 1 c.confidence := by
  have hgames : UpTo 1 (((ofCategory processes .game).map ProcessClassification.confidence).foldl
      F64.max (.finite 0)) := by
    refine upTo_foldl_max (fun x hx => ?_) (upTo_zero 1)
    obtain ⟨p, hp, rfl⟩ := List.mem_map.1 hx
    exact h p (List.mem_of_mem_filter hp)
  intro c hc
  unfold gamingCandidates at hc
  dsimp only at hc
  split at hc
  · cases hc
  · rcases List.mem_append.1 hc with hc | hc
    · exact upTo_candidate (upTo_max hgames (upTo_hundredths (n := 80) (by norm_num))) c hc
    · rw [List.mem_singleton.1 hc]
      exact hgames

theorem upTo_candidates (h : ∀ p ∈ processes, UpTo 1 p.confidence) :
    ∀ c ∈ candidates system processes config pressure, UpTo 1 c.confidence := by
  intro c hc
  simp only [candidates, List.mem_append] at hc
  rcases hc with ((((((hc | hc) | hc) | hc) | hc) | hc) | hc) | hc
  · exact upTo_candidate ⟨1, rfl, zero_le_one, by norm_num⟩ c hc
  · exact upTo_candidate (upTo_hundredths (n := 92) (by norm_num)) c hc
  · exact upTo_gamingCandidates h c hc
  · exact upTo_candidate (upTo_hundredths (n := 88) (by norm_num)) c hc
  · exact upTo_candidate (upTo_hundredths (n := 85) (by norm_num)) c hc
  · exact upTo_candidate (upTo_hundredths (n := 82) (by norm_num)) c hc
  · exact upTo_candidate (upTo_hundredths (n := 75) (by norm_num)) c hc
  · exact upTo_candidate (upTo_hundredths (n := 80) (by norm_num)) c hc

/-- What the policy sees of an outcome. -/
def outcomeSeen : Classifier.ClassificationOutcome → ClassificationOutcome
  | .classified decision => .classified decision.workloadClass decision.confidence
  | .unknown _ => .unknown

/-- What is classified is classified with a confidence up to one. -/
theorem upTo_classify (h : ∀ p ∈ processes, UpTo 1 p.confidence) :
    ∀ x ∈ (outcomeSeen (Classifier.classify system processes config pressure)).confidence,
      UpTo 1 x := by
  intro x hx
  unfold Classifier.classify at hx
  dsimp only at hx
  split at hx
  · next selected hselected =>
    cases hx
    exact upTo_candidates h selected (select_some hselected).1
  · cases hx

end Outcome

end Confidence

/-! ## §4 The loop on what it measures -/

/-- What a turn meets: the clocks, the files, the processes and the storage. -/
inductive Reading where
  | shutdown
  | system (timestamp : Except String Int64) (source : Collector.TelemetrySource)
      (stored : Except String Unit)
  | process (timestamp : Except String Int64) (now : ℕ)
      (processes : Except String (List Classifier.ProcessSample))
      (history : Except String (UInt64 × UInt64)) (storePolicy : Except String Bool)
      (storeAudits storeClassified : Except String Unit)
  | retention (done : Except String Unit)

/-- The thresholds of the loop, and what the classifier needs besides. -/
structure MeasuringConfig where
  loop : LoopConfig
  classification : Common.ClassificationConfig
  sha256 : String → String

/-- A sample of the host, as the loop sees it. -/
def collect (timestamp : Except String Int64) (source : Collector.TelemetrySource) :
    Except String SystemSample := do
  let timestampNs ← timestamp
  let sample ← (Collector.sampleSystem source timestampNs).mapError fun _ =>
    "required system metric was temporarily unreadable"
  return seen sample

/-- What the classifier reads of the sample that the loop keeps. -/
def classifierSample (s : SystemSample) : Classifier.SystemSample where
  memTotalBytes := s.memTotalBytes
  memAvailableBytes := s.memAvailableBytes
  psiMemory := s.psiMemory.map fun psi => ⟨psi.someAvg10, psi.fullAvg10⟩

/-- The part of a classification that the loop reads. -/
def processSeen (p : Classifier.ProcessClassification) : ClassifiedProcess where
  unknown := decide (p.category = .unknown)
  isGame := p.isGame
  isCritical := p.isCritical
  isProtected := p.isProtected
  foreground := p.foreground

section Measuring

variable (config : MeasuringConfig)

/-- The classification of the processes of a tick, on the last sample of the system. -/
def outcomeOf (latest : Option SystemSample) :
    Except String (List Classifier.ProcessSample) → ClassificationOutcome
  | .ok samples =>
    outcomeSeen (Classifier.classify (latest.map classifierSample)
      (Classifier.classifyAll config.sha256 samples config.classification) config.classification
      config.loop.pressure)
  | .error _ => .unknown

/-- The processes of a pass, classified. -/
def processesOf (processes : Except String (List Classifier.ProcessSample)) :
    Except String (List ClassifiedProcess) := do
  let samples ← processes
  return (Classifier.classifyAll config.sha256 samples config.classification).map processSeen

/-- The tick that a reading amounts to. -/
def Reading.tick (latest : Option SystemSample) : Reading → Tick
  | .shutdown => .shutdown
  | .system timestamp source stored => .system ⟨timestamp, collect timestamp source, stored⟩
  | .process timestamp now processes history storePolicy storeAudits storeClassified =>
    .process
      { timestamp
        now
        processes := processesOf config processes
        outcome := outcomeOf config latest processes
        history
        storePolicy
        storeAudits
        storeClassified }
  | .retention done => .retention done

/-- The configuration of the loop, on binary64. -/
def MeasuringConfig.compiled : LoopConfig := { config.loop with floats := binary64 }

/-- One turn of the loop on what is measured. -/
def measuredTurn (s : LoopState) (reading : Reading) : LoopState × Option PolicyEvaluation :=
  turn config.compiled s (reading.tick config s.latestSystem)

/-- The checks of `validate` on what the daemon has only read. -/
def validateRead (input : PolicyInput) : Except PolicyError Unit := do
  if input.timestampNs < 0 then invalid "timestamp_ns" "must be non-negative"
  if input.ramTotalBytes == 0 then invalid "ram_total_bytes" "must be greater than zero"
  if input.ramTotalBytes < input.memAvailableBytes then
    invalid "mem_available_bytes" "must not exceed total RAM"
  if swapInconsistent input then invalid "swap_used_bytes" "must not exceed swap total"

/-- What the checks of an evaluation come down to. -/
structure PolicyEvaluation.Checked (e : PolicyEvaluation) : Prop where
  validate : e.input.validate = validateRead e.input
  refused : ∀ error, e.result = .error error →
    error = .timeRegression ∨ validateRead e.input = .error error

/-- Every evaluation of a transcript is refused for what was read or for the clock alone, up to
    64 PiB of memory. -/
def OnlyReadRefused (log : List (Reading × Option PolicyEvaluation)) : Prop :=
  ∀ entry ∈ log, ∀ e, entry.2 = some e → e.input.ramTotalBytes.toNat < 2 ^ 56 → e.Checked

end Measuring

/-! ## §5 Runs -/

/-- Rates that can be rates. -/
structure RateFeatures.Sound (r : RateFeatures) : Prop where
  swapIn : ∀ x ∈ r.swapInPerSecond, Measured x
  swapOut : ∀ x ∈ r.swapOutPerSecond, Measured x
  majorFaults : ∀ x ∈ r.majorFaultsPerSecond, Measured x
  pgscan : ∀ x ∈ r.pgscanPerSecond, Measured x
  pgsteal : ∀ x ∈ r.pgstealPerSecond, Measured x

theorem elapsedNs_pos {previous current elapsed : Int64}
    (h : elapsedNs previous current = some elapsed) : 0 < elapsed.toInt := by
  unfold elapsedNs at h
  split at h
  · next hbounds =>
    cases h
    have hmax : Int64.maxValue.toInt = 2 ^ 63 - 1 := by decide
    rw [Int64.toInt_sub, Int.bmod_eq_of_le]
    · exact hbounds.1
    · omega
    · omega
  · cases h

theorem measured_rate {previous current : Option UInt64} {start stop : Int64} :
    ∀ x ∈ rate binary64 previous current (elapsedNs start stop), Measured x := by
  intro x hx
  cases previous with
  | none => cases hx
  | some previous =>
    cases current with
    | none => cases hx
    | some current =>
      cases helapsed : elapsedNs start stop with
      | none =>
        rw [helapsed] at hx
        cases hx
      | some elapsed =>
        rw [helapsed] at hx
        simp only [rate, Option.bind_eq_bind, Option.bind_some] at hx
        split at hx
        · cases hx
          exact measured_perSecond _ (elapsedNs_pos helapsed)
        · cases hx

theorem sound_default : RateFeatures.default.Sound := by
  constructor <;> exact fun x hx => by cases hx

theorem sound_updateRates (tracker : Option CounterSample) (current : CounterSample) :
    (updateRates binary64 tracker current).Sound := by
  cases tracker with
  | none => exact sound_default
  | some previous => constructor <;> exact measured_rate

/-- What the state of the loop holds is in range. -/
structure LoopState.Sound (s : LoopState) : Prop where
  sample : ∀ system ∈ s.latestSystem, SystemSample.Sound system
  rates : s.latestRates.Sound

/-! What a check of a number in range gives. -/

theorem finiteRange_of_upTo {x : F64} {bound : ℕ} (h : UpTo bound x) (field : String) :
    finiteRange field x (.finite 0) (.finite bound) = .ok () := by
  unfold finiteRange
  rw [if_pos (upTo_iff.1 h)]

theorem validateRate_of_measured {field : String} {value : Option F64}
    (h : ∀ x ∈ value, Measured x) : validateRate (field, value) = .ok () := by
  unfold validateRate
  cases value with
  | none => rfl
  | some x =>
    obtain ⟨q, rfl, hq⟩ := h x rfl
    have hlt : ¬ q < 0 := not_lt.2 hq
    simp [F64.isFinite, F64.lt, hlt]

theorem validateBounded_of_upTo {field : String} {bound : ℕ} {value : Option F64}
    (h : ∀ x ∈ value, UpTo bound x)
    (hbound : (if field == "workload_confidence" then F64.finite 1 else .finite 100) =
      .finite bound) : validateBounded (field, value) = .ok () := by
  unfold validateBounded
  cases value with
  | none => rfl
  | some x =>
    dsimp only
    rw [hbound]
    exact finiteRange_of_upTo (h x rfl) field

/-- An input whose computed numbers are in range is checked for what was read. -/
theorem validate_eq_validateRead {input : PolicyInput}
    (hpercent : input.ramTotalBytes ≠ 0 → input.memAvailableBytes ≤ input.ramTotalBytes →
      UpTo 100 input.availablePercent)
    (hrates : RateFeatures.Sound ⟨input.swapInPerSecond, input.swapOutPerSecond,
      input.majorFaultsPerSecond, input.pgscanPerSecond, input.pgstealPerSecond⟩)
    (hsome : ∀ x ∈ input.psiMemorySomeAvg10, UpTo 100 x)
    (hfull : ∀ x ∈ input.psiMemoryFullAvg10, UpTo 100 x)
    (hconfidence : ∀ x ∈ input.workloadConfidence, UpTo 1 x) :
    input.validate = validateRead input := by
  have hrateLoop : [("swap_in_per_second", input.swapInPerSecond),
      ("swap_out_per_second", input.swapOutPerSecond),
      ("major_faults_per_second", input.majorFaultsPerSecond),
      ("pgscan_per_second", input.pgscanPerSecond),
      ("pgsteal_per_second", input.pgstealPerSecond)].forM validateRate = .ok () := by
    simp only [forM_eq_ok, List.forall_mem_cons]
    exact ⟨validateRate_of_measured hrates.swapIn, validateRate_of_measured hrates.swapOut,
      validateRate_of_measured hrates.majorFaults, validateRate_of_measured hrates.pgscan,
      validateRate_of_measured hrates.pgsteal, by simp⟩
  have hboundedLoop : [("psi_memory_some_avg10", input.psiMemorySomeAvg10),
      ("psi_memory_full_avg10", input.psiMemoryFullAvg10),
      ("workload_confidence", input.workloadConfidence)].forM validateBounded = .ok () := by
    simp only [forM_eq_ok, List.forall_mem_cons]
    exact ⟨validateBounded_of_upTo hsome (by simp), validateBounded_of_upTo hfull (by simp),
      validateBounded_of_upTo hconfidence (by simp), by simp⟩
  unfold PolicyInput.validate validateRead
  rw [hrateLoop, hboundedLoop]
  -- the percentage is reached only when the memory that was read makes sense
  by_cases htotal : input.ramTotalBytes = 0
  · simp [htotal, invalid, bind, Except.bind]
  · by_cases hle : input.ramTotalBytes < input.memAvailableBytes
    · simp [htotal, hle, invalid, bind, Except.bind]
    · have hrange := finiteRange_of_upTo (hpercent htotal (UInt64.not_lt.1 hle)) "available_percent"
      rw [Nat.cast_ofNat] at hrange
      rw [hrange]
      rfl

/-- An evaluation fails in the checks of its input, or because the clock went back. -/
theorem evaluateInPlace_error {engine engine' : PolicyEngine} {input : PolicyInput}
    {error : PolicyError} (h : engine.evaluateInPlace input true = (.error error, engine')) :
    error = .timeRegression ∨ input.validate = .error error := by
  unfold PolicyEngine.evaluateInPlace at h
  split at h
  · next e hv =>
    cases h
    exact .inr hv
  · split at h
    · cases h
      exact .inl rfl
    · cases h

section Runs

variable {config : MeasuringConfig}

/-- The input of an evaluation on a sound state is checked for what was read. -/
theorem validate_policyInput {loop : LoopConfig} (hfloats : loop.floats = binary64) {s : LoopState}
    (h : s.Sound) {system : SystemSample} (hsystem : s.latestSystem = some system)
    {timestampNs : Int64} {classified : List ClassifiedProcess} {outcome : ClassificationOutcome}
    {history : UInt64 × UInt64} (hconfidence : ∀ x ∈ outcome.confidence, UpTo 1 x)
    (hsmall : system.memTotalBytes.toNat < 2 ^ 56) {input : PolicyInput}
    (hinput : input =
      policyInput loop system s.latestRates timestampNs classified outcome history) :
    input.validate = validateRead input := by
  have hsound := h.sample system hsystem
  subst hinput
  refine validate_eq_validateRead ?_ h.rates hsound.some hsound.full hconfidence
  intro htotal hle
  simp only [policyInput, hfloats] at htotal hle ⊢
  exact upTo_percent htotal hle hsmall hsound.total hsound.available

/-- The confidence of an evaluation is that of its outcome. -/
theorem evaluatePolicy_confidence {loop : LoopConfig} {tick : ProcessTick} {timestampNs : Int64}
    {classified : List ClassifiedProcess} {outcome : ClassificationOutcome} {s : LoopState}
    {e : PolicyEvaluation}
    (h : (evaluatePolicy loop tick timestampNs classified outcome s).2 = some e) :
    e.input.workloadConfidence = outcome.confidence := by
  unfold evaluatePolicy at h
  split at h
  · dsimp only at h
    split at h
    · cases h
    · split at h
      · cases h
      · split at h <;> cases h <;> rfl
  · cases h

theorem onProcessTick_confidence {loop : LoopConfig} {tick : ProcessTick} {s : LoopState}
    {e : PolicyEvaluation} (h : (onProcessTick loop tick s).2 = some e) :
    ∀ x ∈ e.input.workloadConfidence, x ∈ tick.outcome.confidence := by
  have hclassify {timestampNs : Int64} {classified : List ClassifiedProcess}
      (h : (classify loop tick timestampNs classified s).2 = some e) :
      ∀ x ∈ e.input.workloadConfidence, x ∈ tick.outcome.confidence := by
    unfold classify at h
    split at h
    · rw [evaluatePolicy_confidence h]
      -- a clock before the epoch leaves no confidence at all
      split
      · intro x hx
        cases hx
      · exact fun x hx => hx
    · cases h
  unfold onProcessTick at h
  split at h
  · cases h
  · split at h
    · cases h
    · dsimp only at h
      split at h <;> exact hclassify h

/-- Only a process tick evaluates, with its own confidence if any. -/
theorem turn_confidence {loop : LoopConfig} {s : LoopState} {tick : Tick} {e : PolicyEvaluation}
    (h : (turn loop s tick).2 = some e) :
    ∃ t, tick = .process t ∧ ∀ x ∈ e.input.workloadConfidence, x ∈ t.outcome.confidence := by
  unfold turn at h
  split at h
  · cases h
  · cases tick with
    | shutdown => cases h
    | system t => cases h
    | retention done => cases done <;> cases h
    | process t => exact ⟨t, rfl, onProcessTick_confidence h⟩

/-- A process tick classifies with confidences up to one. -/
theorem upTo_outcomeOf (latest : Option SystemSample)
    (processes : Except String (List Classifier.ProcessSample)) :
    ∀ x ∈ (outcomeOf config latest processes).confidence, UpTo 1 x := by
  cases processes with
  | ok samples => exact upTo_classify (upTo_classifyAll _ _ _)
  | error e => exact fun x hx => by cases hx

/-- A sample that is collected is sound. -/
theorem sound_collect {timestamp : Except String Int64} {source : Collector.TelemetrySource}
    {sample : SystemSample} (h : collect timestamp source = .ok sample) : sample.Sound := by
  unfold collect at h
  obtain ⟨timestampNs, -, h⟩ := bind_eq_ok.1 h
  obtain ⟨s, hs, h⟩ := bind_eq_ok.1 h
  cases h
  exact sound_seen (mapError_eq_ok.1 hs)

/-- A system tick leaves the sample and its rates, or replaces both. -/
theorem onSystemTick_sound {loop : LoopConfig} (hfloats : loop.floats = binary64)
    {tick : SystemTick} {s : LoopState} (h : s.Sound)
    (htick : ∀ sample, tick.sample = .ok sample → sample.Sound) :
    (onSystemTick loop tick s).Sound := by
  unfold onSystemTick
  split
  · exact ⟨h.sample, h.rates⟩
  · split
    · exact h
    · next sample hsample =>
      split
      · exact ⟨h.sample, h.rates⟩
      · refine ⟨fun system hsystem => ?_, ?_⟩
        · cases hsystem
          exact htick sample hsample
        · rw [hfloats]
          exact sound_updateRates _ _

/-- One turn keeps the state sound. -/
theorem LoopState.Sound.turn {s : LoopState} (h : s.Sound) (reading : Reading) :
    (measuredTurn config s reading).1.Sound := by
  by_cases hstale : (reading.tick config s.latestSystem).Collects
  · cases reading with
    | system timestamp source stored =>
      unfold measuredTurn Daemon.turn
      split
      · exact h
      · exact onSystemTick_sound rfl h fun sample hsample => sound_collect hsample
    | shutdown | process | retention => exact absurd hstale fun h => h
  · have hturned : Turned config.compiled s (measuredTurn config s reading).1
        (measuredTurn config s reading).2 := turn_turned hstale
    exact ⟨hturned.sample ▸ h.sample, hturned.rates ▸ h.rates⟩

/-- What one turn evaluates. -/
theorem LoopState.Sound.evaluated {s : LoopState} (h : s.Sound) {reading : Reading}
    {e : PolicyEvaluation} (he : (measuredTurn config s reading).2 = some e)
    (hsmall : e.input.ramTotalBytes.toNat < 2 ^ 56) : e.Checked := by
  obtain ⟨t, htick, hconfidence⟩ := turn_confidence he
  have hstale : ¬ (reading.tick config s.latestSystem).Collects := by
    rw [htick]
    exact fun h => h
  have hturned : Turned config.compiled s (measuredTurn config s reading).1
      (measuredTurn config s reading).2 := turn_turned hstale
  obtain ⟨system, timestampNs, classified, outcome, history, hsystem, hinput, hevaluate⟩ :=
    hturned.evaluated e he
  have hup : ∀ x ∈ t.outcome.confidence, UpTo 1 x := by
    cases reading with
    | process timestamp now processes history storePolicy storeAudits storeClassified =>
      cases htick
      exact upTo_outcomeOf _ _
    | shutdown | system | retention => cases htick
  rw [hinput] at hsmall hconfidence
  have hvalidate : e.input.validate = validateRead e.input :=
    validate_policyInput rfl h hsystem (fun x hx => hup x (hconfidence x hx)) hsmall hinput
  refine ⟨hvalidate, fun error herror => ?_⟩
  rw [herror] at hevaluate
  rw [← hvalidate]
  exact evaluateInPlace_error hevaluate

/-- **Nothing that the daemon computes is refused.** In every run of the loop, whatever the files
    and the processes are, an evaluation is checked as if only the clock, the memory and the swap
    were looked at: percentage, rates, averages and confidence always pass. -/
theorem only_read_refused (config : MeasuringConfig) (readings : List Reading) :
    OnlyReadRefused (transcript (measuredTurn config) (.start config.compiled) readings) := by
  have hstart : (LoopState.start config.compiled).Sound :=
    { sample := fun system h => (by cases h)
      rates := sound_default }
  have hrun := transcript_induction (measuredTurn config)
    (fun log s => s.Sound ∧ OnlyReadRefused log) ⟨hstart, fun entry h => by cases h⟩
    (fun log s reading hinv => by
      obtain ⟨hsound, hlog⟩ := hinv
      refine ⟨hsound.turn reading, fun entry hentry e he => ?_⟩
      rcases List.mem_append.1 hentry with hentry | hentry
      · exact hlog entry hentry e he
      · rw [List.mem_singleton.1 hentry] at he
        exact hsound.evaluated he)
    readings
  exact hrun.2

end Runs

end Nemor.Daemon
