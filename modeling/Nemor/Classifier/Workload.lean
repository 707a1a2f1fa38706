import Nemor.Classifier.Process
import Nemor.Classifier.Stabilizer

/-!
# Classification of the workload

One sample of the system and the classified processes give candidates, each a class with a
confidence and the evidence for it. The first class in a fixed order of precedence that has a
candidate of sufficient confidence is selected. The last in that order is idleness.
-/

namespace Nemor.Classifier

open MachineNumbers
open Common (ClassificationConfig)
open Policy (ForegroundState PressureConfig WorkloadClass)

/-! ## §1 What is measured -/

/-- The ten second averages of the pressure stall information. -/
structure PsiSample where
  someAvg10 : Option F64
  fullAvg10 : Option F64

/-- The fields of a system sample that the classifier reads. -/
structure SystemSample where
  memTotalBytes : UInt64
  memAvailableBytes : UInt64
  psiMemory : Option PsiSample

/-- A part of a total, in binary64. -/
def percentOf (part total : UInt64) : F64 :=
  ((F64.ofU64 part).quotient (F64.ofU64 total)).times (.finite 100)

section Sample

variable (system : Option SystemSample) (processes : List ProcessClassification)

/-- The memory available. -/
def memoryPercent : Option F64 :=
  system.bind fun sample =>
    if 0 < sample.memTotalBytes.toNat then
      some (percentOf sample.memAvailableBytes sample.memTotalBytes)
    else none

/-- The average over ten seconds of tasks that stall. -/
def psiSome : Option F64 := (system.bind SystemSample.psiMemory).bind PsiSample.someAvg10

/-- The same, of all tasks at once. -/
def psiFull : Option F64 := (system.bind SystemSample.psiMemory).bind PsiSample.fullAvg10

/-- Compared as 128-bit products. -/
def availableAtOrBelow (threshold : UInt8) : Bool :=
  system.any fun sample =>
    decide (sample.memAvailableBytes.toNat * 100 ≤ sample.memTotalBytes.toNat * threshold.toNat)

/-- The processes of a category. -/
def ofCategory (category : ProcessCategory) : List ProcessClassification :=
  processes.filter fun p => decide (p.category = category)

/-- The resident memory of processes; the sum of a release build wraps. -/
def rssSum : UInt64 := (processes.filterMap fun p => p.sample.rssBytes).foldl UInt64.add 0

/-- That memory in percent of all memory, 0 if there is no total. -/
def rssPercent : F64 :=
  ((system.filter fun sample => decide (0 < sample.memTotalBytes.toNat)).map fun sample =>
    percentOf (rssSum processes) sample.memTotalBytes).getD (.finite 0)

end Sample

/-! ## §2 Candidates -/

/-- The name of a class in tables. -/
def className : WorkloadClass → String
  | .idle => "idle"
  | .desktop => "desktop"
  | .browserHeavy => "browser_heavy"
  | .development => "development"
  | .gaming => "gaming"
  | .gamingBackgroundHeavy => "gaming_background_heavy"
  | .virtualization => "virtualization"
  | .memoryPressure => "memory_pressure"
  | .criticalPressure => "critical_pressure"

/-- A class that something speaks for. -/
structure Candidate where
  workloadClass : WorkloadClass
  confidence : F64
  evidence : Evidence

/-- A candidate with its one reason. -/
def candidate (workloadClass : WorkloadClass) (confidence : F64) (code observed : String)
    (threshold : Option String) : Candidate where
  workloadClass := workloadClass
  confidence := confidence
  evidence :=
    { code
      description := "deterministic evidence for " ++ className workloadClass
      observed
      threshold
      contribution := confidence }

section Candidates

variable (system : Option SystemSample) (processes : List ProcessClassification)
  (config : ClassificationConfig) (pressure : PressureConfig)

/-- Pressure by available memory or by a stall average. -/
def pressureCandidates (workloadClass : WorkloadClass) (confidence : F64) (code label : String)
    (percent : UInt8) (psi : Option F64) (threshold : F64) : List Candidate :=
  if availableAtOrBelow system percent || psi.any fun value => threshold.le value then
    [candidate workloadClass confidence code
      (match memoryPercent system with
        | some value => value.fixedTwo ++ "% available"
        | none => label ++ " " ++ (psi.getD (.finite 0)).fixedTwo)
      (some ("<= " ++ toString percent.toNat ++ "% or " ++ label ++ " >= " ++
        threshold.fixedTwo))]
  else []

/-- Too little memory while everything stalls. -/
def criticalPressureCandidates : List Candidate :=
  pressureCandidates system .criticalPressure (.finite 1) "critical_memory_pressure" "PSI full"
    pressure.criticalAvailablePercent (psiFull system) pressure.psiFullAvg10Threshold

/-- Little memory while something stalls. -/
def memoryPressureCandidates : List Candidate :=
  pressureCandidates system .memoryPressure (F64.ofRat (92 / 100)) "sustained_memory_pressure"
    "PSI some" pressure.pressureAvailablePercent (psiSome system) pressure.psiSomeAvg10Threshold

/-- A game, and whether what runs beside it is heavy. -/
def gamingCandidates : List Candidate :=
  let games := ofCategory processes .game
  let gameConfidence := (games.map ProcessClassification.confidence).foldl F64.max (.finite 0)
  let nonGamePercent :=
    rssPercent system (processes.filter fun p => decide (p.category ≠ .game))
  if games = [] then []
  else
    (if config.gamingBackgroundMemoryPercent.le nonGamePercent then
      [candidate .gamingBackgroundHeavy (gameConfidence.max (F64.ofRat (80 / 100)))
        "game_with_heavy_background" (nonGamePercent.fixedTwo ++ "% non-game RSS")
        (some (">= " ++ config.gamingBackgroundMemoryPercent.fixedTwo ++ "%"))]
    else []) ++
    [candidate .gaming gameConfidence "protected_game_process"
      (toString games.length ++ " game process(es)")
      (some "at least one independently confirmed game")]

/-- Virtual machines that use enough of the memory. -/
def virtualizationCandidates : List Candidate :=
  let virtualization := ofCategory processes .virtualization
  let virtualizationPercent := rssPercent system virtualization
  if virtualization ≠ [] ∧ config.virtualizationMemoryPercent.le virtualizationPercent = true then
    [candidate .virtualization (F64.ofRat (88 / 100)) "virtual_machine_memory_share"
      (virtualizationPercent.fixedTwo ++ "% VM RSS")
      (some (">= " ++ config.virtualizationMemoryPercent.fixedTwo ++ "%"))]
  else []

/-- Many processes of browsers that use enough of the memory. -/
def browserCandidates : List Candidate :=
  let browsers := ofCategory processes .browser
  let browserPercent := rssPercent system browsers
  if config.browserHeavyProcessCount.toNat ≤ browsers.length ∧
      config.browserHeavyMemoryPercent.le browserPercent = true then
    [candidate .browserHeavy (F64.ofRat (85 / 100)) "browser_processes_and_memory"
      (toString browsers.length ++ " processes, " ++ browserPercent.fixedTwo ++ "% RSS")
      (some (">= " ++ toString config.browserHeavyProcessCount.toNat ++ " processes and >= " ++
        config.browserHeavyMemoryPercent.fixedTwo ++ "% RSS"))]
  else []

/-- At least two tools of development. -/
def developmentCandidates : List Candidate :=
  let development := (ofCategory processes .development).length
  if 2 ≤ development then
    [candidate .development (F64.ofRat (82 / 100)) "development_toolset"
      (toString development ++ " development processes")
      (some ">= 2 independent development tools")]
  else []

/-- A program that somebody works with. -/
def desktopEvidence (p : ProcessClassification) : Bool :=
  decide (p.category ∈ [ProcessCategory.desktop, .browser, .development]) ||
    (decide (p.foreground = .foreground) &&
      decide (p.category ∉ [ProcessCategory.system, .critical, .unknown]))

/-- Some program says so. -/
def desktopCandidates : List Candidate :=
  if processes.any desktopEvidence then
    [candidate .desktop (F64.ofRat (75 / 100)) "interactive_desktop_process"
      "interactive desktop evidence" none]
  else []

/-- A process of the system whose use of the processor is low; a use that was not measured
    counts as none. -/
def idleEvidence (p : ProcessClassification) : Bool :=
  decide (p.category ∈ [ProcessCategory.system, .critical, .background]) &&
    (p.sample.cpuPercent.getD (.finite 0)).le (.finite (1 / 2))

/-- Every process is one of an idle system, or there is none. -/
def idleCandidates : List Candidate :=
  if processes.isEmpty || processes.all idleEvidence then
    [candidate .idle (F64.ofRat (80 / 100)) "demonstrated_inactivity" "no active user workload"
      (some "only idle system/background activity")]
  else []

/-- All candidates, in the order of the source. -/
def candidates : List Candidate :=
  criticalPressureCandidates system pressure ++ memoryPressureCandidates system pressure ++
    gamingCandidates system processes config ++ virtualizationCandidates system processes config ++
    browserCandidates system processes config ++ developmentCandidates processes ++
    desktopCandidates processes ++ idleCandidates processes

end Candidates

/-! ## §3 Selection -/

/-- `RULE_VERSION`. -/
def ruleVersion : String := "heuristic-v1"

/-- Which class is chosen before which. -/
def precedence : List WorkloadClass :=
  [.criticalPressure, .memoryPressure, .gamingBackgroundHeavy, .gaming, .virtualization,
    .browserHeavy, .development, .desktop, .idle]

/-- The first class that has a candidate of sufficient confidence, with that candidate. -/
def select (candidates : List Candidate) (minimumConfidence : F64) : Option Candidate :=
  precedence.findSome? fun workloadClass =>
    candidates.find? fun c =>
      decide (c.workloadClass = workloadClass) && minimumConfidence.le c.confidence

/-- Why processes are protected. -/
def protectionReasons (processes : List ProcessClassification) : List String :=
  (processes.flatMap ProcessClassification.reasons).filter fun reason =>
    UnixPath.contains reason "protected"

/-- The candidates that are not selected, each with its reason. -/
def rejectedCandidates (candidates : List Candidate) (selected : Option Candidate)
    (minimumConfidence : F64) : List RejectedCandidate :=
  (candidates.filter fun c =>
    selected.all fun s => decide (s.workloadClass ≠ c.workloadClass)).map fun c =>
      { candidate := c.workloadClass
        confidence := c.confidence
        reason :=
          if c.confidence.lt minimumConfidence then "below minimum confidence"
          else "lower deterministic precedence" }

/-- `classify`. -/
def classify (system : Option SystemSample) (processes : List ProcessClassification)
    (config : ClassificationConfig) (pressure : PressureConfig) : ClassificationOutcome :=
  let candidates := candidates system processes config pressure
  let selected := select candidates config.minimumConfidence
  let rejected := rejectedCandidates candidates selected config.minimumConfidence
  match selected with
  | some selected =>
    .classified
      { workloadClass := selected.workloadClass
        confidence := selected.confidence
        explanation :=
          { ruleVersion
            selectedClass := className selected.workloadClass
            confidence := selected.confidence
            evidence := [selected.evidence]
            rejectedCandidates := rejected
            protectionReasons := protectionReasons processes } }
  | none =>
    .unknown
      { ruleVersion
        selectedClass := "unknown"
        confidence := .finite 0
        evidence := []
        rejectedCandidates := rejected
        protectionReasons := protectionReasons processes }

/-- What is selected is a candidate of sufficient confidence. -/
theorem select_some {candidates : List Candidate} {minimumConfidence : F64} {selected : Candidate}
    (h : select candidates minimumConfidence = some selected) :
    selected ∈ candidates ∧ minimumConfidence.le selected.confidence = true := by
  obtain ⟨workloadClass, -, hfind⟩ := List.exists_of_findSome?_eq_some h
  have hfound := List.find?_some hfind
  exact ⟨List.mem_of_find?_eq_some hfind, (Bool.and_eq_true_iff.1 hfound).2⟩

/-! ## §4 Idleness -/

/-- No process but those of the system, and no measured use of the processor above one half
    percent. -/
structure Inactive (processes : List ProcessClassification) : Prop where
  system : ∀ p ∈ processes, p.category ∈ [ProcessCategory.system, .critical, .background]
  measured : ∀ p ∈ processes, ∀ cpu, p.sample.cpuPercent = some cpu →
    cpu.le (.finite (1 / 2)) = true

section Idle

variable {system : Option SystemSample} {processes : List ProcessClassification}
  {config : ClassificationConfig} {pressure : PressureConfig}

/-- The class of a candidate is that of the rule it comes from. -/
theorem mem_candidate {p : Prop} [Decidable p] {c : Candidate} {workloadClass : WorkloadClass}
    {confidence : F64} {code observed : String} {threshold : Option String}
    (h : c ∈ if p then [candidate workloadClass confidence code observed threshold] else []) :
    p ∧ c.workloadClass = workloadClass := by
  split at h
  · next hp =>
    rw [List.mem_singleton.1 h]
    exact ⟨hp, rfl⟩
  · cases h

theorem gamingCandidates_class {c : Candidate} (h : c ∈ gamingCandidates system processes config) :
    c.workloadClass = .gamingBackgroundHeavy ∨ c.workloadClass = .gaming := by
  unfold gamingCandidates at h
  dsimp only at h
  split at h
  · cases h
  · rcases List.mem_append.1 h with h | h
    · exact .inl (mem_candidate h).2
    · rw [List.mem_singleton.1 h]
      exact .inr rfl

/-- What speaks for the candidate of a rule does so with its confidence. -/
theorem contribution_candidate {p : Prop} [Decidable p] {c : Candidate}
    {workloadClass : WorkloadClass} {confidence : F64} {code observed : String}
    {threshold : Option String}
    (h : c ∈ if p then [candidate workloadClass confidence code observed threshold] else []) :
    c.evidence.contribution = c.confidence := by
  split at h
  · rw [List.mem_singleton.1 h]
    rfl
  · cases h

theorem contribution_candidates {c : Candidate}
    (h : c ∈ candidates system processes config pressure) :
    c.evidence.contribution = c.confidence := by
  simp only [candidates, List.mem_append] at h
  rcases h with ((((((h | h) | h) | h) | h) | h) | h) | h
  · exact contribution_candidate h
  · exact contribution_candidate h
  · unfold gamingCandidates at h
    dsimp only at h
    split at h
    · cases h
    · rcases List.mem_append.1 h with h | h
      · exact contribution_candidate h
      · rw [List.mem_singleton.1 h]
        rfl
  · exact contribution_candidate h
  · exact contribution_candidate h
  · exact contribution_candidate h
  · exact contribution_candidate h
  · exact contribution_candidate h

/-- A candidate for idleness comes from the last rule. -/
theorem idleCandidate_mem {c : Candidate} (h : c ∈ candidates system processes config pressure)
    (hidle : c.workloadClass = .idle) : c ∈ idleCandidates processes := by
  simp only [candidates, List.mem_append] at h
  rcases h with ((((((h | h) | h) | h) | h) | h) | h) | h
  · exact absurd ((mem_candidate h).2.symm.trans hidle) (by decide)
  · exact absurd ((mem_candidate h).2.symm.trans hidle) (by decide)
  · rcases gamingCandidates_class h with hclass | hclass <;> rw [hidle] at hclass <;> cases hclass
  · exact absurd ((mem_candidate h).2.symm.trans hidle) (by decide)
  · exact absurd ((mem_candidate h).2.symm.trans hidle) (by decide)
  · exact absurd ((mem_candidate h).2.symm.trans hidle) (by decide)
  · exact absurd ((mem_candidate h).2.symm.trans hidle) (by decide)
  · exact h

theorem inactive_of_idleCandidate {c : Candidate} (h : c ∈ idleCandidates processes) :
    Inactive processes := by
  obtain ⟨hidle, -⟩ := mem_candidate h
  have hall : ∀ p ∈ processes, idleEvidence p = true := by
    rw [Bool.or_eq_true, List.isEmpty_iff, List.all_eq_true] at hidle
    rcases hidle with rfl | hall
    · intro p hp
      cases hp
    · exact hall
  constructor
  · intro p hp
    exact of_decide_eq_true (Bool.and_eq_true_iff.1 (hall p hp)).1
  · intro p hp cpu hcpu
    have hlow := (Bool.and_eq_true_iff.1 (hall p hp)).2
    rwa [hcpu] at hlow

/-- **Idleness.** An idle outcome is given only of processes of the system, none of which was
    measured above the threshold. -/
theorem classify_idle
    (h : (classify system processes config pressure).workloadClass = some .idle) :
    Inactive processes := by
  unfold classify at h
  dsimp only at h
  split at h
  · next selected hselected =>
    have hidle : selected.workloadClass = .idle := Option.some.inj h
    exact inactive_of_idleCandidate (idleCandidate_mem (select_some hselected).1 hidle)
  · cases h

end Idle

/-- The outcome for samples under the shipped configuration, without a sample of the system. -/
def outcomeOf (samples : List ProcessSample) : ClassificationOutcome :=
  classify none (classifyAll knownDigest samples Common.shippedConfig.classification)
    Common.shippedConfig.classification Common.shippedConfig.pressure

/-- A kernel worker with a use of the processor, or with none that was measured. -/
def worker (cpuPercent : Option F64) : ProcessSample :=
  { processNamed 2 "kworker" none with cpuPercent }

theorem outcomeOf_worker :
    (outcomeOf [worker (some (.finite (1 / 4)))]).workloadClass = some .idle ∧
      Inactive (classifyAll knownDigest [worker (some (.finite (1 / 4)))]
        Common.shippedConfig.classification) := by
  have hidle : (outcomeOf [worker (some (.finite (1 / 4)))]).workloadClass = some .idle := by
    decide +kernel
  exact ⟨hidle, classify_idle hidle⟩

/-- An idle outcome that rests on measurements: there is one, and every process has a low one. -/
def IdleMeasured (samples : List ProcessSample) : Prop :=
  (outcomeOf samples).workloadClass = some .idle →
    (∃ s ∈ samples, s.cpuPercent.isSome = true) ∧
      ∀ s ∈ samples, ∃ cpu, s.cpuPercent = some cpu ∧ cpu.le (.finite (1 / 2)) = true

/-- Without any process the outcome is idle, and also with one whose use was not measured. -/
theorem idle_without_measurement : ¬ IdleMeasured [] ∧ ¬ IdleMeasured [worker none] := by
  constructor
  · intro h
    obtain ⟨⟨s, hs, -⟩, -⟩ := h (by decide +kernel)
    cases hs
  · intro h
    obtain ⟨-, hmeasured⟩ := h (by decide +kernel)
    obtain ⟨cpu, hcpu, -⟩ := hmeasured (worker none) (by simp)
    cases hcpu

end Nemor.Classifier
