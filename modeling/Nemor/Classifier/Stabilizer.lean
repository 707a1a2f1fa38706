import Mathlib.Data.List.Chain
import Mathlib.Data.List.DropRight
import Nemor.Lib.Machine
import Nemor.Policy.Input

/-!
# Workload stabilizer

The classifier gives one outcome for each sample. The stabilizer turns them into transitions:
a class other than the current one counts only after `confirmation_samples` samples in a row,
critical pressure at once. Its counter is small; what it means is a property of the whole
history. §3 reads the counter as the length of the last run of equal classes, and §4 states
every transition in terms of the history alone.
-/

namespace Nemor.Classifier

open MachineNumbers Log
open Policy (WorkloadClass)

/-! ## §1 Outcomes and transitions -/

/-- One reason for a class, with what was observed and the threshold. -/
structure Evidence where
  code : String
  description : String
  observed : String
  threshold : Option String
  contribution : F64
  deriving DecidableEq

/-- A class that was considered, and why it was not chosen. -/
structure RejectedCandidate where
  candidate : WorkloadClass
  confidence : F64
  reason : String
  deriving DecidableEq

/-- Why a class was selected. -/
structure WorkloadExplanation where
  ruleVersion : String
  selectedClass : String
  confidence : F64
  evidence : List Evidence
  rejectedCandidates : List RejectedCandidate
  protectionReasons : List String
  deriving DecidableEq

/-- A class with its explanation. -/
structure WorkloadDecision where
  workloadClass : WorkloadClass
  confidence : F64
  explanation : WorkloadExplanation
  deriving DecidableEq

/-- What a classification comes to. -/
inductive ClassificationOutcome where
  | classified (decision : WorkloadDecision)
  | unknown (explanation : WorkloadExplanation)
  deriving DecidableEq

/-- The class of an outcome, `none` for an unknown one. -/
def ClassificationOutcome.workloadClass : ClassificationOutcome → Option WorkloadClass
  | .classified decision => some decision.workloadClass
  | .unknown _ => none

/-- A change of the class that is reported. -/
structure WorkloadTransition where
  timestampNs : Int64
  previousClass : Option WorkloadClass
  newClass : WorkloadClass
  confidence : F64
  explanation : WorkloadExplanation
  deriving DecidableEq

/-! ## §2 The stabilizer -/

/-- The current class and the class that may replace it, with its count. -/
structure WorkloadStabilizer where
  confirmationSamples : UInt32
  current : Option WorkloadClass
  pending : Option (WorkloadClass × UInt32)
  deriving DecidableEq

/-- `u32::saturating_add(1)`. -/
def saturatingSucc (n : UInt32) : UInt32 := if n.toNat + 1 < 2 ^ 32 then n + 1 else n

theorem toNat_saturatingSucc {n : UInt32} (h : n.toNat + 1 < 2 ^ 32) :
    (saturatingSucc n).toNat = n.toNat + 1 := by
  unfold saturatingSucc
  rw [if_pos h, UInt32.toNat_add]
  exact Nat.mod_eq_of_lt h

/-- One sample: its timestamp and the outcome of the classifier. -/
structure Observation where
  timestampNs : Int64
  outcome : ClassificationOutcome
  deriving DecidableEq

/-- The class that was observed, if any. -/
def Observation.workloadClass (x : Observation) : Option WorkloadClass := x.outcome.workloadClass

theorem Observation.workloadClass_of_classified {x : Observation} {decision : WorkloadDecision}
    (h : x.outcome = .classified decision) : x.workloadClass = some decision.workloadClass := by
  simp [Observation.workloadClass, h, ClassificationOutcome.workloadClass]

namespace WorkloadStabilizer

/-- A stabilizer that has seen nothing. -/
def new (confirmationSamples : UInt32) : WorkloadStabilizer :=
  { confirmationSamples, current := none, pending := none }

/-- The count of a class once this sample of it is counted. -/
def nextCount (s : WorkloadStabilizer) (c : WorkloadClass) : UInt32 :=
  match s.pending with
  | some (pendingClass, count) => if pendingClass = c then saturatingSucc count else 1
  | none => 1

/-- The stabilizer after one sample, and the transition if there is one. -/
def observe (s : WorkloadStabilizer) (x : Observation) :
    WorkloadStabilizer × Option WorkloadTransition :=
  match x.outcome with
  | .unknown _ => ({ s with pending := none }, none)
  | .classified decision =>
    -- a sample of the current class ends what was pending
    if s.current = some decision.workloadClass then ({ s with pending := none }, none)
    else
      let immediate : Bool := decision.workloadClass = .criticalPressure
      let count := s.nextCount decision.workloadClass
      if !immediate && count < s.confirmationSamples then
        ({ s with pending := some (decision.workloadClass, count) }, none)
      else
        ({ s with current := some decision.workloadClass, pending := none },
          some
            { timestampNs := x.timestampNs
              previousClass := s.current
              newClass := decision.workloadClass
              confidence := decision.confidence
              explanation := decision.explanation })

end WorkloadStabilizer

/-! ## §3 The history behind the state -/

/-- The samples seen so far, each with its answer. -/
abbrev Transcript := List (Observation × Option WorkloadTransition)

/-- The transitions emitted so far. -/
def emitted (log : Transcript) : List WorkloadTransition := log.filterMap Prod.snd

/-- The class of the last emission, `none` before the first one. -/
def lastEmitted (log : Transcript) : Option WorkloadClass :=
  (emitted log).getLast?.map WorkloadTransition.newClass

/-- How many samples of a class end the history, with nothing else in between. -/
def consecutive (c : WorkloadClass) (log : Transcript) : ℕ :=
  (log.rtakeWhile fun x => decide (x.1.workloadClass = some c)).length

@[simp] theorem consecutive_nil (c : WorkloadClass) : consecutive c [] = 0 := by
  simp [consecutive]

theorem consecutive_snoc (c : WorkloadClass) (log : Transcript)
    (x : Observation × Option WorkloadTransition) :
    consecutive c (log ++ [x]) =
      if x.1.workloadClass = some c then consecutive c log + 1 else 0 := by
  unfold consecutive
  rw [List.rtakeWhile_concat]
  by_cases h : x.1.workloadClass = some c <;> simp [h]

@[simp] theorem emitted_snoc_none (log : Transcript) (x : Observation) :
    emitted (log ++ [(x, none)]) = emitted log := by
  simp [emitted]

@[simp] theorem emitted_snoc_some (log : Transcript) (x : Observation) (t : WorkloadTransition) :
    emitted (log ++ [(x, some t)]) = emitted log ++ [t] := by
  simp [emitted]

@[simp] theorem lastEmitted_snoc_none (log : Transcript) (x : Observation) :
    lastEmitted (log ++ [(x, none)]) = lastEmitted log := by
  simp [lastEmitted]

@[simp] theorem lastEmitted_snoc_some (log : Transcript) (x : Observation)
    (t : WorkloadTransition) : lastEmitted (log ++ [(x, some t)]) = some t.newClass := by
  simp [lastEmitted]

/-- What the state says about the history. -/
structure Tracks (n : UInt32) (log : Transcript) (s : WorkloadStabilizer) : Prop where
  samples : s.confirmationSamples = n
  current : s.current = lastEmitted log
  /-- A pending class is not the current one, and its count is its last run. -/
  pending : ∀ c k, s.pending = some (c, k) →
    s.current ≠ some c ∧ 1 ≤ k.toNat ∧ k.toNat < n.toNat ∧ consecutive c log = k.toNat
  /-- A class that is neither current nor pending does not end the history. -/
  fresh : ∀ c, s.current ≠ some c → (∀ k, s.pending ≠ some (c, k)) → consecutive c log = 0

theorem tracks_new (n : UInt32) : Tracks n [] (WorkloadStabilizer.new n) where
  samples := rfl
  current := rfl
  pending := by simp [WorkloadStabilizer.new]
  fresh := by simp

/-- The count that decides is the length of the run, this sample included. It stays within
    the confirmation count, so the addition never saturates. -/
theorem Tracks.nextCount {n : UInt32} (hn : 1 ≤ n.toNat) {log : Transcript}
    {s : WorkloadStabilizer} (h : Tracks n log s) {c : WorkloadClass} (hc : s.current ≠ some c) :
    (s.nextCount c).toNat = consecutive c log + 1 ∧ consecutive c log + 1 ≤ n.toNat := by
  unfold WorkloadStabilizer.nextCount
  cases hp : s.pending with
  | none =>
    have hrun : consecutive c log = 0 := h.fresh c hc (by simp [hp])
    simp [hrun, hn]
  | some pending =>
    obtain ⟨c', k⟩ := pending
    by_cases heq : c' = c
    · subst heq
      obtain ⟨-, -, hlt, hrun⟩ := h.pending c' k hp
      have hbound := n.toNat_lt
      have hsucc := toNat_saturatingSucc (n := k) (by omega)
      rw [hrun]
      dsimp only
      rw [if_pos rfl, hsucc]
      omega
    · have hrun : consecutive c log = 0 := by
        apply h.fresh c hc
        intro k' hk'
        rw [hp] at hk'
        simp only [Option.some.injEq, Prod.mk.injEq] at hk'
        exact heq hk'.1
      simp [heq, hrun, hn]

/-! ### The steps -/

/-- A step clears the pending class, counts it, or emits. -/
theorem WorkloadStabilizer.observe_cases (s : WorkloadStabilizer) (x : Observation) :
    (s.observe x = ({ s with pending := none }, none) ∧
        ∀ c, x.workloadClass = some c → s.current = some c) ∨
      ∃ decision, x.outcome = .classified decision ∧ s.current ≠ some decision.workloadClass ∧
        ((decision.workloadClass ≠ .criticalPressure ∧
            (s.nextCount decision.workloadClass).toNat < s.confirmationSamples.toNat ∧
            s.observe x =
              ({ s with
                  pending := some (decision.workloadClass, s.nextCount decision.workloadClass) },
                none)) ∨
          ((decision.workloadClass = .criticalPressure ∨
              s.confirmationSamples.toNat ≤ (s.nextCount decision.workloadClass).toNat) ∧
            s.observe x =
              ({ s with current := some decision.workloadClass, pending := none },
                some
                  { timestampNs := x.timestampNs
                    previousClass := s.current
                    newClass := decision.workloadClass
                    confidence := decision.confidence
                    explanation := decision.explanation }))) := by
  cases hout : x.outcome with
  | unknown explanation =>
    left
    refine ⟨by simp [observe, hout], ?_⟩
    simp [Observation.workloadClass, hout, ClassificationOutcome.workloadClass]
  | classified decision =>
    by_cases hcur : s.current = some decision.workloadClass
    · left
      refine ⟨by simp [observe, hout, hcur], ?_⟩
      simp [Observation.workloadClass, hout, ClassificationOutcome.workloadClass, hcur]
    · right
      refine ⟨decision, rfl, hcur, ?_⟩
      -- critical pressure needs no confirmation
      by_cases himm : decision.workloadClass = .criticalPressure
      · right
        refine ⟨.inl himm, ?_⟩
        rw [himm] at hcur
        simp [observe, hout, hcur, himm]
      · by_cases hlt : s.nextCount decision.workloadClass < s.confirmationSamples
        · left
          refine ⟨himm, UInt32.lt_iff_toNat_lt.1 hlt, ?_⟩
          simp [observe, hout, hcur, himm, hlt]
        · right
          refine ⟨.inr (not_lt.1 (UInt32.lt_iff_toNat_lt.not.1 hlt)), ?_⟩
          simp [observe, hout, hcur, himm, hlt]

/-- A sample of another class ends every run of `c`. -/
theorem consecutive_snoc_other {c : WorkloadClass} {log : Transcript}
    {x : Observation × Option WorkloadTransition} (h : x.1.workloadClass ≠ some c) :
    consecutive c (log ++ [x]) = 0 := by
  rw [consecutive_snoc, if_neg h]

/-- One sample keeps the state and the history together. -/
theorem Tracks.observe {n : UInt32} (hn : 1 ≤ n.toNat) {log : Transcript}
    {s : WorkloadStabilizer} (h : Tracks n log s) (x : Observation) :
    Tracks n (log ++ [(x, (s.observe x).2)]) (s.observe x).1 := by
  rcases s.observe_cases x with ⟨hobs, hclass⟩ |
    ⟨decision, hout, hcur, ⟨himm, hlt, hobs⟩ | ⟨-, hobs⟩⟩
  · -- cleared: the sample is unknown or of the current class
    rw [hobs]
    refine ⟨h.samples, ?_, by simp, ?_⟩
    · simpa using h.current
    · intro c hc _
      apply consecutive_snoc_other
      intro hx
      exact hc (hclass c hx)
  · -- counted: the pending class gains one sample, every other run ends
    have hx := Observation.workloadClass_of_classified hout
    obtain ⟨hcount, -⟩ := h.nextCount hn hcur
    rw [hobs]
    refine ⟨h.samples, ?_, ?_, ?_⟩
    · simpa using h.current
    · intro c k hk
      simp only [Option.some.injEq, Prod.mk.injEq] at hk
      obtain ⟨rfl, rfl⟩ := hk
      rw [h.samples] at hlt
      refine ⟨hcur, by omega, hlt, ?_⟩
      rw [consecutive_snoc, if_pos hx, hcount]
    · intro c _ hpending
      apply consecutive_snoc_other
      intro hxc
      rw [hx] at hxc
      cases hxc
      exact hpending _ rfl
  · -- emitted: the new class is current, every other run ends
    have hx := Observation.workloadClass_of_classified hout
    rw [hobs]
    refine ⟨h.samples, ?_, by simp, ?_⟩
    · simp
    · intro c hc _
      apply consecutive_snoc_other
      intro hxc
      rw [hx] at hxc
      exact hc hxc

/-! ## §4 When a transition is emitted -/

/-- The answer to one sample, in terms of the history alone. -/
structure Explained (n : UInt32) (log : Transcript) (x : Observation × Option WorkloadTransition) :
    Prop where
  emits : x.2.isSome ↔ ∃ c, x.1.workloadClass = some c ∧ lastEmitted log ≠ some c ∧
    (c = .criticalPressure ∨ consecutive c (log ++ [x]) = n.toNat)
  previous : ∀ t ∈ x.2, t.previousClass = lastEmitted log
  new : ∀ t ∈ x.2, x.1.workloadClass = some t.newClass

theorem Tracks.explained {n : UInt32} (hn : 1 ≤ n.toNat) {log : Transcript}
    {s : WorkloadStabilizer} (h : Tracks n log s) (x : Observation) :
    Explained n log (x, (s.observe x).2) := by
  rcases s.observe_cases x with ⟨hobs, hclass⟩ |
    ⟨decision, hout, hcur, ⟨himm, hlt, hobs⟩ | ⟨hwhy, hobs⟩⟩
  · -- cleared: nothing is emitted, and no other class was seen
    rw [hobs]
    refine ⟨?_, by simp, by simp⟩
    rw [← h.current]
    simp only [Option.isSome_none, Bool.false_eq_true, false_iff]
    rintro ⟨c, hx, hc, -⟩
    exact hc (hclass c hx)
  · -- counted: the class is not critical, and its run is still too short
    have hx := Observation.workloadClass_of_classified hout
    obtain ⟨hcount, -⟩ := h.nextCount hn hcur
    rw [hobs]
    refine ⟨?_, by simp, by simp⟩
    simp only [Option.isSome_none, Bool.false_eq_true, false_iff]
    rintro ⟨c, hxc, -, hcrit | hrun⟩
    · rw [hx] at hxc
      cases hxc
      exact himm hcrit
    · rw [hx] at hxc
      cases hxc
      rw [consecutive_snoc, if_pos hx, ← hcount] at hrun
      rw [h.samples] at hlt
      omega
  · -- emitted: the count has reached the confirmation count and cannot be above it
    have hx := Observation.workloadClass_of_classified hout
    obtain ⟨hcount, hle⟩ := h.nextCount hn hcur
    rw [hobs]
    refine ⟨?_, ?_, ?_⟩
    · simp only [Option.isSome_some, true_iff]
      refine ⟨decision.workloadClass, hx, h.current ▸ hcur, ?_⟩
      rcases hwhy with hcrit | hge
      · exact .inl hcrit
      · right
        rw [h.samples] at hge
        rw [consecutive_snoc, if_pos hx]
        omega
    · simpa using h.current
    · simpa using hx

/-- The run of a stabilizer over a list of samples. -/
def transcript (n : UInt32) (observations : List Observation) : Transcript :=
  Machine.transcript WorkloadStabilizer.observe (.new n) observations

theorem tracks_transcript {n : UInt32} (hn : 1 ≤ n.toNat) (observations : List Observation) :
    Tracks n (transcript n observations)
      (Machine.after WorkloadStabilizer.observe (.new n) observations) := by
  apply Machine.transcript_induction _ (Tracks n) (tracks_new n)
  intro log s x h
  exact h.observe hn x

theorem explained_transcript {n : UInt32} (hn : 1 ≤ n.toNat) (observations : List Observation) :
    AllPrefixed (Explained n) (transcript n observations) := by
  refine Machine.transcript_allPrefixed _ (Tracks n) (tracks_new n) ?_ ?_ observations
  · intro log s x h
    exact h.observe hn x
  · intro log s x h
    exact h.explained hn x

/-- Two emissions in a row have different classes: the second one is not that of the
    current class. -/
theorem emitted_isChain {n : UInt32} {log : Transcript} (h : AllPrefixed (Explained n) log) :
    (emitted log).IsChain fun a b => a.newClass ≠ b.newClass := by
  induction log using List.reverseRecOn with
  | nil => exact List.IsChain.nil
  | append_singleton log x ih =>
    have hchain := ih h.of_append
    obtain ⟨x, answer⟩ := x
    cases answer with
    | none => rwa [emitted_snoc_none]
    | some t =>
      obtain ⟨hemits, -, hnew⟩ := h.last
      obtain ⟨c, hx, hlast, -⟩ := hemits.1 rfl
      have hc : c = t.newClass := by
        rw [hnew t rfl] at hx
        exact (Option.some.inj hx).symm
      rw [emitted_snoc_some]
      refine List.isChain_append.2 ⟨hchain, List.isChain_singleton t, ?_⟩
      -- the emission before this one is the last one, and its class is current
      intro a ha b hb heq
      simp only [List.head?_cons, Option.mem_def, Option.some.injEq] at hb
      subst hb
      apply hlast
      rw [lastEmitted, ha, hc, ← heq]
      rfl

/-- **The stabilizer.** Over every list of samples and every confirmation count of at least
    one: the current class is that of the last emission; a sample gives a transition exactly
    when its class is not the current one and is critical pressure or has now been seen
    `n` times in a row; the transition leads from the class of the last emission to that of
    the sample; and no two emissions in a row have the same class. -/
theorem stabilizer_emits_confirmed_classes {n : UInt32} (hn : 1 ≤ n.toNat)
    (observations : List Observation) :
    (Machine.after WorkloadStabilizer.observe (.new n) observations).current =
        lastEmitted (transcript n observations) ∧
      AllPrefixed (Explained n) (transcript n observations) ∧
      (emitted (transcript n observations)).IsChain fun a b => a.newClass ≠ b.newClass :=
  ⟨(tracks_transcript hn observations).current, explained_transcript hn observations,
    emitted_isChain (explained_transcript hn observations)⟩

/-- A sample of a class at a time, with nothing to explain. -/
def sampleOf (timestampNs : Int64) (c : WorkloadClass) : Observation where
  timestampNs := timestampNs
  outcome := .classified
    { workloadClass := c
      confidence := .finite 1
      explanation :=
        { ruleVersion := "heuristic-v1"
          selectedClass := ""
          confidence := .finite 1
          evidence := []
          rejectedCandidates := []
          protectionReasons := [] } }

/-- With two confirmations a broken run of desktop samples does not count, a full one does, and
    critical pressure needs none. -/
theorem stabilizer_confirms_second_desktop :
    (emitted (transcript 2 [sampleOf 1 .desktop, sampleOf 2 .idle, sampleOf 3 .desktop,
        sampleOf 4 .desktop, sampleOf 5 .criticalPressure])).map
        (fun t => (t.timestampNs, t.previousClass, t.newClass)) =
      [(4, none, .desktop), (5, some .desktop, .criticalPressure)] ∧
    AllPrefixed (Explained 2) (transcript 2 [sampleOf 1 .desktop, sampleOf 2 .idle,
      sampleOf 3 .desktop, sampleOf 4 .desktop, sampleOf 5 .criticalPressure]) :=
  ⟨by decide, (stabilizer_emits_confirmed_classes (n := 2) (by decide) _).2.1⟩

end Nemor.Classifier
