import Nemor.Policy.RecoveryPath

/-!
# Policy engine: escalation out of the calm states

In `normal` and `watch` a severe target becomes the candidate, and the candidate's timer
starts anew whenever the target changes. So severe readings alone do not escalate: one and
the same target has to be observed for the hold, or an input has to be an immediate
emergency. `PatientInv` is the invariant behind this: a calm engine has not yet held the
target it has been observing.
-/

namespace Nemor.Policy

open MachineNumbers Log

/-! ## §1 Calm states -/

/-- `normal` and `watch`. -/
def PressureState.isCalm : PressureState → Bool
  | .normal | .watch => true
  | _ => false

/-- The input asks for `pressure` or worse. -/
def severe (input : PolicyInput) (config : PressureConfig) : Bool :=
  (observedTarget input config).isPressure

/-- A severe target rests on a signal that was measured. -/
theorem sufficient_of_severe {input : PolicyInput} {config : PressureConfig}
    (h : severe input config = true) : sufficient input = true := by
  by_contra hmissing
  simp only [sufficient, Bool.or_eq_true, not_or, Bool.not_eq_true, Option.isSome_eq_false_iff,
    Option.isNone_iff_eq_none] at hmissing
  obtain ⟨⟨⟨⟨hsome, hfull⟩, hfaults⟩, hin⟩, hout⟩ := hmissing
  -- no signal, no corroboration: the target is `watch` or `normal`
  have hcalm : observedTarget input config = .watch ∨ observedTarget input config = .normal := by
    simp only [observedTarget, corroborating, hsome, hfull, hfaults, hin, hout, atLeast,
      Option.any_none]
    simp only [List.filter_cons, List.filter_nil]
    split_ifs <;> simp_all
  unfold severe at h
  rcases hcalm with hcalm | hcalm <;> rw [hcalm] at h <;> cases h

theorem recoveryTarget_of_isCalm {s o : PressureState} (hs : s.isCalm = true) :
    recoveryTarget s o = o := by
  cases s <;> first | rfl | cases hs

theorem recoveryTarget_severe {s o : PressureState} (ho : o.isPressure = true) :
    (recoveryTarget s o).isCalm = false := by
  cases s <;> cases o <;> revert ho <;> decide

theorem holdSeconds_of_isCalm {config : PressureConfig} {s d : PressureState}
    (hs : s.isCalm = true) (hd : d.isPressure = true) :
    holdSeconds config s d = config.stateHoldSeconds := by
  cases s <;> cases d <;> simp_all [PressureState.isCalm, PressureState.isPressure, holdSeconds,
    isRecovery]

theorem ne_of_isPressure {s d : PressureState} (hs : s.isCalm = true) (hd : d.isPressure = true) :
    d ≠ s := by
  cases s <;> cases d <;> simp_all [PressureState.isCalm, PressureState.isPressure]

/-- Out of a state that is not calm a severe input leads to no calm one. -/
theorem not_calm_of_severe {config : PressureConfig} {x : Evaluation} (hacc : Accepted config x)
    (hsevere : severe x.input config = true) (hbefore : x.before.current.isCalm = false) :
    x.after.current.isCalm = false := by
  rcases hacc.current with ⟨hsame, -⟩ | ⟨-, -, hmove, -⟩
  · rw [hsame]
    exact hbefore
  · rw [hmove]
    exact recoveryTarget_severe hsevere

/-! ## §2 A calm engine is still waiting -/

/-- Every evaluation of the stretch observes the target `d`. -/
def Observes (config : PressureConfig) (d : PressureState) (stretch : List Evaluation) : Prop :=
  ∀ x ∈ stretch, observedTarget x.input config = d

/-- The timestamps never decrease. -/
def Chronological (log : List Evaluation) : Prop :=
  (log.map Evaluation.time).Pairwise (· ≤ ·)

theorem Chronological.of_append {log rest : List Evaluation}
    (h : Chronological (log ++ rest)) : Chronological log := by
  unfold Chronological at h ⊢
  rw [List.map_append] at h
  exact (List.pairwise_append.1 h).1

theorem Chronological.le_last {log : List Evaluation} {x y : Evaluation}
    (h : Chronological (log ++ [x])) (hy : y ∈ log) : y.time ≤ x.time := by
  unfold Chronological at h
  rw [List.map_append] at h
  exact (List.pairwise_append.1 h).2.2 _ (List.mem_map_of_mem hy) _ (by simp)

/-- While the engine is calm, a severe target observed since `first` has been the candidate
    since `first` at the latest, and its hold is not over. -/
def PatientInv (config : PressureConfig) (s : PersistentState) (log : List Evaluation) : Prop :=
  s.current.isCalm = true → Chronological log →
    ∀ pre first rest last d, log = pre ++ first :: rest → (first :: rest).getLast? = some last →
      d.isPressure = true → Observes config d (first :: rest) →
        ∃ since, s.candidate = some d ∧ s.candidateSinceNs = some since ∧
          since.toInt ≤ first.time ∧
          last.time < since.toInt + cappedNs config.stateHoldSeconds

/-- The start of a candidate is the time of an evaluation of the log. -/
theorem CandidateInv.since_mem {config : PressureConfig} {s : PersistentState}
    {log : List Evaluation} {d : PressureState} {since : Int64} (hinv : CandidateInv config s log)
    (hd : s.candidate = some d) (hsince : s.candidateSinceNs = some since) :
    ∃ y ∈ log, y.time = since.toInt := by
  obtain ⟨since', hsince', -, block, first, hsuffix, hhead, htime, -⟩ := hinv.block d hd
  rw [hsince] at hsince'
  cases hsince'
  exact ⟨first, hsuffix.subset (List.mem_of_mem_head? hhead), htime⟩

/-- What a severe evaluation that leaves the engine calm has done: it holds the target. -/
theorem holds_of_calm {config : PressureConfig} {x : Evaluation} {observe : Bool}
    (hev : PolicyEngine.evaluate ⟨config, x.before⟩ x.input observe =
      .ok (x.decision, ⟨config, x.after⟩))
    (hsevere : severe x.input config = true) (hcalm : x.after.current.isCalm = true) :
    x.before.current.isCalm = true ∧
      x.after.candidate = some (observedTarget x.input config) ∧
      x.after.candidateSinceNs =
        some (candidateSince x.before x.input (observedTarget x.input config)) ∧
      ¬ (immediate x.input config (observedTarget x.input config) = true ∨
        secondsNs config.stateHoldSeconds ≤ saturatingSub x.input.timestampNs
          (candidateSince x.before x.input (observedTarget x.input config))) := by
  have hacc := accepted_of_evaluate hev
  have hbefore : x.before.current.isCalm = true := by
    -- severe evaluations do not lead back to calm
    by_contra hnot
    have hafter := not_calm_of_severe hacc hsevere (by simpa using hnot)
    rw [hcalm] at hafter
    cases hafter
  have hdesired : desired x.before x.input config = observedTarget x.input config :=
    recoveryTarget_of_isCalm hbefore
  have hne : desired x.before x.input config ≠ x.before.current := by
    rw [hdesired]
    exact ne_of_isPressure hbefore hsevere
  have hsuff := sufficient_of_severe hsevere
  have hwait : ¬ (immediate x.input config (observedTarget x.input config) = true ∨
      secondsNs config.stateHoldSeconds ≤ saturatingSub x.input.timestampNs
        (candidateSince x.before x.input (observedTarget x.input config))) := by
    -- a hold that is over commits the target, which is not calm
    intro hheld
    have hmoved : x.after = (transition x.before x.input config).state := by
      have hafter := (PolicyEngine.evaluate_inv hev).2.2.1
      simpa using hafter
    have hcommit := transition_commits hsuff hne (by
      rw [hdesired, holdSeconds_of_isCalm hbefore hsevere]
      exact hheld)
    rw [← hmoved, hdesired] at hcommit
    rw [hcommit] at hcalm
    exact ne_of_isPressure hcalm hsevere rfl
  refine ⟨hbefore, ?_, ?_, hwait⟩
  -- of the three moves only `hold` is left for a severe input in a calm state
  all_goals
    have hmoves := hacc.moves
    obtain ⟨before, input, decision, after⟩ := x
    dsimp only at hmoves hcalm hdesired hne hsuff ⊢
    generalize decision.stateChanged = changed at hmoves
    cases hmoves with
    | settle reason hstay =>
      rcases hstay with hstay | hstay
      · rw [hsuff] at hstay
        cases hstay
      · exact absurd hstay hne
    | commit reason hsuff' hne' hheld =>
      simp only [PersistentState.committed] at hcalm
      rw [hdesired] at hcalm
      exact absurd rfl (ne_of_isPressure hcalm hsevere)
    | hold hsuff' hne' => simp [PersistentState.holding, hdesired]

theorem patientInv_step {config : PressureConfig} {x : Evaluation} {log : List Evaluation}
    {observe : Bool}
    (hev : PolicyEngine.evaluate ⟨config, x.before⟩ x.input observe =
      .ok (x.decision, ⟨config, x.after⟩))
    (hcand : CandidateInv config x.before log) (hinv : PatientInv config x.before log) :
    PatientInv config x.after (log ++ [x]) := by
  intro hcalm hchron pre first rest last d hlog hlast hd hobs
  -- the stretch ends with this evaluation
  have hx : last = x := by
    have hend : (pre ++ first :: rest).getLast? = some last := by
      rw [List.getLast?_append, hlast]
      rfl
    rw [← hlog] at hend
    simpa using hend.symm
  subst hx
  have hmem : last ∈ first :: rest := List.mem_of_getLast? hlast
  have htarget : observedTarget last.input config = d := hobs last hmem
  have hsevere : severe last.input config = true := by
    unfold severe
    rw [htarget]
    exact hd
  obtain ⟨hbefore, hcandidate, hsince, hwait⟩ := holds_of_calm hev hsevere hcalm
  rw [htarget] at hcandidate hsince hwait
  have hnow : 0 ≤ last.time := (accepted_of_evaluate hev).nonneg
  -- the timer started at the head of the stretch or before it
  have hstart : 0 ≤ (candidateSince last.before last.input d).toInt ∧
      (candidateSince last.before last.input d).toInt ≤ first.time := by
    rcases List.eq_nil_or_concat rest with rfl | ⟨rest', y, rfl⟩
    · obtain rfl : first = last := by simpa using hlast
      unfold candidateSince
      split
      · next hsame =>
        obtain ⟨since, hs, -, -⟩ := hcand.block d hsame
        obtain ⟨y, hy, htime⟩ := hcand.since_mem hsame hs
        rw [hs, Option.getD_some, ← htime]
        exact ⟨hcand.nonneg y hy, hchron.le_last hy⟩
      · exact ⟨hnow, le_refl _⟩
    · have hsplit : log ++ [last] = (pre ++ first :: rest') ++ [y] := by simpa using hlog
      obtain ⟨hlog', -⟩ := List.append_inj' hsplit rfl
      obtain ⟨prev, hprev⟩ : ∃ prev, (first :: rest').getLast? = some prev :=
        ⟨_, List.getLast?_eq_getLast_of_ne_nil (by simp)⟩
      obtain ⟨since, hc, hs, hle, -⟩ := hinv hbefore hchron.of_append pre first rest' prev d hlog'
        hprev hd (fun z hz => hobs z (by
          rcases List.mem_cons.1 hz with rfl | hz
          · simp
          · simp [hz]))
      obtain ⟨z, hz, htime⟩ := hcand.since_mem hc hs
      unfold candidateSince
      rw [if_pos hc, hs, Option.getD_some]
      exact ⟨htime ▸ hcand.nonneg z hz, hle⟩
  refine ⟨_, hcandidate, hsince, hstart.2, ?_⟩
  have hnot : ¬ secondsNs config.stateHoldSeconds ≤
      saturatingSub last.input.timestampNs (candidateSince last.before last.input d) :=
    fun hheld => hwait (.inr hheld)
  rw [Int64.le_iff_toInt_le, toInt_saturatingSub hnow hstart.1, toInt_secondsNs] at hnot
  unfold cappedNs Evaluation.time
  omega

/-! ## §3 Escalation -/

/-- The span holds a stretch of consecutive evaluations that observe one and the same target
    for `state_hold_seconds`. -/
def Sustained (config : PressureConfig) (span : List Evaluation) : Prop :=
  ∃ pre first rest last post d, span = pre ++ (first :: rest) ++ post ∧
    (first :: rest).getLast? = some last ∧ Observes config d (first :: rest) ∧
    first.time + ((config.stateHoldSeconds.toNat * 1000000000 : ℕ) : ℤ) ≤ last.time

/-- The span holds such a stretch or an immediate emergency. -/
def Decisive (config : PressureConfig) (span : List Evaluation) : Prop :=
  Sustained config span ∨
    ∃ x ∈ span, immediate x.input config (observedTarget x.input config) = true

/-- Once a severe span has been decisive, the state is not calm. -/
def Escalated (config : PressureConfig) (s : PersistentState) (log : List Evaluation) : Prop :=
  Chronological log → ∀ pre span, log = pre ++ span →
    (∀ x ∈ span, severe x.input config = true) → Decisive config span →
      s.current.isCalm = false

/-- A stretch that ends with the latest evaluation leaves no calm state. -/
theorem PatientInv.sustained {config : PressureConfig} {s : PersistentState}
    {log pre rest : List Evaluation} {first last : Evaluation} {d : PressureState}
    (hinv : PatientInv config s log) (hchron : Chronological log)
    (hlog : log = pre ++ first :: rest) (hlast : (first :: rest).getLast? = some last)
    (hd : d.isPressure = true) (hobs : Observes config d (first :: rest))
    (hspan : first.time + ((config.stateHoldSeconds.toNat * 1000000000 : ℕ) : ℤ) ≤ last.time) :
    s.current.isCalm = false := by
  by_contra hcalm
  obtain ⟨since, -, -, hstart, hwait⟩ :=
    hinv (by simpa using hcalm) hchron pre first rest last d hlog hlast hd hobs
  unfold cappedNs at hwait
  omega

theorem escalated_step {config : PressureConfig} {x : Evaluation} {log : List Evaluation}
    {observe : Bool}
    (hev : PolicyEngine.evaluate ⟨config, x.before⟩ x.input observe =
      .ok (x.decision, ⟨config, x.after⟩))
    (hpatient : PatientInv config x.after (log ++ [x]))
    (hinv : Escalated config x.before log) : Escalated config x.after (log ++ [x]) := by
  intro hchron pre span hlog hsevere hdecisive
  rcases List.eq_nil_or_concat span with rfl | ⟨span', y, rfl⟩
  · rcases hdecisive with ⟨pre', first, rest, last, post, d, hempty, -⟩ | ⟨y, hy, -⟩
    · simp at hempty
    · simp at hy
  · have hsplit : log ++ [x] = (pre ++ span') ++ [y] := by simpa using hlog
    obtain ⟨hlog', hy⟩ := List.append_inj' hsplit rfl
    cases hy
    have hx : severe x.input config = true := hsevere x (by simp)
    -- what the earlier part of the span has decided stays decided
    have hkeep : Decisive config span' → x.after.current.isCalm = false := by
      intro hdec
      apply not_calm_of_severe (accepted_of_evaluate hev) hx
      exact hinv hchron.of_append pre span' hlog' (fun z hz => hsevere z (by simp [hz])) hdec
    rcases hdecisive with ⟨pre', first, rest, last, post, d, hspan, hlast, hobs, htime⟩ |
      ⟨y, hy, himm⟩
    · rcases List.eq_nil_or_concat post with rfl | ⟨post', z, rfl⟩
      · -- the stretch ends with this evaluation
        have hmem : first ∈ span' ++ [x] := by
          have hspan' : span' ++ [x] = pre' ++ (first :: rest) := by simpa using hspan
          rw [hspan']
          simp
        have hd : d.isPressure = true := by
          have hfirst := hsevere first (by simpa using hmem)
          unfold severe at hfirst
          rw [hobs first (by simp)] at hfirst
          exact hfirst
        apply hpatient.sustained hchron _ hlast hd hobs htime
        · exact pre ++ pre'
        · rw [hlog, hspan]
          simp
      · have hspan' : span' ++ [x] = (pre' ++ (first :: rest) ++ post') ++ [z] := by
          simpa using hspan
        obtain ⟨hinner, -⟩ := List.append_inj' hspan' rfl
        exact hkeep (.inl ⟨pre', first, rest, last, post', d, hinner, hlast, hobs, htime⟩)
    · have hcases : y ∈ span' ∨ y = x := by simpa using hy
      rcases hcases with hy | rfl
      · exact hkeep (.inr ⟨y, hy, himm⟩)
      · -- an immediate emergency needs no hold
        by_contra hcalm
        exact (holds_of_calm hev hx (by simpa using hcalm)).2.2.2 (.inl himm)

/-- Every state of a run is `Escalated` for the log that leads to it. The three invariants go
    through one induction: patience needs the candidate's, escalation needs patience. -/
theorem Run.escalated {config : PressureConfig} {engine : PolicyEngine} {log : List Evaluation}
    (h : Run config engine log) :
    AllPrefixed (fun p x => Escalated config x.after (p ++ [x])) log := by
  refine (h.induct (P := fun s log => CandidateInv config s log ∧ PatientInv config s log ∧
    Escalated config s log ∧ AllPrefixed (fun p x => Escalated config x.after (p ++ [x])) log)
    ?_ ?_).2.2.2
  · -- the empty log has no span and no decisive evaluation
    intro t
    refine ⟨⟨by simp, fun d hd => by cases hd⟩, ?_, ?_, AllPrefixed.nil _⟩
    · intro _ _ pre first rest last d hempty
      simp at hempty
    · intro _ pre span hempty _ hdec
      obtain ⟨-, rfl⟩ : pre = [] ∧ span = [] := by simpa using hempty.symm
      rcases hdec with ⟨pre', first, rest, last, post, d, hnil, -⟩ | ⟨y, hy, -⟩
      · simp at hnil
      · simp at hy
  · intro x log observe hev hP
    obtain ⟨hcand, hpatient, hesc, hpre⟩ := hP
    have hpatient' := patientInv_step hev hcand hpatient
    have hesc' := escalated_step hev hpatient' hesc
    exact ⟨candidateInv_step (accepted_of_evaluate hev) hcand, hpatient', hesc',
      hpre.snoc x hesc'⟩

/-- **Escalation.** In every run with nondecreasing timestamps, a span of evaluations that
    all observe `pressure` or worse, and that observe one target for the hold or an immediate
    emergency, leaves neither `normal` nor `watch` at its end. -/
theorem decisive_span_escalates {config : PressureConfig} {engine : PolicyEngine}
    {log pre span post : List Evaluation} {last : Evaluation} (h : Run config engine log)
    (hchron : Chronological log) (hlog : log = pre ++ (span ++ [last]) ++ post)
    (hsevere : ∀ x ∈ span ++ [last], severe x.input config = true)
    (hdecisive : Decisive config (span ++ [last])) :
    last.after.current ≠ .normal ∧ last.after.current ≠ .watch := by
  have hprefix : log = (pre ++ span) ++ last :: post := by simpa using hlog
  have hescalated := h.escalated (pre ++ span) last post hprefix
  have hcalm : last.after.current.isCalm = false := by
    apply hescalated _ pre (span ++ [last]) (by simp) hsevere hdecisive
    have hsplit : log = (pre ++ span ++ [last]) ++ post := by simpa using hlog
    rw [hsplit] at hchron
    exact hchron.of_append
  constructor
  · intro hnormal
    rw [hnormal] at hcalm
    cases hcalm
  · intro hwatch
    rw [hwatch] at hcalm
    cases hcalm

/-- Two readings of the same target, ten seconds apart. -/
theorem decisive_span_escalates_shipped :
    ∃ x y, (freshLog 10 [inputAt 0 11 11 0, inputAt 10000000000 11 11 0]).2 = [x, y] ∧
      x.before.current = .watch ∧ y.after.current ≠ .normal ∧ y.after.current ≠ .watch := by
  obtain ⟨x, y, hlog, hx, hy, hcalm, htx, hty⟩ : ∃ x y : Evaluation,
      (freshLog 10 [inputAt 0 11 11 0, inputAt 10000000000 11 11 0]).2 = [x, y] ∧
      x.time = 0 ∧ y.time = 10000000000 ∧ x.before.current = .watch ∧
      observedTarget x.input (shippedPressure 10) = .pressure ∧
      observedTarget y.input (shippedPressure 10) = .pressure :=
    ⟨_, _, rfl, by decide, by decide, by decide, by decide, by decide⟩
  have hrun := run_freshLog 10 [inputAt 0 11 11 0, inputAt 10000000000 11 11 0]
  rw [hlog] at hrun
  refine ⟨x, y, hlog, hcalm, decisive_span_escalates hrun ?_
    (show [x, y] = [] ++ ([x] ++ [y]) ++ [] from rfl) ?_
    (.inl ⟨[], x, [y], y, [], .pressure, rfl, rfl, ?_, ?_⟩)⟩
  · simp [Chronological, hx, hy]
  · simp [severe, htx, hty, PressureState.isPressure]
  · simp [Observes, htx, hty]
  · have hhold : (shippedPressure 10).stateHoldSeconds.toNat = 10 := by decide
    rw [hhold, hx, hy]
    decide

/-- Readings at zero, five and ten seconds that ask for `pressure`, `critical` and `pressure`:
    all are severe and they span the hold, and the engine is still in `watch`. -/
theorem oscillation_stays_calm :
    ∃ engine log x y z, Run (shippedPressure 10) engine log ∧ log = [x, y, z] ∧
      Chronological log ∧ x.before.current = .watch ∧
      (∀ w ∈ log, severe w.input (shippedPressure 10) = true) ∧
      x.time + (((shippedPressure 10).stateHoldSeconds.toNat * 1000000000 : ℕ) : ℤ) ≤ z.time ∧
      z.after.current = .watch := by
  refine ⟨_, _, _, _, _, run_freshLog 10
    [inputAt 0 11 11 0, inputAt 5000000000 6 11 3, inputAt 10000000000 11 11 0], rfl, ?_, ?_, ?_,
    ?_, ?_⟩
  · show List.Pairwise _ _
    decide
  · decide
  · decide
  · decide
  · decide

end Nemor.Policy
