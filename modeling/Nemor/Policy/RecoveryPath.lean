import Nemor.Policy.Hysteresis

/-!
# Policy engine: the recovery path

From `pressure`, `critical` or `emergency` the machine only moves up or to `stabilizing`,
and from `stabilizing` it moves to `normal` or back up. Over runs this gives the recovery
path: `normal` is reached again only through `stabilizing`, after two full recovery holds,
and `watch` only after `normal`.
-/

namespace Nemor.Policy

open MachineNumbers Log

/-! ## §1 One step -/

theorem recoveryTarget_of_isPressure {s o : PressureState} (hs : s.isPressure = true)
    (ho : o ≠ .stabilizing) :
    recoveryTarget s o = .stabilizing ∨
      ((recoveryTarget s o).isPressure = true ∧ ¬ recoveryTarget s o < s) := by
  cases s <;> cases o <;> revert hs ho <;> decide

theorem recoveryTarget_eq_watch {s o : PressureState} (h : recoveryTarget s o = .watch) :
    s = .normal ∨ s = .watch := by
  cases s <;> cases o <;> revert h <;> decide

theorem recoveryTarget_eq_normal {s o : PressureState} (h : recoveryTarget s o = .normal) :
    s = .normal ∨ s = .watch ∨ s = .stabilizing := by
  cases s <;> cases o <;> revert h <;> decide

theorem recoveryTarget_eq_stabilizing {s o : PressureState} (ho : o ≠ .stabilizing)
    (h : recoveryTarget s o = .stabilizing) : s = .stabilizing ∨ s.isPressure = true := by
  cases s <;> cases o <;> revert h ho <;> decide

/-- An accepted evaluation keeps the state, with its entry time, or moves to what it wants. -/
theorem Accepted.current {config : PressureConfig} {x : Evaluation} (hacc : Accepted config x) :
    (x.after.current = x.before.current ∧ x.after.enteredAtNs = x.before.enteredAtNs) ∨
      (x.decision.stateChanged = true ∧ x.after.current ≠ x.before.current ∧
        x.after.current = recoveryTarget x.before.current (observedTarget x.input config) ∧
        x.after.enteredAtNs = x.input.timestampNs) := by
  have hmoves := hacc.moves
  obtain ⟨before, input, decision, after⟩ := x
  dsimp only at hmoves ⊢
  generalize decision.stateChanged = changed at hmoves ⊢
  cases hmoves with
  | settle reason hstay => exact .inl ⟨rfl, rfl⟩
  | commit reason hsuff hne hheld => exact .inr ⟨rfl, hne, rfl, rfl⟩
  | hold hsuff hne => exact .inl ⟨rfl, rfl⟩

/-- The evaluation moves the machine into `s`. -/
def Evaluation.enters (x : Evaluation) (s : PressureState) : Prop :=
  x.after.current = s ∧ x.before.current ≠ s

/-- The evaluation leaves a pressure state for `normal`, for `watch` or for a less severe
    pressure state. -/
def Evaluation.shortcuts (x : Evaluation) : Prop :=
  x.before.current.isPressure = true ∧
    (x.after.current = .normal ∨ x.after.current = .watch ∨
      (x.after.current.isPressure = true ∧ x.after.current < x.before.current))

theorem Accepted.not_shortcuts {config : PressureConfig} {x : Evaluation}
    (hacc : Accepted config x) : ¬ x.shortcuts := by
  rintro ⟨hp, hbad⟩
  rcases hacc.current with ⟨hsame, -⟩ | ⟨-, -, hmove, -⟩
  · rw [hsame] at hbad
    revert hp hbad
    cases x.before.current <;> decide
  · rcases recoveryTarget_of_isPressure hp (observedTarget_ne_stabilizing x.input config) with
      hstab | ⟨hpress, hge⟩
    · rw [hmove, hstab] at hbad
      simp [PressureState.isPressure] at hbad
    · rw [hmove] at hbad
      rcases hbad with hbad | hbad | ⟨-, hbad⟩
      · rw [hbad] at hpress
        cases hpress
      · rw [hbad] at hpress
        cases hpress
      · exact hge hbad

/-! ## §2 Pressure since `normal` -/

/-- A pressure state was reached in the log and `normal` has not been entered since. -/
def PressureSinceNormal : List Evaluation → Prop :=
  Since (fun x => x.after.current.isPressure = true) (fun x => x.enters .normal)

/-- In `normal` and in `watch` no pressure state is left to recover from. -/
def CalmInv (s : PersistentState) (log : List Evaluation) : Prop :=
  s.current = .normal ∨ s.current = .watch → ¬ PressureSinceNormal log

theorem calmInv_step {config : PressureConfig} {x : Evaluation} {log : List Evaluation}
    (hacc : Accepted config x) (hinv : CalmInv x.before log) : CalmInv x.after (log ++ [x]) := by
  intro hcalm hsince
  rcases since_snoc.1 hsince with hpress | ⟨hbefore, hnotNormal⟩
  · rcases hcalm with h | h <;> rw [h] at hpress <;> cases hpress
  · -- no pressure state is pending before this evaluation, unless it was in one
    have hbefore' : ¬ (x.before.current = .normal ∨ x.before.current = .watch) :=
      fun h => hinv h hbefore
    rcases hcalm with h | h
    · exact hnotNormal ⟨h, fun hn => hbefore' (.inl hn)⟩
    · rcases hacc.current with ⟨hsame, -⟩ | ⟨-, -, hmove, -⟩
      · exact hbefore' (.inr (hsame ▸ h))
      · rw [h] at hmove
        exact hbefore' (recoveryTarget_eq_watch hmove.symm)

/-! ## §3 The recovery that leads to `stabilizing` -/

/-- The log ends with an uninterrupted recovery from a pressure state: a block of sufficient
    evaluations that all asked to leave it for `stabilizing`, and after it only evaluations
    made in `stabilizing`. The first of them was made at time `start`. -/
def RecoveringSince (config : PressureConfig) (start : ℤ) (log : List Evaluation) : Prop :=
  ∃ p block first rest, p.isPressure = true ∧ block ++ rest <:+ log ∧
    block.head? = some first ∧ first.time = start ∧
    Wanted config p .stabilizing block ∧ ∀ x ∈ rest, x.before.current = .stabilizing

/-- `stabilizing` is entered after one recovery hold and remembered by its entry time. -/
def StabilizingInv (config : PressureConfig) (s : PersistentState) (log : List Evaluation) : Prop :=
  s.current = .stabilizing → ∃ start, RecoveringSince config start log ∧
    start + cappedNs config.recoveryHoldSeconds ≤ s.enteredAtNs.toInt

theorem RecoveringSince.snoc {config : PressureConfig} {start : ℤ} {log : List Evaluation}
    {x : Evaluation} (h : RecoveringSince config start log)
    (hx : x.before.current = .stabilizing) : RecoveringSince config start (log ++ [x]) := by
  obtain ⟨p, block, first, rest, hp, ⟨pre, rfl⟩, hhead, htime, hwanted, hrest⟩ := h
  refine ⟨p, block, first, rest ++ [x], hp, ⟨pre, by simp⟩, hhead, htime, hwanted, ?_⟩
  intro y hy
  rcases List.mem_append.1 hy with hy | hy
  · exact hrest y hy
  · rw [List.mem_singleton.1 hy]
    exact hx

theorem stabilizingInv_step {config : PressureConfig} {x : Evaluation} {log : List Evaluation}
    (hacc : Accepted config x) (hcand : CandidateInv config x.before log)
    (hinv : StabilizingInv config x.before log) : StabilizingInv config x.after (log ++ [x]) := by
  intro hstab
  rcases hacc.current with ⟨hsame, hentered⟩ | ⟨hchanged, hne, hmove, hentered⟩
  · -- still stabilizing
    have hx : x.before.current = .stabilizing := by rw [← hsame, hstab]
    obtain ⟨start, hrec, hstart⟩ := hinv hx
    exact ⟨start, hrec.snoc hx, by rw [hentered]; exact hstart⟩
  · -- this evaluation commits `stabilizing`, so its block starts the recovery
    have hp : x.before.current.isPressure = true := by
      rw [hstab] at hmove hne
      rcases recoveryTarget_eq_stabilizing (observedTarget_ne_stabilizing x.input config)
        hmove.symm with h | h
      · exact absurd h.symm hne
      · exact h
    rcases commit_heldFor hacc hcand hchanged with ⟨hemergency, -⟩ |
      ⟨block, first, hsuffix, hhead, hwanted, hspan⟩
    · -- only an emergency is immediate
      rw [hstab] at hemergency
      cases hemergency
    · rw [hstab] at hwanted hspan
      refine ⟨first.time, ⟨_, block, first, [], hp, by simpa using hsuffix, hhead, rfl, hwanted,
        by simp⟩, ?_⟩
      rw [hentered]
      exact hspan

/-! ## §4 The recovery path -/

/-- What a run remembers about its recoveries. -/
structure RecoveryInv (config : PressureConfig) (s : PersistentState) (log : List Evaluation) :
    Prop where
  candidate : CandidateInv config s log
  calm : CalmInv s log
  stabilizing : StabilizingInv config s log

theorem recoveryInv_new (config : PressureConfig) (t : Int64) :
    RecoveryInv config (.conservative t) [] where
  candidate := ⟨by simp, fun d hd => by cases hd⟩
  calm := fun _ => not_since_nil _ _
  stabilizing := fun hd => by cases hd

theorem recoveryInv_step {config : PressureConfig} {x : Evaluation} {log : List Evaluation}
    (hacc : Accepted config x) (hinv : RecoveryInv config x.before log) :
    RecoveryInv config x.after (log ++ [x]) where
  candidate := candidateInv_step hacc hinv.candidate
  calm := calmInv_step hacc hinv.calm
  stabilizing := stabilizingInv_step hacc hinv.candidate hinv.stabilizing

/-- `normal` is entered from `stabilizing`, two recovery holds after the recovery began. -/
def EntersNormalRecovered (config : PressureConfig) (pre : List Evaluation) (x : Evaluation) :
    Prop :=
  x.enters .normal → PressureSinceNormal pre →
    x.before.current = .stabilizing ∧
    ∃ start, RecoveringSince config start (pre ++ [x]) ∧
      start + 2 * ((config.recoveryHoldSeconds.toNat * 1000000000 : ℕ) : ℤ) ≤ x.time

theorem entersNormalRecovered_step {config : PressureConfig} {x : Evaluation}
    {log : List Evaluation} (hacc : Accepted config x) (hinv : RecoveryInv config x.before log) :
    EntersNormalRecovered config log x := by
  rintro ⟨hnormal, hne⟩ hsince
  rcases hacc.current with ⟨hsame, -⟩ | ⟨hchanged, -, hmove, -⟩
  · exact absurd (hsame ▸ hnormal) hne
  · have hstab : x.before.current = .stabilizing := by
      rw [hnormal] at hmove
      rcases recoveryTarget_eq_normal hmove.symm with h | h | h
      · exact absurd h hne
      · exact absurd hsince (hinv.calm (.inr h))
      · exact h
    refine ⟨hstab, ?_⟩
    obtain ⟨start, hrec, hfirst⟩ := hinv.stabilizing hstab
    refine ⟨start, hrec.snoc hstab, ?_⟩
    rcases commit_wantedSince hacc hinv.candidate hchanged with ⟨hemergency, -⟩ |
      ⟨since, hent, -, hsecond⟩
    · rw [hnormal] at hemergency
      cases hemergency
    · rw [hstab, hnormal] at hsecond
      -- a hold that was capped could not fit twice between two timestamps
      have hstart : 0 ≤ start := by
        obtain ⟨p, block, first, rest, -, hsuffix, hhead, rfl, -, -⟩ := hrec
        have hmem : first ∈ block ++ rest :=
          List.mem_append_left rest (List.mem_of_mem_head? hhead)
        exact hinv.candidate.nonneg first (hsuffix.subset hmem)
      have hend : x.time < 2 ^ 63 := Int64.toInt_lt x.input.timestampNs
      have hhold : holdSeconds config .stabilizing .normal = config.recoveryHoldSeconds := rfl
      rw [hhold] at hsecond
      unfold cappedNs at hfirst hsecond
      omega

/-- **The recovery path.** In every run of a fresh engine no evaluation takes a shortcut out
    of a pressure state; `normal` is entered after pressure only from `stabilizing`, at least
    twice the recovery hold after the first observation of the uninterrupted recovery; and
    `watch` is entered after pressure only after `normal` has been. -/
theorem recovery_path {config : PressureConfig} {engine : PolicyEngine} {log : List Evaluation}
    (h : Run config engine log) :
    (∀ x ∈ log, ¬ x.shortcuts) ∧
    AllPrefixed (EntersNormalRecovered config) log ∧
    AllPrefixed (fun pre x => x.enters .watch → ¬ PressureSinceNormal pre) log := by
  refine (h.invariant (P := fun s log => RecoveryInv config s log ∧
    (∀ x ∈ log, ¬ x.shortcuts) ∧ AllPrefixed (EntersNormalRecovered config) log ∧
    AllPrefixed (fun pre x => x.enters .watch → ¬ PressureSinceNormal pre) log) ?_ ?_).2
  · exact fun t => ⟨recoveryInv_new config t, by simp, AllPrefixed.nil _, AllPrefixed.nil _⟩
  · rintro x log hacc ⟨hinv, hshort, hnormal, hwatch⟩
    refine ⟨recoveryInv_step hacc hinv, ?_,
      hnormal.snoc x (entersNormalRecovered_step hacc hinv), hwatch.snoc x ?_⟩
    · intro y hy
      rcases List.mem_append.1 hy with hy | hy
      · exact hshort y hy
      · rw [List.mem_singleton.1 hy]
        exact hacc.not_shortcuts
    · -- `watch` is wanted only from `normal` and `watch`, which no pressure precedes
      rintro ⟨hw, hne⟩
      rcases hacc.current with ⟨hsame, -⟩ | ⟨-, -, hmove, -⟩
      · exact absurd (hsame ▸ hw) hne
      · rw [hw] at hmove
        exact hinv.calm (recoveryTarget_eq_watch hmove.symm)

/-- The shipped holds: `pressure` at 10 s, `stabilizing` at 50 s, `normal` at 90 s, after a
    recovery that began at 20 s. -/
theorem recovery_path_shipped :
    ((freshLog 10 [inputAt 0 11 11 0, inputAt 10000000000 11 11 0,
        inputAt 20000000000 80 0 0, inputAt 50000000000 80 0 0,
        inputAt 60000000000 80 0 0, inputAt 90000000000 80 0 0]).2.map
          fun x => x.after.current) =
      [.watch, .pressure, .pressure, .stabilizing, .stabilizing, .normal] ∧
    AllPrefixed (EntersNormalRecovered (shippedPressure 10))
      (freshLog 10 [inputAt 0 11 11 0, inputAt 10000000000 11 11 0,
        inputAt 20000000000 80 0 0, inputAt 50000000000 80 0 0,
        inputAt 60000000000 80 0 0, inputAt 90000000000 80 0 0]).2 :=
  ⟨by decide, (recovery_path (run_freshLog _ _)).2.1⟩

end Nemor.Policy
