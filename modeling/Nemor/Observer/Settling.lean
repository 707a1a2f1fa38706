import Mathlib.Data.List.Forall2
import Nemor.Lib.Binary64
import Nemor.Observer.AllOrNothing

/-!
# Settling on the identity of a service

A service that has just been started does not run its binary yet: for a moment its main process is
the executor of the service manager, as root, and then it becomes the binary under a user of its
own. The start reads the state of the service again and again until that has happened. In between
the service must remain the same one, and the expected binary must never show up as root.

- §1: what is read of a service
- §2: the loop
- §3: which reads settle
- §4: what the report of a settled start says
-/

namespace Nemor.Observer.Settling

open UnixPath Fallible MachineNumbers

/-! ## §1 What is read of a service -/

/-- A time span in seconds and nanoseconds. -/
structure Duration where
  secs : UInt64
  nanos : UInt32
  nanos_lt : nanos.toNat < 1000000000

namespace Duration

/-- `as_nanos`. -/
def asNanos (d : Duration) : ℕ := d.secs.toNat * 1000000000 + d.nanos.toNat

/-- `as_secs_f64`. -/
def asSecsF64 (d : Duration) : F64 :=
  (F64.ofU64 d.secs).add ((F64.ofU64 d.nanos.toUInt64).div 1000000000)

end Duration

/-- The state of a service, as far as the loop looks at it. -/
structure ObserverServiceState where
  unitName : String
  objectPath : String
  loadState : String
  activeState : String
  subState : String
  mainPid : UInt32
  execMainPid : UInt32
  execMainStatus : Int32
  result : String
  dynamicUser : Bool
  controlGroup : String
  startTicks : UInt64
  effectiveUid : UInt32
  effectiveGid : UInt32
  executablePath : PathBuf
  executableSha256 : String

namespace ObserverServiceState

/-- The service is the one that was started, with the properties of its plan. -/
def verifyStartupContract (s : ObserverServiceState) (plan : ObserverServicePlan)
    (initialPid : UInt32) (initialStartTicks : UInt64)
    (initialObjectPath initialControlGroup : String) : Except String Unit :=
  refuse (s.unitName ≠ plan.unitName ∨ s.loadState ≠ "loaded" ∨ s.activeState ≠ "active" ∨
      s.subState ≠ "running" ∨ s.mainPid = 0 ∨ s.mainPid ≠ initialPid ∨
      s.startTicks ≠ initialStartTicks ∨ s.objectPath ≠ initialObjectPath ∨
      s.controlGroup ≠ initialControlGroup ∨ s.execMainPid ≠ s.mainPid ∨ s.execMainStatus ≠ 0 ∨
      s.result ≠ "success" ∨ s.dynamicUser = false ∨ s.controlGroup.isEmpty = true ∨
      s.controlGroup.toList.head? ≠ some '/' ∨ contains s.controlGroup ".." = true)
    "observer service changed or failed during identity settling"

/-- Root as user and as group: what counts as not having left the executor. -/
def isRoot (s : ObserverServiceState) : Bool := s.effectiveUid == 0 && s.effectiveGid == 0

/-- Neither root as user nor root as group. -/
def nonRoot (s : ObserverServiceState) : Bool := s.effectiveUid != 0 && s.effectiveGid != 0

/-- The service binary of the plan, with the expected content. -/
def runsExpected (s : ObserverServiceState) (plan : ObserverServicePlan) (expectedSha256 : String) :
    Bool :=
  s.executablePath == plan.serviceBinary && s.executableSha256 == expectedSha256

theorem runsExpected_iff {s : ObserverServiceState} {plan : ObserverServicePlan}
    {expectedSha256 : String} :
    s.runsExpected plan expectedSha256 = true ↔
      (s.executablePath == plan.serviceBinary) = true ∧ s.executableSha256 = expectedSha256 := by
  unfold runsExpected
  rw [Bool.and_eq_true, @beq_iff_eq String]

theorem nonRoot_iff {s : ObserverServiceState} :
    s.nonRoot = true ↔ s.effectiveUid ≠ 0 ∧ s.effectiveGid ≠ 0 := by
  unfold nonRoot
  rw [Bool.and_eq_true, bne_iff_ne, bne_iff_ne]

theorem isRoot_iff {s : ObserverServiceState} :
    s.isRoot = true ↔ s.effectiveUid = 0 ∧ s.effectiveGid = 0 := by
  unfold isRoot
  rw [Bool.and_eq_true, beq_iff_eq, beq_iff_eq]

end ObserverServiceState

/-- How the identity of the service has settled. -/
structure ExecIdentitySettlingEvidence where
  status : String
  initialUid : UInt32
  initialGid : UInt32
  finalUid : UInt32
  finalGid : UInt32
  polls : UInt32
  durationSeconds : F64
  preExecRootObserved : Bool
  initialExecutablePath : PathBuf
  initialExecutableSha256 : String
  finalExecutableSha256 : String
  expectedExecutableSha256 : String
  transitionObserved : Bool

/-- A started service and how it came about. -/
structure ObserverServiceStart where
  state : ObserverServiceState
  settling : ExecIdentitySettlingEvidence

/-! ## §2 The loop -/

/-- One call of `read_state`. Its argument asks for the hash of an executable that is not the one of
    the plan. The clock is read at most once before the next call. -/
structure Poll where
  readState : Bool → Except String ObserverServiceState
  elapsed : Duration

/-- `checked_add(1)`. -/
def nextPoll (polls : UInt32) : Except String UInt32 :=
  okOr (if polls.toNat + 1 < 2 ^ 32 then some (polls + 1) else none)
    "observer settling poll count overflow"

section Loop

variable (plan : ObserverServicePlan) (expectedSha256 : String) (timeout : Duration)

/-- What a settled start reports. -/
def settled (initial current : ObserverServiceState) (elapsed : Duration) (polls : UInt32)
    (preExecRootObserved : Bool) : ObserverServiceStart where
  settling :=
    { status := "EXEC_IDENTITY_SETTLED"
      initialUid := initial.effectiveUid
      initialGid := initial.effectiveGid
      finalUid := current.effectiveUid
      finalGid := current.effectiveGid
      polls := polls
      durationSeconds := elapsed.asSecsF64
      preExecRootObserved := preExecRootObserved
      initialExecutablePath := initial.executablePath
      initialExecutableSha256 := initial.executableSha256
      finalExecutableSha256 := current.executableSha256
      expectedExecutableSha256 := expectedSha256
      transitionObserved := decide (polls > 1) }
  state := current

/-- One round: the report of a settled state, or nothing while there is time to read again. -/
def settleRound (initial current : ObserverServiceState) (elapsed : Duration) (polls : UInt32)
    (preExecRootObserved : Bool) : Except String (Option ObserverServiceStart) := do
  current.verifyStartupContract plan initial.mainPid initial.startTicks initial.objectPath
    initial.controlGroup
  let expectedExecutable := current.runsExpected plan expectedSha256
  if expectedExecutable && current.nonRoot then
    return some (settled expectedSha256 initial current elapsed polls preExecRootObserved)
  refuse ((expectedExecutable && !current.nonRoot) = true)
    "observer expected executable appeared with root identity"
  refuse (elapsed.asNanos ≥ timeout.asNanos) "observer EXEC_IDENTITY_SETTLING timed out"
  return none

/-- The loop, from a state that was read and with the reads to come. It returns the reads that it
    has not made. A finite sequence of reads ends with one that fails. -/
def settleLoop (initial current : ObserverServiceState) (elapsed : Duration) (polls : UInt32)
    (preExecRootObserved : Bool) : List Poll → Except String (ObserverServiceStart × List Poll)
  | [] => do
    match ← settleRound plan expectedSha256 timeout initial current elapsed polls
        preExecRootObserved with
    | some started => return (started, [])
    | none => throw "missing observer state"
  | poll :: reads => do
    match ← settleRound plan expectedSha256 timeout initial current elapsed polls
        preExecRootObserved with
    | some started => return (started, poll :: reads)
    | none => do
      let current ← poll.readState false
      let polls ← nextPoll polls
      settleLoop initial current poll.elapsed polls (preExecRootObserved || current.isRoot) reads

/-- `settle_observer_identity`, over the reads that there is time for. -/
def settleObserverIdentity (reads : List Poll) :
    Except String (ObserverServiceStart × List Poll) :=
  match reads with
  | [] => .error "missing observer state"
  | poll :: reads => do
    let initial ← poll.readState true
    initial.verifyStartupContract plan initial.mainPid initial.startTicks initial.objectPath
      initial.controlGroup
    settleLoop plan expectedSha256 timeout initial initial poll.elapsed 1 initial.isRoot reads

end Loop

/-! ## §3 Which reads settle -/

/-- The service of the plan, up and running under a user of its own. -/
structure Serves (plan : ObserverServicePlan) (s : ObserverServiceState) : Prop where
  unitName : s.unitName = plan.unitName
  loadState : s.loadState = "loaded"
  activeState : s.activeState = "active"
  subState : s.subState = "running"
  mainPid : s.mainPid ≠ 0
  execMainPid : s.execMainPid = s.mainPid
  execMainStatus : s.execMainStatus = 0
  result : s.result = "success"
  dynamicUser : s.dynamicUser = true
  controlGroup : s.controlGroup.isEmpty = false
  controlGroup_root : s.controlGroup.toList.head? = some '/'
  controlGroup_up : contains s.controlGroup ".." = false

/-- One process in one place. -/
structure SameService (s t : ObserverServiceState) : Prop where
  mainPid : s.mainPid = t.mainPid
  startTicks : s.startTicks = t.startTicks
  objectPath : s.objectPath = t.objectPath
  controlGroup : s.controlGroup = t.controlGroup

theorem SameService.refl (s : ObserverServiceState) : SameService s s := ⟨rfl, rfl, rfl, rfl⟩

theorem SameService.symm {s t : ObserverServiceState} (h : SameService s t) : SameService t s :=
  ⟨h.mainPid.symm, h.startTicks.symm, h.objectPath.symm, h.controlGroup.symm⟩

theorem SameService.trans {s t u : ObserverServiceState} (hst : SameService s t)
    (htu : SameService t u) : SameService s u :=
  ⟨hst.mainPid.trans htu.mainPid, hst.startTicks.trans htu.startTicks,
    hst.objectPath.trans htu.objectPath, hst.controlGroup.trans htu.controlGroup⟩

/-- The contract of a start is the service of the plan, the same one as before. -/
theorem verifyStartupContract_eq_ok {plan : ObserverServicePlan} {s initial : ObserverServiceState}
    {u : Unit} :
    s.verifyStartupContract plan initial.mainPid initial.startTicks initial.objectPath
        initial.controlGroup = .ok u ↔
      Serves plan s ∧ SameService s initial := by
  unfold ObserverServiceState.verifyStartupContract
  rw [refuse_eq_ok]
  simp only [not_or, ne_eq, not_not, Bool.not_eq_false, Bool.not_eq_true]
  constructor
  · rintro ⟨hunit, hload, hactive, hsub, hpid, hsame, hticks, hobject, hgroup, hexec, hstatus,
      hresult, hdynamic, hempty, hroot, hup⟩
    exact ⟨⟨hunit, hload, hactive, hsub, hpid, hexec, hstatus, hresult, hdynamic, hempty, hroot,
      hup⟩, hsame, hticks, hobject, hgroup⟩
  · intro ⟨h, hsame⟩
    exact ⟨h.unitName, h.loadState, h.activeState, h.subState, h.mainPid, hsame.mainPid,
      hsame.startTicks, hsame.objectPath, hsame.controlGroup, h.execMainPid, h.execMainStatus,
      h.result, h.dynamicUser, h.controlGroup, h.controlGroup_root, h.controlGroup_up⟩

/-- A read that gave a state, and the time when the loop had looked at it. -/
structure Observation where
  state : ObserverServiceState
  elapsed : Duration

/-- What a read has shown, and when. -/
def Poll.Observes (poll : Poll) (hashUnexpected : Bool) (o : Observation) : Prop :=
  poll.readState hashUnexpected = .ok o.state ∧ poll.elapsed = o.elapsed

/-- Observations that settle: the same service all the time, the last one with the expected binary
    and all others, in time, without it. -/
inductive Settles (plan : ObserverServicePlan) (expectedSha256 : String) (timeout : Duration)
    (initial : ObserverServiceState) : List Observation → Prop
  | settled {o : Observation} :
    Serves plan o.state → SameService o.state initial →
    o.state.runsExpected plan expectedSha256 = true → o.state.nonRoot = true →
    Settles plan expectedSha256 timeout initial [o]
  | waited {o : Observation} {os : List Observation} :
    Serves plan o.state → SameService o.state initial →
    o.state.runsExpected plan expectedSha256 = false → o.elapsed.asNanos < timeout.asNanos →
    Settles plan expectedSha256 timeout initial os →
    Settles plan expectedSha256 timeout initial (o :: os)

section Loop

variable {plan : ObserverServicePlan} {expectedSha256 : String} {timeout : Duration}
  {initial : ObserverServiceState} {o current : Observation} {os : List Observation}
  {polls : UInt32} {root : Bool} {reads rest : List Poll} {started : ObserverServiceStart}

theorem Settles.ne_nil (h : Settles plan expectedSha256 timeout initial os) : os ≠ [] := by
  cases h <;> exact List.cons_ne_nil _ _

theorem Settles.serves (h : Settles plan expectedSha256 timeout initial os) :
    ∀ o ∈ os, Serves plan o.state ∧ SameService o.state initial := by
  induction h with
  | settled hserves hsame _ _ => simpa using ⟨hserves, hsame⟩
  | waited hserves hsame _ _ _ ih => simpa using ⟨⟨hserves, hsame⟩, ih⟩

/-- An earlier observation is never of the expected binary, whatever its user. -/
theorem Settles.not_runsExpected (h : Settles plan expectedSha256 timeout initial os) :
    ∀ o ∈ os.dropLast, o.state.runsExpected plan expectedSha256 = false := by
  induction h with
  | settled => simp
  | waited _ _ hother _ hrest ih =>
    rw [List.dropLast_cons_of_ne_nil hrest.ne_nil]
    simpa using ⟨hother, ih⟩

theorem Settles.getLast (h : Settles plan expectedSha256 timeout initial os) :
    (os.getLast h.ne_nil).state.runsExpected plan expectedSha256 = true ∧
      (os.getLast h.ne_nil).state.nonRoot = true := by
  induction h with
  | settled _ _ hexpected hnonRoot => exact ⟨hexpected, hnonRoot⟩
  | waited _ _ _ _ hrest ih =>
    rw [List.getLast_cons hrest.ne_nil]
    exact ih

theorem nextPoll_eq_ok {n : UInt32} :
    nextPoll polls = .ok n ↔ polls.toNat + 1 < 2 ^ 32 ∧ n = polls + 1 := by
  unfold nextPoll
  rw [okOr_eq_ok, Option.ite_none_right_eq_some, Option.some.injEq]
  exact and_congr_right fun _ => eq_comm

/-- A round of the service it began with ends in one of two ways. -/
theorem settleRound_eq_ok {o : Option ObserverServiceStart} :
    settleRound plan expectedSha256 timeout initial current.state current.elapsed polls root =
        .ok o ↔
      (Serves plan current.state ∧ SameService current.state initial) ∧
        (current.state.runsExpected plan expectedSha256 = true ∧ current.state.nonRoot = true ∧
            some (settled expectedSha256 initial current.state current.elapsed polls root) = o ∨
          current.state.runsExpected plan expectedSha256 = false ∧
            current.elapsed.asNanos < timeout.asNanos ∧ none = o) := by
  unfold settleRound
  rw [bind_eq_ok]
  simp only [verifyStartupContract_eq_ok, exists_and_left, exists_const]
  apply and_congr_right
  intro _
  cases current.state.runsExpected plan expectedSha256 <;> cases current.state.nonRoot <;>
    simp [refuse_bind_eq_ok, pure, Except.pure]

/-- A round settles with the expected binary, unless that runs as root. -/
theorem settleRound_eq_some :
    settleRound plan expectedSha256 timeout initial current.state current.elapsed polls root =
        .ok (some started) ↔
      (Serves plan current.state ∧ SameService current.state initial) ∧
        current.state.runsExpected plan expectedSha256 = true ∧ current.state.nonRoot = true ∧
        started = settled expectedSha256 initial current.state current.elapsed polls root := by
  rw [settleRound_eq_ok, eq_comm (a := started)]
  simp

/-- It leaves the loop running without that binary, while there is time. -/
theorem settleRound_eq_none :
    settleRound plan expectedSha256 timeout initial current.state current.elapsed polls root =
        .ok none ↔
      (Serves plan current.state ∧ SameService current.state initial) ∧
        current.state.runsExpected plan expectedSha256 = false ∧
        current.elapsed.asNanos < timeout.asNanos := by
  simp [settleRound_eq_ok]

/-- A round that settles ends the loop. -/
theorem settleLoop_of_some {report : ObserverServiceStart}
    (h : settleRound plan expectedSha256 timeout initial current.state current.elapsed polls root =
      .ok (some report)) :
    settleLoop plan expectedSha256 timeout initial current.state current.elapsed polls root reads =
      .ok (report, reads) := by
  cases reads with
  | nil => simp [settleLoop, h, bind, Except.bind, pure, Except.pure]
  | cons poll later => simp [settleLoop, h, bind, Except.bind, pure, Except.pure]

/-- A round that does not is followed by a read. -/
theorem settleLoop_of_none
    (h : settleRound plan expectedSha256 timeout initial current.state current.elapsed polls root =
      .ok none) :
    settleLoop plan expectedSha256 timeout initial current.state current.elapsed polls root reads =
        .ok (started, rest) ↔
      ∃ poll later, reads = poll :: later ∧ ∃ o, poll.Observes false o ∧
        polls.toNat + 1 < 2 ^ 32 ∧
        settleLoop plan expectedSha256 timeout initial o.state o.elapsed (polls + 1)
          (root || o.state.isRoot) later = .ok (started, rest) := by
  cases reads with
  | nil => simp [settleLoop, h, ok_bind]
  | cons poll later =>
    rw [settleLoop, h, ok_bind]
    simp only [bind_eq_ok, nextPoll_eq_ok, List.cons.injEq]
    constructor
    · rintro ⟨s, hread, _, ⟨hpolls, rfl⟩, hloop⟩
      exact ⟨poll, later, ⟨rfl, rfl⟩, ⟨s, poll.elapsed⟩, ⟨hread, rfl⟩, hpolls, hloop⟩
    · rintro ⟨_, _, ⟨rfl, rfl⟩, ⟨s, _⟩, ⟨hread, rfl⟩, hpolls, hloop⟩
      exact ⟨s, hread, _, ⟨hpolls, rfl⟩, hloop⟩

/-- A loop that ends well settles in its round, or makes one more read. -/
theorem settleLoop_eq_ok
    (h : settleLoop plan expectedSha256 timeout initial current.state current.elapsed polls root
      reads = .ok (started, rest)) :
    (settleRound plan expectedSha256 timeout initial current.state current.elapsed polls root =
        .ok (some started) ∧ reads = rest) ∨
      settleRound plan expectedSha256 timeout initial current.state current.elapsed polls root =
          .ok none ∧
        ∃ poll later, reads = poll :: later ∧ ∃ o, poll.Observes false o ∧
          polls.toNat + 1 < 2 ^ 32 ∧
          settleLoop plan expectedSha256 timeout initial o.state o.elapsed (polls + 1)
            (root || o.state.isRoot) later = .ok (started, rest) := by
  cases hround : settleRound plan expectedSha256 timeout initial current.state current.elapsed
      polls root with
  | error e =>
    cases reads <;> simp [settleLoop, hround, bind, Except.bind] at h
  | ok report =>
    cases report with
    | some report =>
      rw [settleLoop_of_some hround] at h
      obtain ⟨rfl, rfl⟩ := Prod.mk.inj (Except.ok.inj h)
      exact .inl ⟨rfl, rfl⟩
    | none => exact .inr ⟨rfl, (settleLoop_of_none hround).1 h⟩

/-- What a loop has read, when it ends with a settled state. -/
structure Run (plan : ObserverServicePlan) (expectedSha256 : String) (timeout : Duration)
    (initial : ObserverServiceState) (current : Observation) (polls : UInt32) (root : Bool)
    (reads rest : List Poll) (started : ObserverServiceStart) (made : List Poll)
    (os : List Observation) : Prop where
  reads_eq : reads = made ++ rest
  observed : List.Forall₂ (fun poll o => poll.Observes false o) made os
  settles : Settles plan expectedSha256 timeout initial (current :: os)
  polls_lt : polls.toNat + os.length < 2 ^ 32
  started_eq : started =
    settled expectedSha256 initial ((current :: os).getLast (List.cons_ne_nil _ _)).state
      ((current :: os).getLast (List.cons_ne_nil _ _)).elapsed (.ofNat (polls.toNat + os.length))
      (root || os.any fun o => o.state.isRoot)

/-- After a round that settles nothing more is read. -/
theorem run_of_settled (hround : settleRound plan expectedSha256 timeout initial current.state
      current.elapsed polls root = .ok (some started)) :
    Run plan expectedSha256 timeout initial current polls root reads reads started [] [] := by
  obtain ⟨⟨hserves, hsame⟩, hexpected, hnonRoot, hstarted⟩ := settleRound_eq_some.1 hround
  exact {
    reads_eq := rfl
    observed := .nil
    settles := .settled hserves hsame hexpected hnonRoot
    polls_lt := polls.toNat_lt
    started_eq := by simpa using hstarted }

/-- After another round the run goes on from the next read. -/
theorem run_cons_iff {poll : Poll} {made : List Poll} (hround : settleRound plan expectedSha256
      timeout initial current.state current.elapsed polls root = .ok none) :
    Run plan expectedSha256 timeout initial current polls root reads rest started (poll :: made)
        (o :: os) ↔
      poll.Observes false o ∧ polls.toNat + 1 < 2 ^ 32 ∧ ∃ later, reads = poll :: later ∧
        Run plan expectedSha256 timeout initial o (polls + 1) (root || o.state.isRoot) later rest
          started made os := by
  obtain ⟨⟨hserves, hsame⟩, hother, hearly⟩ := settleRound_eq_none.1 hround
  -- one more read counts the same on either side
  have hnext (hlt : polls.toNat + 1 < 2 ^ 32) (n : ℕ) :
      (polls + 1).toNat + n = polls.toNat + (n + 1) := by
    have : (polls + 1).toNat = polls.toNat + 1 := by
      rw [UInt32.toNat_add]
      exact Nat.mod_eq_of_lt hlt
    omega
  constructor
  · intro hrun
    obtain ⟨hobserves, hothers⟩ := List.forall₂_cons.1 hrun.observed
    have hlt := hrun.polls_lt
    rw [List.length_cons] at hlt
    have hone : polls.toNat + 1 < 2 ^ 32 := by omega
    have hrest : Settles plan expectedSha256 timeout initial (o :: os) := by
      cases hrun.settles with
      | waited _ _ _ _ hrest => exact hrest
    refine ⟨hobserves, hone, made ++ rest, hrun.reads_eq, rfl, hothers, hrest,
      by rwa [hnext hone], ?_⟩
    rw [hnext hone, hrun.started_eq]
    simp only [List.getLast_cons_cons, List.length_cons, List.any_cons, Bool.or_assoc]
  · rintro ⟨hobserves, hone, later, rfl, hrun⟩
    have hlt := hrun.polls_lt
    rw [hnext hone] at hlt
    refine ⟨by rw [hrun.reads_eq]; rfl, .cons hobserves hrun.observed,
      .waited hserves hsame hother hearly hrun.settles, hlt, ?_⟩
    rw [hrun.started_eq, hnext hone]
    simp only [List.getLast_cons_cons, List.length_cons, List.any_cons, Bool.or_assoc]

/-- A run starts with a round that does not fail. -/
theorem Run.round {made : List Poll}
    (h : Run plan expectedSha256 timeout initial current polls root reads rest started made os) :
    (settleRound plan expectedSha256 timeout initial current.state current.elapsed polls root =
        .ok (some started) ∧ rest = reads) ∨
      settleRound plan expectedSha256 timeout initial current.state current.elapsed polls root =
        .ok none ∧ os ≠ [] := by
  cases h.settles with
  | settled hserves hsame hexpected hnonRoot =>
    obtain rfl := List.forall₂_nil_right_iff.1 h.observed
    have hstarted := h.started_eq
    simp only [List.getLast_singleton, List.length_nil, Nat.add_zero, UInt32.ofNat_toNat,
      List.any_nil, Bool.or_false] at hstarted
    exact .inl ⟨settleRound_eq_some.2 ⟨⟨hserves, hsame⟩, hexpected, hnonRoot, hstarted⟩,
      h.reads_eq.symm⟩
  | waited hserves hsame hother hearly hrest =>
    exact .inr ⟨settleRound_eq_none.2 ⟨⟨hserves, hsame⟩, hother, hearly⟩, hrest.ne_nil⟩

/-- **The loop.** It ends well exactly with reads that settle. -/
theorem settleLoop_eq_ok_iff :
    settleLoop plan expectedSha256 timeout initial current.state current.elapsed polls root reads =
        .ok (started, rest) ↔
      ∃ made os, Run plan expectedSha256 timeout initial current polls root reads rest started
        made os := by
  constructor
  · intro h
    -- along the reads that are made
    induction reads generalizing current polls root with
    | nil =>
      rcases settleLoop_eq_ok h with ⟨hround, rfl⟩ | ⟨_, _, _, hcons, _⟩
      · exact ⟨[], [], run_of_settled hround⟩
      · cases hcons
    | cons poll later ih =>
      rcases settleLoop_eq_ok h with ⟨hround, rfl⟩ | ⟨hround, _, _, hcons, o, ho, hlt, hloop⟩
      · exact ⟨[], [], run_of_settled hround⟩
      · obtain ⟨rfl, rfl⟩ := List.cons.inj hcons
        obtain ⟨made, os, hrun⟩ := ih hloop
        exact ⟨poll :: made, o :: os, (run_cons_iff hround).2 ⟨ho, hlt, later, rfl, hrun⟩⟩
  · rintro ⟨made, os, hrun⟩
    -- along the states that were read
    induction os generalizing current polls root reads made with
    | nil =>
      rcases hrun.round with ⟨hround, rfl⟩ | ⟨_, hmore⟩
      · exact settleLoop_of_some hround
      · exact absurd rfl hmore
    | cons o os ih =>
      rcases hrun.round with ⟨hround, rfl⟩ | ⟨hround, _⟩
      · exact settleLoop_of_some hround
      · cases hrun.observed with
        | cons =>
          obtain ⟨ho, hlt, later, rfl, hrest⟩ := (run_cons_iff hround).1 hrun
          exact (settleLoop_of_none hround).2 ⟨_, later, rfl, o, ho, hlt, ih _ hrest⟩

/-- **The settling.** A start returns exactly after reads that settle, the first of them of the
    initial state. -/
theorem settleObserverIdentity_eq_ok_iff :
    settleObserverIdentity plan expectedSha256 timeout reads = .ok (started, rest) ↔
      ∃ poll later, reads = poll :: later ∧ ∃ o, poll.Observes true o ∧
        ∃ made os, Run plan expectedSha256 timeout o.state o 1 o.state.isRoot later rest started
          made os := by
  cases reads with
  | nil => simp [settleObserverIdentity]
  | cons poll later =>
    unfold settleObserverIdentity
    simp only [bind_eq_ok, verifyStartupContract_eq_ok, List.cons.injEq]
    constructor
    · rintro ⟨s, hread, _, _, hloop⟩
      exact ⟨_, _, ⟨rfl, rfl⟩, ⟨s, poll.elapsed⟩, ⟨hread, rfl⟩,
        (@settleLoop_eq_ok_iff _ _ _ _ ⟨s, poll.elapsed⟩ _ _ _ _ _).1 hloop⟩
    · rintro ⟨_, _, ⟨rfl, rfl⟩, ⟨s, _⟩, ⟨hread, rfl⟩, made, os, hrun⟩
      exact ⟨s, hread, (), hrun.settles.serves _ List.mem_cons_self,
        settleLoop_eq_ok_iff.2 ⟨made, os, hrun⟩⟩

/-! ## §4 What a settled start says -/

/-- The states that were read, up to the reads that are left. -/
def StatesRead (reads rest : List Poll) : List ObserverServiceState → Prop
  | [] => False
  | s :: ss =>
    ∃ poll made, reads = poll :: (made ++ rest) ∧ poll.readState true = .ok s ∧
      List.Forall₂ (fun poll t => poll.readState false = .ok t) made ss

/-- What a start promises about all states that were read for it. -/
structure Settlement (plan : ObserverServicePlan) (expectedSha256 : String)
    (started : ObserverServiceStart) (states : List ObserverServiceState) : Prop where
  unit : ∀ s ∈ states, s.unitName = plan.unitName ∧ s.activeState = "active" ∧
    s.subState = "running" ∧ s.dynamicUser = true
  same : ∀ s ∈ states, ∀ t ∈ states, SameService s t
  last : states.getLast? = some started.state
  binary : (started.state.executablePath == plan.serviceBinary) = true
  sha256 : started.state.executableSha256 = expectedSha256
  uid : started.state.effectiveUid ≠ 0
  gid : started.state.effectiveGid ≠ 0
  -- as root or not
  earlier : ∀ s ∈ states.dropLast, s.runsExpected plan expectedSha256 = false
  polls : started.settling.polls.toNat = states.length
  root : started.settling.preExecRootObserved = true ↔
    ∃ s ∈ states, s.effectiveUid = 0 ∧ s.effectiveGid = 0

theorem Run.statesRead {made : List Poll} {poll : Poll}
    (h : Run plan expectedSha256 timeout initial o polls root reads rest started made os)
    (hpoll : poll.Observes true o) :
    StatesRead (poll :: reads) rest ((o :: os).map Observation.state) := by
  refine ⟨poll, made, by rw [h.reads_eq], hpoll.1, ?_⟩
  rw [List.forall₂_map_right_iff]
  exact h.observed.imp fun _ _ hobserves => hobserves.1

theorem Run.settlement {made : List Poll}
    (h : Run plan expectedSha256 timeout o.state o 1 o.state.isRoot reads rest started made os) :
    Settlement plan expectedSha256 started ((o :: os).map Observation.state) := by
  have hserves := h.settles.serves
  have hstarted := h.started_eq
  have hpolls : 1 + os.length < 2 ^ 32 := h.polls_lt
  obtain ⟨hexpected, hnonRoot⟩ := h.settles.getLast
  -- the report is about the state that was read last
  have hstate : started.state = ((o :: os).getLast (List.cons_ne_nil _ _)).state := by
    rw [hstarted]
    rfl
  rw [← hstate, ObserverServiceState.runsExpected_iff] at hexpected
  rw [← hstate, ObserverServiceState.nonRoot_iff] at hnonRoot
  exact {
    unit := by
      intro s hs
      obtain ⟨o', ho', rfl⟩ := List.mem_map.1 hs
      obtain ⟨hserve, _⟩ := hserves o' ho'
      exact ⟨hserve.unitName, hserve.activeState, hserve.subState, hserve.dynamicUser⟩
    same := by
      intro s hs t ht
      obtain ⟨o₁, ho₁, rfl⟩ := List.mem_map.1 hs
      obtain ⟨o₂, ho₂, rfl⟩ := List.mem_map.1 ht
      exact (hserves o₁ ho₁).2.trans (hserves o₂ ho₂).2.symm
    last := by
      rw [List.getLast?_map, List.getLast?_eq_some_getLast (List.cons_ne_nil _ _), hstate]
      rfl
    binary := hexpected.1
    sha256 := hexpected.2
    uid := hnonRoot.1
    gid := hnonRoot.2
    earlier := by
      intro s hs
      rw [← List.map_dropLast] at hs
      obtain ⟨o', ho', rfl⟩ := List.mem_map.1 hs
      exact h.settles.not_runsExpected o' ho'
    polls := by
      have hcount : started.settling.polls = .ofNat (1 + os.length) := by
        rw [hstarted]
        rfl
      rw [hcount, UInt32.toNat_ofNat_of_lt' hpolls, List.length_map, List.length_cons]
      omega
    root := by
      have hflag : started.settling.preExecRootObserved =
          (o :: os).any fun o => o.state.isRoot := by
        rw [hstarted]
        rfl
      rw [hflag]
      simp only [List.any_eq_true, ObserverServiceState.isRoot_iff, List.mem_map,
        exists_exists_and_eq_and] }

/-- **Settling.** A start that returns has seen one service in all of its reads, the expected
    binary without root in the last one and never before, and it reports just these reads. -/
theorem settleObserverIdentity_settlement
    (h : settleObserverIdentity plan expectedSha256 timeout reads = .ok (started, rest)) :
    ∃ states, StatesRead reads rest states ∧
      Settlement plan expectedSha256 started states := by
  obtain ⟨poll, later, rfl, o, hpoll, made, os, hrun⟩ := settleObserverIdentity_eq_ok_iff.1 h
  exact ⟨_, hrun.statesRead hpoll, hrun.settlement⟩

end Loop

/-- The executor of the service manager, as root. -/
def executorState : ObserverServiceState where
  unitName := sampleLaunch.servicePlan.unitName
  objectPath := "/org/freedesktop/systemd1/unit/a1"
  loadState := "loaded"
  activeState := "active"
  subState := "running"
  mainPid := 4242
  execMainPid := 4242
  execMainStatus := 0
  result := "success"
  dynamicUser := true
  controlGroup := "/system.slice/a1"
  startTicks := 777
  effectiveUid := 0
  effectiveGid := 0
  executablePath := ⟨"/usr/lib/systemd/systemd-executor"⟩
  executableSha256 := "executor"

/-- The same process later, as the binary. -/
def binaryState : ObserverServiceState :=
  { executorState with
    effectiveUid := 61234
    effectiveGid := 61234
    executablePath := sampleLaunch.servicePlan.serviceBinary
    executableSha256 := "binary" }

theorem serves_executorState : Serves sampleLaunch.servicePlan executorState :=
  ⟨rfl, rfl, rfl, rfl, by decide, rfl, rfl, rfl, rfl, by decide +kernel, by decide +kernel,
    by decide +kernel⟩

theorem serves_binaryState : Serves sampleLaunch.servicePlan binaryState :=
  { serves_executorState with }

/-- First the executor of the manager, then the observer. -/
def settlingReads : List Poll :=
  [⟨fun _ => .ok executorState, ⟨0, 1000000, by decide⟩⟩,
    ⟨fun _ => .ok binaryState, ⟨0, 21000000, by decide⟩⟩]

theorem settleObserverIdentity_settlement_executor_first :
    ∃ states, StatesRead settlingReads [] states ∧
      Settlement sampleLaunch.servicePlan "binary"
        (settled "binary" executorState binaryState ⟨0, 21000000, by decide⟩ 2 true) states :=
  @settleObserverIdentity_settlement sampleLaunch.servicePlan "binary" ⟨2, 0, by decide⟩
    settlingReads [] _
    (settleObserverIdentity_eq_ok_iff.2 ⟨_, _, rfl, ⟨executorState, _⟩, ⟨rfl, rfl⟩, _,
      [⟨binaryState, _⟩], {
        reads_eq := (List.append_nil _).symm
        observed := .cons ⟨rfl, rfl⟩ .nil
        settles := .waited serves_executorState (.refl _) (by decide +kernel) (by decide)
          (.settled serves_binaryState ⟨rfl, rfl, rfl, rfl⟩ (by decide +kernel) (by decide))
        polls_lt := by decide
        started_eq := rfl }⟩)

end Nemor.Observer.Settling
