import Mathlib.Algebra.Group.Nat.Defs
import Nemor.Lib.Machine
import Nemor.Lib.Streaming

/-!
# The session of a pressure worker

A worker allocates memory in levels. Each level extends a payload of generated bytes, feeds
them to a running digest and is acknowledged with its value. A session is driven by calls in
any order; a call that does not fit is rejected. The payload is a vector, which panics when it
would have to grow beyond what a vector may have. §4 gives the invariant of a session, §5 what
it says about whole transcripts and the one rejection that is not without effect.
-/

namespace Nemor.Pressure

open Streaming

/-! ## §1 The generator -/

/-- What the payload is filled with. -/
inductive SyntheticPattern where
  | compressible
  | incompressible
  deriving DecidableEq

/-- `splitmix64`. -/
def splitmix64 (value : UInt64) : UInt64 :=
  let value := value + 0x9e3779b97f4a7c15
  let mixed := (value ^^^ (value >>> 30)) * 0xbf58476d1ce4e5b9
  let mixed := (mixed ^^^ (mixed >>> 27)) * 0x94d049bb133111eb
  mixed ^^^ (mixed >>> 31)

/-- The byte of a pattern at an index. -/
def syntheticByte : SyntheticPattern → UInt64 → ℕ → UInt8
  | .compressible, seed, index => ((UInt64.ofNat (index / 4096) + seed) % 4).toUInt8 * 0x11
  -- byte `index % 8` of the mixed word, the lowest first
  | .incompressible, seed, index =>
    (splitmix64 (seed ^^^ UInt64.ofNat index) >>> UInt64.ofNat (8 * (index % 8))).toUInt8

/-- The bytes that a worker with a seed generates. -/
def seeded (seed : UInt64) : ℕ → UInt8 := syntheticByte .incompressible seed

/-! ## §2 The session -/

/-- `PRESSURE_WORKER_PROTOCOL_VERSION`. -/
def pressureWorkerProtocolVersion : UInt32 := 1

/-- How much is generated and digested at a time. -/
def generationHashChunkBytes : ℕ := 1024 * 1024

/-- The generator of the incompressible pattern. -/
def incompressibleGeneratorId : String := "nemor.synthetic.splitmix64"

/-- The version of the generators. -/
def syntheticGeneratorVersion : UInt32 := 1

/-- What the worker has been told. -/
inductive WorkerProtocolState where
  | startedUnallocated
  | scopeAndMemoryMaxVerified
  | levelAcknowledged
  | holding
  | stopped
  deriving DecidableEq

/-- A level command. Sizes and indices are 64-bit, also those of type `usize`. -/
structure WorkerLevelCommand where
  protocolVersion : UInt32
  experimentId : String
  runId : String
  levelIndex : UInt64
  seed : UInt64
  priorTouchedBytes : UInt64
  requestedDeltaBytes : UInt64
  targetTouchedBytes : UInt64
  generatorId : String
  generatorVersion : UInt32

/-- What the worker says when a level is reached. -/
structure WorkerLevelAcknowledgement where
  experimentId : String
  runId : String
  levelIndex : UInt64
  seed : UInt64
  priorTouchedBytes : UInt64
  requestedDeltaBytes : UInt64
  actualTouchedBytes : UInt64
  workerPid : UInt32
  workerStartTicks : UInt64
  generatorId : String
  generatorVersion : UInt32
  integrityIdentity : String
  acknowledgedMonotonicNs : UInt64

/-- The session of a worker. The payload is a vector, with the capacity that was reserved for it. -/
structure ProgressiveWorkerSession (D : Digest UInt8) where
  experimentId : String
  runId : String
  seed : UInt64
  workerPid : UInt32
  workerStartTicks : UInt64
  memoryMaxBytes : UInt64
  state : WorkerProtocolState
  nextLevelIndex : UInt64
  payload : List UInt8
  payloadCapacity : ℕ
  integrityHasher : D.State
  integrityHashedBytes : UInt64

/-- How a call ends without a result: with an error that it returns, or unwound by a panic. -/
inductive WorkerFailure where
  | error (message : String)
  | panic (message : String)

/-- `u64::checked_add`. -/
def checkedAdd (a b : UInt64) : Option UInt64 :=
  if a.toNat + b.toNat < 2 ^ 64 then some (a + b) else none

/-- The largest capacity of a vector of bytes. -/
def isizeMax : ℕ := 2 ^ 63 - 1

/-- `Vec::reserve` for bytes: a capacity that does not suffice is at least doubled, and there is
    none beyond `isize::MAX`. Whether the machine has the memory is not looked at. -/
def reserve (capacity required : ℕ) : Option ℕ :=
  if required ≤ capacity then some capacity
  else
    let grown := max (max (capacity * 2) required) 8
    if grown ≤ isizeMax then some grown else none

namespace ProgressiveWorkerSession

variable {D : Digest UInt8}

/-- A worker that has allocated nothing. -/
def startUnallocated (D : Digest UInt8) (experimentId runId : String) (seed : UInt64)
    (workerPid : UInt32) (workerStartTicks : UInt64) :
    Except String (ProgressiveWorkerSession D) :=
  if experimentId = "" ∨ runId = "" ∨ workerPid = 0 ∨ workerStartTicks = 0 then
    .error "progressive worker identity is incomplete"
  else
    .ok
      { experimentId, runId, seed, workerPid, workerStartTicks
        memoryMaxBytes := 0
        state := .startedUnallocated
        nextLevelIndex := 0
        payload := []
        payloadCapacity := 0
        integrityHasher := D.new
        integrityHashedBytes := 0 }

/-- The number of bytes of the payload. -/
def touchedBytes (s : ProgressiveWorkerSession D) : UInt64 := UInt64.ofNat s.payload.length

/-- The worker learns that its limit is in force. -/
def verifyOwnedScopeAndMemoryMax (s : ProgressiveWorkerSession D) (memoryMaxBytes : UInt64) :
    ProgressiveWorkerSession D × Except String Unit :=
  if s.state ≠ .startedUnallocated ∨ s.payload ≠ [] ∨ memoryMaxBytes = 0 then
    (s, .error "scope/MemoryMax verification must precede every allocation")
  else
    ({ s with memoryMaxBytes := memoryMaxBytes, state := .scopeAndMemoryMaxVerified }, .ok ())

/-- The command is the one that the session expects next. -/
def MeetsContract (s : ProgressiveWorkerSession D) (command : WorkerLevelCommand) : Prop :=
  (s.state = .scopeAndMemoryMaxVerified ∨ s.state = .levelAcknowledged ∨ s.state = .holding) ∧
    command.protocolVersion = pressureWorkerProtocolVersion ∧
    command.experimentId = s.experimentId ∧
    command.runId = s.runId ∧
    command.seed = s.seed ∧
    command.levelIndex = s.nextLevelIndex ∧
    command.generatorId = incompressibleGeneratorId ∧
    command.generatorVersion = syntheticGeneratorVersion ∧
    command.priorTouchedBytes = s.touchedBytes ∧
    checkedAdd command.priorTouchedBytes command.requestedDeltaBytes =
      some command.targetTouchedBytes ∧
    command.targetTouchedBytes ≤ s.memoryMaxBytes

instance (s : ProgressiveWorkerSession D) (command : WorkerLevelCommand) :
    Decidable (s.MeetsContract command) := by
  delta MeetsContract
  infer_instance

/-- The session with its payload extended to the target of the command, in a vector of the given
    capacity. -/
def allocate (s : ProgressiveWorkerSession D) (command : WorkerLevelCommand) (capacity : ℕ) :
    ProgressiveWorkerSession D :=
  let prior := command.priorTouchedBytes.toNat
  let target := command.targetTouchedBytes.toNat
  let filled := fill D (seeded s.seed) generationHashChunkBytes target prior
    (resize 0 target s.payload, s.integrityHasher)
  { s with payload := filled.1, payloadCapacity := capacity, integrityHasher := filled.2 }

/-- What is acknowledged of a command. -/
def acknowledgement (s : ProgressiveWorkerSession D) (command : WorkerLevelCommand)
    (acknowledgedMonotonicNs : UInt64) : WorkerLevelAcknowledgement where
  experimentId := s.experimentId
  runId := s.runId
  levelIndex := command.levelIndex
  seed := s.seed
  priorTouchedBytes := command.priorTouchedBytes
  requestedDeltaBytes := command.requestedDeltaBytes
  actualTouchedBytes := s.touchedBytes
  workerPid := s.workerPid
  workerStartTicks := s.workerStartTicks
  generatorId := incompressibleGeneratorId
  generatorVersion := syntheticGeneratorVersion
  integrityIdentity := D.finalize s.integrityHasher
  acknowledgedMonotonicNs := acknowledgedMonotonicNs

/-- What is done with a level once it is allocated. Errors leave what was assigned before them. -/
def recordLevel (s : ProgressiveWorkerSession D) (command : WorkerLevelCommand)
    (acknowledgedMonotonicNs : UInt64) :
    ProgressiveWorkerSession D × Except WorkerFailure WorkerLevelAcknowledgement :=
  match checkedAdd s.integrityHashedBytes command.requestedDeltaBytes with
  | none => (s, .error (.error "progressive integrity byte count overflow"))
  | some hashed =>
    let s := { s with integrityHashedBytes := hashed }
    if hashed ≠ command.targetTouchedBytes then
      (s, .error (.error "incremental integrity state does not match touched payload"))
    else
      -- the state moves on before the index is checked
      let s := { s with state := .levelAcknowledged }
      match checkedAdd s.nextLevelIndex 1 with
      | none => (s, .error (.error "progressive worker level index overflow"))
      | some next =>
        let s := { s with nextLevelIndex := next }
        (s, .ok (s.acknowledgement command acknowledgedMonotonicNs))

/-- A level. Its command is checked before anything is allocated. -/
def applyLevel (s : ProgressiveWorkerSession D) (command : WorkerLevelCommand)
    (acknowledgedMonotonicNs : UInt64) :
    ProgressiveWorkerSession D × Except WorkerFailure WorkerLevelAcknowledgement :=
  if ¬ s.MeetsContract command then
    (s, .error (.error "fixed progressive worker command contract mismatch"))
  else
    match reserve s.payloadCapacity command.targetTouchedBytes.toNat with
    -- `Vec::resize` reserves first, so it has written nothing when it panics
    | none => (s, .error (.panic "capacity overflow"))
    | some capacity => (s.allocate command capacity).recordLevel command acknowledgedMonotonicNs

/-- The level is held from now on. -/
def beginHold (s : ProgressiveWorkerSession D) : ProgressiveWorkerSession D × Except String Unit :=
  if s.state ≠ .levelAcknowledged then
    (s, .error "hold cannot begin before exact level acknowledgement")
  else ({ s with state := .holding }, .ok ())

/-- Compare the bytes at some indices with the generator and digest them. -/
def checkBytes (s : ProgressiveWorkerSession D) : List ℕ → D.State → Except String String
  | [], digest => .ok (D.finalize digest)
  | index :: indices, digest =>
    -- all indices are inside the payload
    if s.payload.getD index 0 ≠ seeded s.seed index then
      .error "progressive worker payload integrity mismatch"
    else s.checkBytes indices (D.update digest [s.payload.getD index 0])

/-- Check up to 1024 bytes, spread over the payload. -/
def boundedIntegrityCheck (s : ProgressiveWorkerSession D) : Except String String :=
  if s.state ≠ .holding ∨ s.payload = [] then
    .error "bounded integrity check requires an acknowledged held payload"
  else
    let stride := max (s.payload.length / 1024) 1
    s.checkBytes ((stepBy 0 s.payload.length stride).take 1024) D.new

/-- The worker does nothing any more. -/
def stop (s : ProgressiveWorkerSession D) : ProgressiveWorkerSession D :=
  { s with state := .stopped }

end ProgressiveWorkerSession

/-! ## §3 Calls -/

/-- What a worker is told. -/
inductive Call where
  | verifyOwnedScopeAndMemoryMax (memoryMaxBytes : UInt64)
  | applyLevel (command : WorkerLevelCommand) (acknowledgedMonotonicNs : UInt64)
  | beginHold
  | boundedIntegrityCheck
  | stop

/-- What it answers. -/
inductive Response where
  | done
  | acknowledged (acknowledgement : WorkerLevelAcknowledgement)
  | integrity (identity : String)

/-- One call on a session. Only a level can panic; its caller may catch that and go on. -/
def step {D : Digest UInt8} (s : ProgressiveWorkerSession D) :
    Call → ProgressiveWorkerSession D × Except WorkerFailure Response
  | .verifyOwnedScopeAndMemoryMax memoryMaxBytes =>
    let (s, r) := s.verifyOwnedScopeAndMemoryMax memoryMaxBytes
    (s, (r.mapError .error).map fun _ => .done)
  | .applyLevel command ns =>
    let (s, r) := s.applyLevel command ns
    (s, r.map .acknowledged)
  | .beginHold =>
    let (s, r) := s.beginHold
    (s, (r.mapError .error).map fun _ => .done)
  | .boundedIntegrityCheck => (s, (s.boundedIntegrityCheck.mapError .error).map .integrity)
  | .stop => (s.stop, .ok .done)

/-! ## §4 The invariant of a session -/

/-- Payload, digest and count agree, within the verified limit. -/
structure ProgressiveWorkerSession.Sound {D : Digest UInt8} (s : ProgressiveWorkerSession D) :
    Prop where
  payload : s.payload = generated (seeded s.seed) s.payload.length
  bounded : s.payload.length ≤ s.memoryMaxBytes.toNat
  hasher : s.integrityHasher = D.update D.new s.payload
  hashed : s.integrityHashedBytes.toNat = s.payload.length
  unverified : s.state = .startedUnallocated → s.memoryMaxBytes = 0

theorem checkedAdd_eq_some {a b c : UInt64} :
    checkedAdd a b = some c ↔ a.toNat + b.toNat = c.toNat := by
  unfold checkedAdd
  constructor
  · intro h
    obtain ⟨hlt, hsum⟩ := Option.ite_none_right_eq_some.1 h
    rw [← Option.some.inj hsum, UInt64.toNat_add, Nat.mod_eq_of_lt hlt]
  · intro h
    have hlt : a.toNat + b.toNat < 2 ^ 64 := h ▸ c.toNat_lt
    rw [if_pos hlt]
    congr 1
    apply UInt64.toNat_inj.1
    rw [UInt64.toNat_add, Nat.mod_eq_of_lt hlt, h]

section Session

variable {D : Digest UInt8} {s : ProgressiveWorkerSession D} {command : WorkerLevelCommand}

theorem ProgressiveWorkerSession.Sound.touchedBytes (h : s.Sound) :
    s.touchedBytes.toNat = s.payload.length := by
  have hlt := s.memoryMaxBytes.toNat_lt
  have hle := h.bounded
  exact UInt64.toNat_ofNat_of_lt' (hle.trans_lt hlt)

/-- The sizes of a command that meets the contract. -/
theorem ProgressiveWorkerSession.Sound.sizes (h : s.Sound) (hc : s.MeetsContract command) :
    command.priorTouchedBytes.toNat = s.payload.length ∧
      s.payload.length + command.requestedDeltaBytes.toNat = command.targetTouchedBytes.toNat ∧
      command.targetTouchedBytes.toNat ≤ s.memoryMaxBytes.toNat := by
  obtain ⟨-, -, -, -, -, -, -, -, hprior, hadd, hmax⟩ := hc
  have hlen : command.priorTouchedBytes.toNat = s.payload.length := by
    rw [hprior, h.touchedBytes]
  rw [← hlen]
  exact ⟨rfl, checkedAdd_eq_some.1 hadd, UInt64.le_iff_toNat_le.1 hmax⟩

/-- The payload after an allocation is the generated one of the new size. -/
theorem allocate_eq (h : s.Sound) (hc : s.MeetsContract command) (capacity : ℕ) :
    s.allocate command capacity =
      { s with
        payload := generated (seeded s.seed) command.targetTouchedBytes.toNat
        payloadCapacity := capacity
        integrityHasher :=
          D.update D.new (generated (seeded s.seed) command.targetTouchedBytes.toNat) } := by
  obtain ⟨hprior, hadd, -⟩ := h.sizes hc
  -- what the payload is before the loop, what the loop makes of it, and what it has digested
  have hresize : resize 0 command.targetTouchedBytes.toNat s.payload =
      generated (seeded s.seed) s.payload.length ++
        List.replicate (command.targetTouchedBytes.toNat - s.payload.length) 0 := by
    rw [resize, List.take_of_length_le (by omega), ← h.payload]
  have hfill : fill D (seeded s.seed) generationHashChunkBytes command.targetTouchedBytes.toNat
        s.payload.length
        (generated (seeded s.seed) s.payload.length ++
          List.replicate (command.targetTouchedBytes.toNat - s.payload.length) 0,
          s.integrityHasher) = _ :=
    fill_eq D (seeded s.seed) _ _ (by decide) (by omega) (by simp)
  have hdigest : D.update s.integrityHasher
        (slice (seeded s.seed) s.payload.length
          (command.targetTouchedBytes.toNat - s.payload.length)) =
      D.update D.new (generated (seeded s.seed) command.targetTouchedBytes.toNat) := by
    rw [h.hasher, D.update_append]
    congr 1
    nth_rewrite 1 [h.payload]
    rw [generated_append_slice]
    congr 1
    omega
  unfold ProgressiveWorkerSession.allocate
  dsimp only
  rw [hprior, hresize, hfill, hdigest]

/-- The session once a level is allocated and counted. -/
def ProgressiveWorkerSession.extended (s : ProgressiveWorkerSession D)
    (command : WorkerLevelCommand) (capacity : ℕ) : ProgressiveWorkerSession D :=
  { s with
    payload := generated (seeded s.seed) command.targetTouchedBytes.toNat
    payloadCapacity := capacity
    integrityHasher := D.update D.new (generated (seeded s.seed) command.targetTouchedBytes.toNat)
    integrityHashedBytes := command.targetTouchedBytes
    state := .levelAcknowledged }

/-- What a level command does: it is rejected at once, it panics before anything is written, it
    is acknowledged, or it is rejected because the level cannot be numbered. -/
inductive Applied (s : ProgressiveWorkerSession D) (command : WorkerLevelCommand) (ns : UInt64) :
    ProgressiveWorkerSession D × Except WorkerFailure WorkerLevelAcknowledgement → Prop where
  | rejected (hnot : ¬ s.MeetsContract command) :
    Applied s command ns
      (s, .error (.error "fixed progressive worker command contract mismatch"))
  | panicked (hc : s.MeetsContract command)
      (hfull : reserve s.payloadCapacity command.targetTouchedBytes.toNat = none) :
    Applied s command ns (s, .error (.panic "capacity overflow"))
  | acknowledged {capacity : ℕ} {next : UInt64} (hc : s.MeetsContract command)
      (hreserved : reserve s.payloadCapacity command.targetTouchedBytes.toNat = some capacity)
      (hnext : checkedAdd s.nextLevelIndex 1 = some next) :
    Applied s command ns
      ({ s.extended command capacity with nextLevelIndex := next },
        .ok ({ s.extended command capacity with nextLevelIndex := next }.acknowledgement
          command ns))
  | unnumbered {capacity : ℕ} (hc : s.MeetsContract command)
      (hreserved : reserve s.payloadCapacity command.targetTouchedBytes.toNat = some capacity)
      (hlast : checkedAdd s.nextLevelIndex 1 = none) :
    Applied s command ns
      (s.extended command capacity, .error (.error "progressive worker level index overflow"))

theorem applyLevel_cases (h : s.Sound) (command : WorkerLevelCommand) (ns : UInt64) :
    ∃ result, s.applyLevel command ns = result ∧ Applied s command ns result := by
  refine ⟨_, rfl, ?_⟩
  unfold ProgressiveWorkerSession.applyLevel
  by_cases hc : s.MeetsContract command
  · obtain ⟨-, hadd, -⟩ := h.sizes hc
    have hhashed : checkedAdd s.integrityHashedBytes command.requestedDeltaBytes =
        some command.targetTouchedBytes := by
      rw [checkedAdd_eq_some, h.hashed, hadd]
    rw [if_neg (not_not.2 hc)]
    cases hreserved : reserve s.payloadCapacity command.targetTouchedBytes.toNat with
    | none => exact .panicked hc hreserved
    | some capacity =>
      dsimp only
      rw [allocate_eq h hc]
      unfold ProgressiveWorkerSession.recordLevel
      -- the count has kept up with the payload, so neither of the two checks on it can fail
      rw [hhashed]
      simp only [ne_eq, not_true_eq_false, if_false]
      cases hnext : checkedAdd s.nextLevelIndex 1 with
      | none => exact .unnumbered hc hreserved hnext
      | some next => exact .acknowledged hc hreserved hnext
  · rw [if_pos hc]
    exact .rejected hc

theorem ProgressiveWorkerSession.Sound.extended (h : s.Sound) (hc : s.MeetsContract command)
    (capacity : ℕ) : (s.extended command capacity).Sound where
  payload := by simp [ProgressiveWorkerSession.extended]
  bounded := by simpa [ProgressiveWorkerSession.extended] using (h.sizes hc).2.2
  hasher := rfl
  hashed := by simp [ProgressiveWorkerSession.extended]
  unverified := fun hstate => by cases hstate

/-- The next index is no part of the invariant. -/
theorem ProgressiveWorkerSession.Sound.renumbered (h : s.Sound) (next : UInt64) :
    ({ s with nextLevelIndex := next } : ProgressiveWorkerSession D).Sound :=
  ⟨h.payload, h.bounded, h.hasher, h.hashed, h.unverified⟩

/-- A state other than the first one is no part of the invariant. -/
theorem ProgressiveWorkerSession.Sound.moved (h : s.Sound) {state : WorkerProtocolState}
    (hstate : state ≠ .startedUnallocated) :
    ({ s with state := state } : ProgressiveWorkerSession D).Sound :=
  ⟨h.payload, h.bounded, h.hasher, h.hashed, fun h => absurd h hstate⟩

theorem startUnallocated_sound {experimentId runId : String} {seed : UInt64} {workerPid : UInt32}
    {workerStartTicks : UInt64}
    (h : ProgressiveWorkerSession.startUnallocated D experimentId runId seed workerPid
      workerStartTicks = .ok s) : s.Sound := by
  unfold ProgressiveWorkerSession.startUnallocated at h
  split at h
  · cases h
  · cases h
    exact ⟨rfl, Nat.zero_le _, (D.update_nil _).symm, rfl, fun _ => rfl⟩

/-- Every call keeps the invariant. -/
theorem ProgressiveWorkerSession.Sound.step (h : s.Sound) (call : Call) : (step s call).1.Sound := by
  cases call with
  | verifyOwnedScopeAndMemoryMax memoryMaxBytes =>
    show (s.verifyOwnedScopeAndMemoryMax memoryMaxBytes).1.Sound
    unfold ProgressiveWorkerSession.verifyOwnedScopeAndMemoryMax
    split
    · exact h
    · next hcond =>
      -- nothing is allocated yet, so any limit holds it
      have hempty : s.payload = [] := by
        by_contra hne
        exact hcond (.inr (.inl hne))
      refine ⟨h.payload, ?_, h.hasher, h.hashed, fun hstate => by cases hstate⟩
      simp [hempty]
  | applyLevel command ns =>
    obtain ⟨_, heq, happlied⟩ := applyLevel_cases h command ns
    show (s.applyLevel command ns).1.Sound
    rw [heq]
    cases happlied with
    | rejected _ => exact h
    | panicked _ _ => exact h
    | acknowledged hc _ _ => exact (h.extended hc _).renumbered _
    | unnumbered hc _ _ => exact h.extended hc _
  | beginHold =>
    show s.beginHold.1.Sound
    unfold ProgressiveWorkerSession.beginHold
    split
    · exact h
    · exact h.moved WorkerProtocolState.noConfusion
  | boundedIntegrityCheck => exact h
  | stop => exact h.moved WorkerProtocolState.noConfusion

/-! ### Integrity checks -/

theorem checkBytes_ok (h : s.Sound) {indices : List ℕ}
    (hindices : ∀ index ∈ indices, index < s.payload.length) (digest : D.State) :
    s.checkBytes indices digest =
      .ok (D.finalize (D.update digest (indices.map (seeded s.seed)))) := by
  induction indices generalizing digest with
  | nil => rw [ProgressiveWorkerSession.checkBytes, List.map_nil, D.update_nil]
  | cons index indices ih =>
    have hbyte : s.payload.getD index 0 = seeded s.seed index := by
      rw [h.payload, List.getD_eq_getElem?_getD,
        getElem?_generated _ (hindices index List.mem_cons_self)]
      rfl
    rw [ProgressiveWorkerSession.checkBytes, hbyte, if_neg (not_not.2 rfl),
      ih (fun i hi => hindices i (List.mem_cons_of_mem _ hi)), D.update_append]
    rfl

/-- The check of a held payload finds no mismatch. -/
theorem boundedIntegrityCheck_ok (h : s.Sound) (hstate : s.state = .holding)
    (hpayload : s.payload ≠ []) : ∃ identity, s.boundedIntegrityCheck = .ok identity := by
  unfold ProgressiveWorkerSession.boundedIntegrityCheck
  rw [if_neg (by simp [hstate, hpayload])]
  refine ⟨_, checkBytes_ok h ?_ _⟩
  intro index hindex
  exact mem_stepBy_lt (List.mem_of_mem_take hindex)

end Session

/-! ## §5 Transcripts -/

/-- A call and the answer to it. -/
abbrev Entry := Call × Except WorkerFailure Response

/-- The acknowledgement that an entry gives. -/
def Entry.acknowledgement? : Entry → Option WorkerLevelAcknowledgement
  | (_, .ok (.acknowledged acknowledgement)) => some acknowledgement
  | _ => none

/-- The limit that an entry has verified. -/
def Entry.verified? : Entry → Option UInt64
  | (.verifyOwnedScopeAndMemoryMax memoryMaxBytes, .ok _) => some memoryMaxBytes
  | _ => none

/-- The levels that a session has acknowledged. -/
def acknowledgements (log : List Entry) : List WorkerLevelAcknowledgement :=
  log.filterMap Entry.acknowledgement?

/-- The verified limit, zero before any verification. -/
def verifiedMax (log : List Entry) : UInt64 := (log.filterMap Entry.verified?).getLastD 0

theorem acknowledgements_snoc (log : List Entry) (entry : Entry) :
    acknowledgements (log ++ [entry]) = acknowledgements log ++ entry.acknowledgement?.toList := by
  cases h : entry.acknowledgement? <;> simp [acknowledgements, h]

theorem verifiedMax_snoc (log : List Entry) (entry : Entry) :
    verifiedMax (log ++ [entry]) = entry.verified?.getD (verifiedMax log) := by
  cases h : entry.verified? <;> simp [verifiedMax, h]

/-- The highest level index. -/
def usizeMax : UInt64 := 0xffffffffffffffff

theorem checkedAdd_one_eq_none {n : UInt64} : checkedAdd n 1 = none ↔ n = usizeMax := by
  have hone : (1 : UInt64).toNat = 1 := rfl
  have hmax : usizeMax.toNat = 2 ^ 64 - 1 := rfl
  have hlt := n.toNat_lt
  rw [checkedAdd, hone, ← UInt64.toNat_inj, hmax]
  split
  · simp only [reduceCtorEq, false_iff]
    omega
  · simp only [true_iff]
    omega

/-- What the session knows about its transcript. -/
structure Recorded {D : Digest UInt8} (seed : UInt64) (log : List Entry)
    (s : ProgressiveWorkerSession D) : Prop where
  sound : s.Sound
  seeded : s.seed = seed
  numbered :
    (acknowledgements log).map (fun a => a.levelIndex.toNat) = List.range s.nextLevelIndex.toNat
  growing :
    (acknowledgements log).Pairwise fun a b => a.actualTouchedBytes.toNat ≤ b.actualTouchedBytes.toNat
  below : ∀ a ∈ acknowledgements log, a.actualTouchedBytes.toNat ≤ s.payload.length
  limit : s.memoryMaxBytes = verifiedMax log

section Transcripts

variable {D : Digest UInt8} {seed : UInt64} {log : List Entry} {s s' : ProgressiveWorkerSession D}
  {entry : Entry}

/-- An entry without acknowledgement or verification leaves the record as it is. -/
theorem Recorded.quiet (h : Recorded seed log s) (hack : entry.acknowledgement? = none)
    (hverified : entry.verified? = none) (hsound : s'.Sound) (hseed : s'.seed = s.seed)
    (hnext : s'.nextLevelIndex = s.nextLevelIndex)
    (hlen : s.payload.length ≤ s'.payload.length)
    (hmax : s'.memoryMaxBytes = s.memoryMaxBytes) : Recorded seed (log ++ [entry]) s' := by
  have hacks : acknowledgements (log ++ [entry]) = acknowledgements log := by
    rw [acknowledgements_snoc, hack]
    exact List.append_nil _
  have hlimit : verifiedMax (log ++ [entry]) = verifiedMax log := by
    rw [verifiedMax_snoc, hverified]
    rfl
  refine ⟨hsound, hseed.trans h.seeded, ?_, ?_, ?_, ?_⟩
  · rw [hacks, hnext]
    exact h.numbered
  · rw [hacks]
    exact h.growing
  · rw [hacks]
    exact fun a ha => (h.below a ha).trans hlen
  · rw [hlimit, hmax]
    exact h.limit

/-- A rejected call that changes nothing. -/
theorem Recorded.rejected (h : Recorded seed log s) (call : Call) (failure : WorkerFailure) :
    Recorded seed (log ++ [(call, .error failure)]) s := by
  refine h.quiet rfl ?_ h.sound rfl rfl le_rfl rfl
  cases call <;> rfl

/-- An acknowledged level takes the next number and is at least as large as the last one. -/
theorem Recorded.acknowledge (h : Recorded seed log s) {command : WorkerLevelCommand}
    {capacity : ℕ} {ns next : UInt64} (hc : s.MeetsContract command)
    (hnext : checkedAdd s.nextLevelIndex 1 = some next) :
    Recorded seed
      (log ++ [(.applyLevel command ns,
        .ok (.acknowledged ({ s.extended command capacity with
          nextLevelIndex := next }.acknowledgement command ns)))])
      { s.extended command capacity with nextLevelIndex := next } := by
  obtain ⟨-, hadd, -⟩ := h.sound.sizes hc
  have hsound := (h.sound.extended hc capacity).renumbered next
  have hsize := hsound.touchedBytes
  have hgrown : s.payload.length ≤ (s.extended command capacity).payload.length := by
    simp only [ProgressiveWorkerSession.extended, length_generated]
    omega
  have hindex : command.levelIndex = s.nextLevelIndex := hc.2.2.2.2.2.1
  have hsucc : next.toNat = s.nextLevelIndex.toNat + 1 := (checkedAdd_eq_some.1 hnext).symm
  -- numbers, sizes, bounds and the verified limit, in this order
  refine ⟨hsound, h.seeded, ?_, ?_, ?_, ?_⟩
  · rw [acknowledgements_snoc, List.map_append, h.numbered, hsucc, List.range_succ, ← hindex]
    rfl
  · rw [acknowledgements_snoc, List.pairwise_append]
    refine ⟨h.growing, List.pairwise_singleton _ _, ?_⟩
    intro a ha b hb
    obtain rfl := List.mem_singleton.1 hb
    exact ((h.below a ha).trans hgrown).trans hsize.ge
  · intro a ha
    rw [acknowledgements_snoc, List.mem_append] at ha
    rcases ha with ha | ha
    · exact (h.below a ha).trans hgrown
    · obtain rfl := List.mem_singleton.1 ha
      exact hsize.le
  · rw [verifiedMax_snoc]
    exact h.limit

/-- Every call keeps the record. -/
theorem Recorded.step (h : Recorded seed log s) (call : Call) :
    Recorded seed (log ++ [(call, (step s call).2)]) (step s call).1 := by
  have hsound := h.sound.step call
  cases call with
  | verifyOwnedScopeAndMemoryMax memoryMaxBytes =>
    simp only [Pressure.step, ProgressiveWorkerSession.verifyOwnedScopeAndMemoryMax] at hsound ⊢
    split
    · exact h.rejected _ _
    · next hcond =>
      -- only the verified limit is noted
      rw [if_neg hcond] at hsound
      have hacks : acknowledgements (log ++
          [(.verifyOwnedScopeAndMemoryMax memoryMaxBytes, .ok .done)]) = acknowledgements log := by
        rw [acknowledgements_snoc]
        exact List.append_nil _
      refine ⟨hsound, h.seeded, hacks ▸ h.numbered, hacks ▸ h.growing, hacks ▸ h.below, ?_⟩
      rw [verifiedMax_snoc]
      rfl
  | applyLevel command ns =>
    obtain ⟨_, heq, happlied⟩ := applyLevel_cases h.sound command ns
    simp only [Pressure.step, heq]
    cases happlied with
    | rejected _ => exact h.rejected _ _
    | panicked _ _ => exact h.rejected _ _
    | acknowledged hc _ hnext => exact h.acknowledge hc hnext
    | unnumbered hc _ _ =>
      -- the level is allocated but not acknowledged
      obtain ⟨-, hadd, -⟩ := h.sound.sizes hc
      refine h.quiet rfl rfl (h.sound.extended hc _) rfl rfl ?_ rfl
      simp only [ProgressiveWorkerSession.extended, length_generated]
      omega
  | beginHold =>
    simp only [Pressure.step, ProgressiveWorkerSession.beginHold]
    -- a hold moves the protocol on and touches nothing
    split
    · exact h.rejected _ _
    · exact h.quiet rfl rfl (h.sound.moved WorkerProtocolState.noConfusion) rfl rfl le_rfl rfl
  | boundedIntegrityCheck =>
    simp only [Pressure.step]
    cases s.boundedIntegrityCheck with
    | ok identity => exact h.quiet rfl rfl h.sound rfl rfl le_rfl rfl
    | error message => exact h.rejected _ _
  | stop => exact h.quiet rfl rfl hsound rfl rfl le_rfl rfl

/-- A call that fails leaves the session alone while there are numbers left. -/
theorem failed_unchanged (h : s.Sound) (hleft : s.nextLevelIndex ≠ usizeMax) {call : Call}
    {failure : WorkerFailure} (hr : (step s call).2 = .error failure) : (step s call).1 = s := by
  cases call with
  | verifyOwnedScopeAndMemoryMax memoryMaxBytes =>
    simp only [Pressure.step, ProgressiveWorkerSession.verifyOwnedScopeAndMemoryMax] at hr ⊢
    split at hr
    · next hcond => rw [if_pos hcond]
    · cases hr
  | applyLevel command ns =>
    obtain ⟨_, heq, happlied⟩ := applyLevel_cases h command ns
    simp only [Pressure.step, heq] at hr ⊢
    cases happlied with
    | rejected _ => rfl
    | panicked _ _ => rfl
    | acknowledged _ _ _ => cases hr
    -- the only failure that comes after an assignment
    | unnumbered _ _ hlast => exact absurd (checkedAdd_one_eq_none.1 hlast) hleft
  | beginHold =>
    simp only [Pressure.step, ProgressiveWorkerSession.beginHold] at hr ⊢
    split at hr
    · next hcond => rw [if_pos hcond]
    · cases hr
  | boundedIntegrityCheck => rfl
  | stop => cases hr

/-- An acknowledgement gives the digest and the size of the whole payload. -/
theorem acknowledged_digest (h : s.Sound) {call : Call} {acknowledgement : WorkerLevelAcknowledgement}
    (hr : (step s call).2 = .ok (.acknowledged acknowledgement)) :
    acknowledgement.integrityIdentity = D.digest (step s call).1.payload ∧
      acknowledgement.actualTouchedBytes.toNat = (step s call).1.payload.length := by
  cases call with
  | verifyOwnedScopeAndMemoryMax memoryMaxBytes =>
    simp only [Pressure.step, ProgressiveWorkerSession.verifyOwnedScopeAndMemoryMax] at hr
    split at hr <;> cases hr
  | applyLevel command ns =>
    have hsound := h.step (.applyLevel command ns)
    obtain ⟨_, heq, happlied⟩ := applyLevel_cases h command ns
    simp only [Pressure.step, heq] at hr hsound ⊢
    cases happlied with
    | rejected _ => cases hr
    | panicked _ _ => cases hr
    | acknowledged _ _ _ =>
      cases hr
      exact ⟨rfl, hsound.touchedBytes⟩
    | unnumbered _ _ _ => cases hr
  | beginHold =>
    simp only [Pressure.step, ProgressiveWorkerSession.beginHold] at hr
    split at hr <;> cases hr
  | boundedIntegrityCheck =>
    simp only [Pressure.step] at hr
    cases hcheck : s.boundedIntegrityCheck <;> rw [hcheck] at hr <;> cases hr
  | stop => cases hr

/-- **The session of a worker.** Whatever calls are made: the payload is the generated one,
    within the verified limit; the acknowledged levels are numbered from zero on and do not
    shrink; the next acknowledgement gives the digest of the whole payload; and the next call
    that fails changes nothing, as long as there is a number for another level. -/
theorem worker_session_invariant {experimentId runId : String} {workerPid : UInt32}
    {workerStartTicks : UInt64} {s₀ : ProgressiveWorkerSession D}
    (h : ProgressiveWorkerSession.startUnallocated D experimentId runId seed workerPid
      workerStartTicks = .ok s₀) (calls : List Call) :
    let s := Machine.after step s₀ calls
    let log := Machine.transcript step s₀ calls
    s.payload = generated (seeded seed) s.payload.length ∧
      s.payload.length ≤ (verifiedMax log).toNat ∧
      (acknowledgements log).map (fun a => a.levelIndex.toNat) =
        List.range (acknowledgements log).length ∧
      (acknowledgements log).Pairwise
        (fun a b => a.actualTouchedBytes.toNat ≤ b.actualTouchedBytes.toNat) ∧
      ∀ call,
        (∀ acknowledgement, (step s call).2 = .ok (.acknowledged acknowledgement) →
          acknowledgement.integrityIdentity = D.digest (step s call).1.payload ∧
            acknowledgement.actualTouchedBytes.toNat = (step s call).1.payload.length) ∧
        ∀ failure, (step s call).2 = .error failure →
          (acknowledgements log).length < 2 ^ 64 - 1 → (step s call).1 = s := by
  have hstart : Recorded seed [] s₀ := by
    have hsound := startUnallocated_sound h
    unfold ProgressiveWorkerSession.startUnallocated at h
    split at h
    · cases h
    · cases h
      exact ⟨hsound, rfl, rfl, List.Pairwise.nil, fun _ ha => (List.not_mem_nil ha).elim, rfl⟩
  have hrecorded := Machine.transcript_induction step (Recorded seed) hstart
    (fun _ _ call hrec => hrec.step call) calls
  -- the next index is the number of acknowledgements so far
  have hcount := congrArg List.length hrecorded.numbered
  rw [List.length_map, List.length_range] at hcount
  refine ⟨?_, ?_, ?_, hrecorded.growing, fun call => ⟨?_, ?_⟩⟩
  · rw [← hrecorded.seeded]
    exact hrecorded.sound.payload
  · rw [← hrecorded.limit]
    exact hrecorded.sound.bounded
  · rw [hcount]
    exact hrecorded.numbered
  · exact fun _ hr => acknowledged_digest hrecorded.sound hr
  · intro failure hr hfew
    refine failed_unchanged hrecorded.sound ?_ hr
    intro hlast
    have hmax : usizeMax.toNat = 2 ^ 64 - 1 := rfl
    rw [hcount, hlast] at hfew
    omega

end Transcripts

/-! ### A run of a worker -/

/-- A digest that is right about the payloads of up to two bytes. -/
def sampleDigest : Digest UInt8 where
  State := List UInt8
  new := []
  update bytes more := bytes ++ more
  finalize
    | [] => "e3b0c44298fc1c149afbf4c8996fb92427ae41e4649b934ca495991b7852b855"
    | [215] => "414a21e525a759e3ffeb22556be6348a92d5a13e40b61a0805f36f18c2909513"
    | [215, 224] => "ecbc80e7034ca3260a550940aad04bc5896533caafc79d5b054f2125016aa713"
    | _ => ""
  update_nil := List.append_nil
  update_append := List.append_assoc

/-- A level that extends the payload by some bytes. -/
def sampleLevel (levelIndex prior delta : UInt64) : WorkerLevelCommand where
  protocolVersion := pressureWorkerProtocolVersion
  experimentId := "exp"
  runId := "run"
  levelIndex := levelIndex
  seed := 7
  priorTouchedBytes := prior
  requestedDeltaBytes := delta
  targetTouchedBytes := prior + delta
  generatorId := incompressibleGeneratorId
  generatorVersion := syntheticGeneratorVersion

/-- A session in which nothing is allocated. -/
def emptySession (memoryMaxBytes : UInt64) (state : WorkerProtocolState) (nextLevelIndex : UInt64) :
    ProgressiveWorkerSession sampleDigest where
  experimentId := "exp"
  runId := "run"
  seed := 7
  workerPid := 42
  workerStartTicks := 99
  memoryMaxBytes := memoryMaxBytes
  state := state
  nextLevelIndex := nextLevelIndex
  payload := []
  payloadCapacity := 0
  integrityHasher := []
  integrityHashedBytes := 0

/-- A verification and a level of one byte. -/
def firstByte : List Call :=
  [.verifyOwnedScopeAndMemoryMax 4096, .applyLevel (sampleLevel 0 0 1) 1]

/-- The session after them. -/
def afterFirstByte : ProgressiveWorkerSession sampleDigest :=
  Machine.after step (emptySession 0 .startedUnallocated 0) firstByte

/-- After the first byte the second one is acknowledged with the digest of both, and the first
    level is rejected when it comes again. -/
theorem worker_session_second_level :
    (∃ acknowledgement,
      (step afterFirstByte (.applyLevel (sampleLevel 1 1 1) 2)).2 =
          .ok (.acknowledged acknowledgement) ∧
        acknowledgement.actualTouchedBytes.toNat = 2 ∧
        acknowledgement.integrityIdentity = sampleDigest.digest [215, 224]) ∧
      (∃ failure, (step afterFirstByte (.applyLevel (sampleLevel 0 0 1) 2)).2 = .error failure) ∧
      (step afterFirstByte (.applyLevel (sampleLevel 0 0 1) 2)).1 = afterFirstByte := by
  have h := @worker_session_invariant sampleDigest 7 "exp" "run" 42 99
    (emptySession 0 .startedUnallocated 0) rfl firstByte
  obtain ⟨hsecond, -⟩ := h.2.2.2.2 (.applyLevel (sampleLevel 1 1 1) 2)
  obtain ⟨-, hagain⟩ := h.2.2.2.2 (.applyLevel (sampleLevel 0 0 1) 2)
  have hpayload : (step afterFirstByte (.applyLevel (sampleLevel 1 1 1) 2)).1.payload =
      [215, 224] := by decide +kernel
  obtain ⟨acknowledgement, hack⟩ : ∃ acknowledgement,
      (step afterFirstByte (.applyLevel (sampleLevel 1 1 1) 2)).2 =
        .ok (.acknowledged acknowledgement) := ⟨_, rfl⟩
  obtain ⟨hdigest, hsize⟩ := hsecond acknowledgement hack
  refine ⟨⟨acknowledgement, hack, ?_, ?_⟩, ⟨_, rfl⟩, hagain _ rfl (by decide +kernel)⟩
  · rw [hsize]
    exact congrArg List.length hpayload
  · rw [hdigest]
    exact congrArg sampleDigest.digest hpayload

/-! ### Running out of numbers -/

/-- A level that adds nothing. -/
def emptyLevel (levelIndex : UInt64) : WorkerLevelCommand := sampleLevel levelIndex 0 0

theorem emptySession_sound {memoryMaxBytes : UInt64} {state : WorkerProtocolState}
    (hstate : state ≠ .startedUnallocated) (nextLevelIndex : UInt64) :
    (emptySession memoryMaxBytes state nextLevelIndex).Sound :=
  ⟨rfl, Nat.zero_le _, rfl, rfl, fun h => absurd h hstate⟩

theorem emptySession_meetsContract {state : WorkerProtocolState}
    (hstate : state = .scopeAndMemoryMaxVerified ∨ state = .levelAcknowledged ∨ state = .holding)
    (levelIndex : UInt64) :
    (emptySession 4096 state levelIndex).MeetsContract (emptyLevel levelIndex) :=
  ⟨hstate, rfl, rfl, rfl, rfl, rfl, rfl, rfl, rfl, rfl, UInt64.zero_le⟩

/-- The calls that number the levels up to `n`. -/
def emptyLevels (n : ℕ) : List Call :=
  (List.range n).map fun i => .applyLevel (emptyLevel (UInt64.ofNat i)) 0

/-- An empty level moves the session on by one number, from any state that accepts it. -/
theorem step_emptyLevel {state : WorkerProtocolState} {i : ℕ} (hi : i + 1 < 2 ^ 64)
    (hstate : state = .scopeAndMemoryMaxVerified ∨ state = .levelAcknowledged ∨ state = .holding) :
    (step (emptySession 4096 state (UInt64.ofNat i))
      (.applyLevel (emptyLevel (UInt64.ofNat i)) 0)).1 =
      emptySession 4096 .levelAcknowledged (UInt64.ofNat (i + 1)) := by
  have hsound : (emptySession 4096 state (UInt64.ofNat i)).Sound :=
    emptySession_sound (by rcases hstate with rfl | rfl | rfl <;> simp) _
  have hc := emptySession_meetsContract hstate (UInt64.ofNat i)
  have hnext : checkedAdd (UInt64.ofNat i) 1 = some (UInt64.ofNat (i + 1)) := by
    have hsize : UInt64.size = 2 ^ 64 := rfl
    have hlt : i < UInt64.size := by omega
    rw [checkedAdd_eq_some, UInt64.toNat_ofNat_of_lt' hlt, UInt64.toNat_ofNat_of_lt' hi]
    rfl
  obtain ⟨_, heq, happlied⟩ := applyLevel_cases hsound (emptyLevel (UInt64.ofNat i)) 0
  simp only [step, heq]
  cases happlied with
  | rejected hnot => exact absurd hc hnot
  | panicked _ hfull => cases hfull
  | acknowledged _ hreserved hsome =>
    cases hreserved
    cases hsome.symm.trans hnext
    rfl
  | unnumbered _ _ hnone => cases hnone.symm.trans hnext

theorem after_emptyLevels {n : ℕ} (hpos : 0 < n) (hlt : n < 2 ^ 64) :
    Machine.after step (emptySession 4096 .scopeAndMemoryMaxVerified 0) (emptyLevels n) =
      emptySession 4096 .levelAcknowledged (UInt64.ofNat n) := by
  -- the first level comes from the verified state, every other one from an acknowledged level
  induction n with
  | zero => exact absurd hpos (lt_irrefl 0)
  | succ n ih =>
    rw [emptyLevels, List.range_succ, List.map_append, List.map_singleton, Machine.after_snoc]
    rcases Nat.eq_zero_or_pos n with rfl | hn
    · exact step_emptyLevel (i := 0) (by decide) (.inl rfl)
    · have hbefore := ih hn (by omega)
      rw [emptyLevels] at hbefore
      rw [hbefore]
      exact step_emptyLevel hlt (.inr (.inl rfl))

/-- Verification, as many levels as there are numbers, and a hold. -/
def exhaustingCalls : List Call :=
  .verifyOwnedScopeAndMemoryMax 4096 :: emptyLevels (2 ^ 64 - 1) ++ [.beginHold]

/-- The level after them is rejected, and has ended the hold. -/
theorem exhausted_level_ends_hold :
    ProgressiveWorkerSession.startUnallocated sampleDigest "exp" "run" 7 42 99 =
        .ok (emptySession 0 .startedUnallocated 0) ∧
      ∃ message,
        (step (Machine.after step (emptySession 0 .startedUnallocated 0) exhaustingCalls)
            (.applyLevel (emptyLevel usizeMax) 0)).2 = .error (.error message) ∧
          (step (Machine.after step (emptySession 0 .startedUnallocated 0) exhaustingCalls)
            (.applyLevel (emptyLevel usizeMax) 0)).1 ≠
            Machine.after step (emptySession 0 .startedUnallocated 0) exhaustingCalls := by
  have hafter : Machine.after step (emptySession 0 .startedUnallocated 0) exhaustingCalls =
      emptySession 4096 .holding usizeMax := by
    rw [exhaustingCalls, Machine.after_snoc, Machine.after_cons]
    rw [show (step (emptySession 0 .startedUnallocated 0) (.verifyOwnedScopeAndMemoryMax 4096)).1 =
      emptySession 4096 .scopeAndMemoryMaxVerified 0 from rfl]
    rw [after_emptyLevels (by decide) (by decide)]
    rfl
  refine ⟨rfl, ?_⟩
  rw [hafter]
  have hc := emptySession_meetsContract (.inr (.inr rfl)) usizeMax
  have hsound : (emptySession 4096 .holding usizeMax).Sound := emptySession_sound (by decide) _
  obtain ⟨_, heq, happlied⟩ := applyLevel_cases hsound (emptyLevel usizeMax) 0
  simp only [step, heq]
  cases happlied with
  | rejected hnot => exact absurd hc hnot
  | panicked _ hfull => cases hfull
  | acknowledged _ _ hsome =>
    rw [show (emptySession 4096 .holding usizeMax).nextLevelIndex = usizeMax from rfl,
      checkedAdd_one_eq_none.2 rfl] at hsome
    cases hsome
  | unnumbered _ _ _ =>
    -- the session was holding and is not any more
    refine ⟨_, rfl, fun h => ?_⟩
    cases congrArg ProgressiveWorkerSession.state h

end Nemor.Pressure
