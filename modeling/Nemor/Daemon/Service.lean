import Nemor.Daemon.Measurements
import Nemor.Storage.WorkloadReport

/-!
# A run of the daemon

The daemon registers its host, opens a session, samples into it until a signal comes, and closes
it. Every call of the storage may fail, and the first that fails ends the run; the session is then
left open. A run that is killed ends after any of its turns.

- §1: the storage with its log
- §2: the loop with the storage
- §3: from start to end
- §4: what a turn writes
- §5: what a run leaves behind
- §6: what a run can report of the workload
-/

namespace Nemor.Daemon

open MachineNumbers Fallible Expiry
open Classifier (WorkloadStabilizer)
open Storage (TelemetryDatabase TelemetryCall TelemetryReply TelemetryEntry TelemetryTracks
  StorageError BatchStatement RetentionStatement HostStatement CloseStatement)

/-! ## §1 The storage with its log -/

/-- The database, with the calls that were made on it and their answers. -/
structure Ledger where
  db : TelemetryDatabase
  log : List TelemetryEntry

namespace Ledger

/-- An empty database. -/
def fresh : Ledger := ⟨.fresh, []⟩

/-- Make a call and note it with its answer. -/
def issue (l : Ledger) (call : TelemetryCall) : Ledger × Except StorageError TelemetryReply :=
  let (db, answer) := l.db.answer call
  (⟨db, l.log ++ [(call, answer)]⟩, answer)

/-- Calls one after the other, up to the first that fails. -/
def issueAll (l : Ledger) : List TelemetryCall → Ledger × Except StorageError Unit
  | [] => (l, .ok ())
  | call :: calls =>
    match l.issue call with
    | (l, .ok _) => l.issueAll calls
    | (l, .error e) => (l, .error e)

/-- What the tables hold is what the log says. -/
def Tracks (l : Ledger) : Prop := TelemetryTracks l.log l.db

end Ledger

/-! ## §2 The loop with the storage -/

/-- What the service is configured with. -/
structure ServiceConfig where
  loop : LoopConfig
  confirmationSamples : UInt32
  sqliteBatchSize : ℕ
  /-- `validate` has refused a batch size of zero. -/
  sqliteBatchSize_pos : 0 < sqliteBatchSize
  retentionDays : UInt64
  daemonVersion : String
  configHash : String

/-- What a process tick meets, apart from the telemetry tables. -/
structure ProcessVisit where
  timestamp : Except String Int64
  now : ℕ
  processes : Except String (List Classifier.ProcessClassification)
  outcome : Classifier.ClassificationOutcome
  history : Except String (UInt64 × UInt64)
  storePolicy : Except String Bool
  storeAudits : Except String Unit
  /-- What SQLite reports for the statements of each batch. -/
  fault : ℕ → BatchStatement → Option String

/-- A turn of the loop that is not the signal. -/
inductive Visit where
  | system (timestamp : Except String Int64) (sample : Except String Collector.SystemSample)
      (fault : Option String)
  | process (visit : ProcessVisit)
  | retention (now : Except String Int64) (fault : RetentionStatement → Option String)

/-- The loop, the classifier and the database. -/
structure ServiceState where
  loop : LoopState
  stabilizer : WorkloadStabilizer
  ledger : Ledger

/-- Slices of a list, the last of which may be shorter. -/
def chunks {α : Type} (size : ℕ) (hsize : 0 < size) : List α → List (List α)
  | [] => []
  | x :: l => (x :: l).take size :: chunks size hsize ((x :: l).drop size)
termination_by l => l.length
decreasing_by
  rw [List.length_drop, List.length_cons]
  omega

/-- Before this time nothing is kept. An overflow is an error. -/
def retentionCutoff (days : UInt64) (now : Except String Int64) : Except String Int64 := do
  let nowNs ← now
  let retentionNs ← okOr (tryFromNat (days.toNat * 24 * 60 * 60 * 1000000000))
    "retention duration overflows nanoseconds"
  if Int64.minValue.toInt ≤ nowNs.toInt - retentionNs.toInt then return nowNs - retentionNs
  else .error "retention cutoff underflows timestamp"

/-- The batches of a tick, counted from a position. The transition goes with the last one. -/
def batchesFrom (sid : Int64) (fault : ℕ → BatchStatement → Option String)
    (transition : Option Classifier.WorkloadTransition) :
    ℕ → List (List Classifier.ProcessClassification) → List TelemetryCall
  | _, [] => []
  | index, [processes] => [.insertClassificationBatch ⟨sid, processes, transition, fault index⟩]
  | index, processes :: rest =>
    .insertClassificationBatch ⟨sid, processes, none, fault index⟩ ::
      batchesFrom sid fault transition (index + 1) rest

section Service

variable (config : ServiceConfig)

/-- Without processes there is one batch, for the sake of the transition. -/
def slices (processes : List Classifier.ProcessClassification) :
    List (List Classifier.ProcessClassification) :=
  if processes = [] then [[]]
  else chunks config.sqliteBatchSize config.sqliteBatchSize_pos processes

namespace Visit

/-- The tick for the loop, given how the storage answers. -/
def tick (answer : Except StorageError Unit) : Visit → Tick
  | system timestamp sample _ =>
    .system ⟨timestamp, sample.map seen,
      answer.mapError fun _ => "fatal system telemetry storage error"⟩
  | process v =>
    .process
      { timestamp := v.timestamp
        now := v.now
        processes := v.processes.map fun l => l.map processSeen
        outcome := outcomeSeen v.outcome
        history := v.history
        storePolicy := v.storePolicy
        storeAudits := v.storeAudits
        storeClassified := answer.mapError fun _ => "fatal classification storage error" }
  | retention now _ =>
    .retention (retentionCutoff config.retentionDays now >>= fun _ =>
      answer.mapError fun _ => "fatal telemetry retention error")

/-- What is written into the session, if the turn gets that far. -/
def writes (sid : Int64) (transition : Option Classifier.WorkloadTransition) :
    Visit → List TelemetryCall
  | system timestamp sample fault =>
    match timestamp, sample with
    | .ok _, .ok sample => [.insertSystemSample sid sample fault]
    | _, _ => []
  | process v =>
    match v.timestamp, v.processes with
    | .ok _, .ok processes =>
      batchesFrom sid v.fault transition 0 (slices config processes)
    | _, _ => []
  | retention now fault =>
    match retentionCutoff config.retentionDays now with
    | .ok cutoff => [.enforceRetention cutoff fault]
    | .error _ => []

/-- The stabilizer sees the outcomes of the classifications that are due. -/
def observe (s : ServiceState) : Visit →
    WorkloadStabilizer × Option Classifier.WorkloadTransition
  | process v =>
    match v.timestamp, v.processes with
    | .ok timestampNs, .ok _ =>
      if s.loop.nextClassification ≤ v.now ∧ ¬ timestampNs < 0 then
        s.stabilizer.observe ⟨timestampNs, v.outcome⟩
      else (s.stabilizer, none)
    | _, _ => (s.stabilizer, none)
  | _ => (s.stabilizer, none)

end Visit

/-- One turn. The telemetry is written last, if nothing before it has ended the loop. -/
def serve (sid : Int64) (s : ServiceState) (v : Visit) : ServiceState :=
  let (stabilizer, transition) := v.observe s
  let reached := (turn config.loop s.loop (v.tick config (.ok ()))).1.stopped.isNone
  let (ledger, answer) := s.ledger.issueAll (if reached then v.writes config sid transition else [])
  ⟨(turn config.loop s.loop (v.tick config answer)).1, stabilizer, ledger⟩

/-- How far a run has come. -/
inductive Ending where
  | running
  | stopped
  | failed (cause : String)
  deriving DecidableEq

/-- The turns before the signal, and the signal if it has come. -/
def serveAll (sid : Int64) (signal : Option (Except String Unit)) (s : ServiceState) :
    List Visit → ServiceState × Ending
  | [] =>
    (s, match signal with
      | none => .running
      | some (.ok _) => .stopped
      | some (.error _) => .failed "shutdown signal future failed")
  | v :: visits =>
    let s := serve config sid s v
    match s.loop.stopped with
    | some cause => (s, .failed cause)
    | none => serveAll sid signal s visits

/-! ## §3 From start to end -/

/-- Everything that a run meets. -/
structure Life where
  host : Except String Storage.HostMetadata
  registeredAt : String
  hostFault : HostStatement → Option String
  startedAt : String
  openFault : Option String
  visits : List Visit
  signal : Option (Except String Unit)
  endedAt : String
  closeFault : CloseStatement → Option String

/-- A run: what it leaves, the session it has opened and how it has ended. -/
structure Outcome where
  ledger : Ledger
  session : Option Int64
  ending : Ending

/-- Before the first tick. -/
def ServiceState.start (l : Ledger) : ServiceState :=
  ⟨.start config.loop, .new config.confirmationSamples, l⟩

/-- The session, once it is open. -/
def runSession (l : Ledger) (sid : Int64) (life : Life) : Outcome :=
  match serveAll config sid life.signal (.start config l) life.visits with
  | (s, .stopped) =>
    match s.ledger.issue (.closeSession sid true life.endedAt life.closeFault) with
    | (l, .ok _) => ⟨l, some sid, .stopped⟩
    | (l, .error _) => ⟨l, some sid, .failed "cannot close daemon session cleanly"⟩
  -- a loop that has failed leaves the session open
  | (s, ending) => ⟨s.ledger, some sid, ending⟩

/-- One life of the service, from its session to its end. -/
def run (l : Ledger) (life : Life) : Outcome :=
  match life.host with
  | .error _ => ⟨l, none, .failed "cannot collect required host metadata"⟩
  | .ok host =>
    match l.issue (.upsertHost host life.registeredAt life.hostFault) with
    | (l, .ok (.host hostId)) =>
      match l.issue (.openSession (Int64.ofNat hostId) config.daemonVersion config.configHash
          life.startedAt life.openFault) with
      | (l, .ok (.session sid)) => runSession config l sid life
      | (l, _) => ⟨l, none, .failed "cannot open daemon session"⟩
    | (l, _) => ⟨l, none, .failed "cannot register host"⟩

end Service

/-- Runs one after the other, each with its own configuration and after the end of the one before
    it. -/
def runAll (l : Ledger) : List (ServiceConfig × Life) → Ledger
  | [] => l
  | (config, life) :: lives => runAll (run config l life).ledger lives

/-! ## §4 What a turn writes -/

theorem flatten_chunks {α : Type} {size : ℕ} (hsize : 0 < size) (l : List α) :
    (chunks size hsize l).flatten = l := by
  induction l using chunks.induct size hsize with
  | case1 => simp [chunks]
  | case2 x l ih =>
    rw [chunks, List.flatten_cons, ih, List.take_append_drop]

/-- A call on the samples, neither on the hosts nor on the sessions. -/
def OnSamples : TelemetryCall → Prop
  | .insertSystemSample .. | .insertClassificationBatch _ | .enforceRetention .. => True
  | _ => False

/-- Reads of an entry the call alone, and nothing when it has failed. -/
structure Blind {β : Type} (f : TelemetryEntry → List β) : Prop where
  error : ∀ call e, f (call, .error e) = []
  reply : ∀ call reply, f (call, .ok reply) = f (call, .ok .done)

theorem blind_systemEvents (sid : Int64) : Blind (Storage.systemEvents sid) where
  error call e := by cases call <;> rfl
  reply call reply := by cases call <;> rfl

theorem blind_processEvents (sid : Int64) : Blind (Storage.processEvents sid) where
  error call e := by cases call <;> rfl
  reply call reply := by cases call <;> rfl

/-- What some calls have done up to the first that failed. -/
structure Issued (l l' : Ledger) (calls done : List TelemetryCall)
    (answer : Except StorageError Unit) : Prop where
  isPrefix : done <+: calls
  ok : answer = .ok () → done = calls
  error : ∀ e, answer = .error e → done ≠ calls
  tracks : l.Tracks → l'.Tracks
  log : ∃ entries, l'.log = l.log ++ entries ∧ (∀ e ∈ entries, e.1 ∈ calls) ∧
    ∀ {β : Type} (f : TelemetryEntry → List β), Blind f →
      entries.flatMap f = done.flatMap fun call => f (call, .ok .done)

theorem Ledger.tracks_fresh : Ledger.fresh.Tracks := TelemetryTracks.fresh

theorem Ledger.tracks_issue {l : Ledger} (h : l.Tracks) (call : TelemetryCall) :
    (l.issue call).1.Tracks := TelemetryTracks.call h call

theorem issueAll_issued (l : Ledger) (calls : List TelemetryCall) :
    ∃ done, Issued l (l.issueAll calls).1 calls done (l.issueAll calls).2 := by
  induction calls generalizing l with
  | nil =>
    exact ⟨[], List.prefix_rfl, fun _ => rfl, fun e h => (by cases h), id,
      [], by simp [Ledger.issueAll], by simp, fun f _ => rfl⟩
  | cons call calls ih =>
    have hlog : (l.issue call).1.log = l.log ++ [(call, (l.issue call).2)] := rfl
    unfold Ledger.issueAll
    split
    · next l₁ reply hissue =>
      rw [hissue] at hlog
      dsimp only at hlog
      -- the first call has gone through
      obtain ⟨done, h⟩ := ih l₁
      obtain ⟨entries, hentries, hmem, hf⟩ := h.log
      refine ⟨call :: done, ?_, ?_, ?_, ?_, (call, .ok reply) :: entries, ?_, ?_, ?_⟩
      · exact List.cons_prefix_cons.2 ⟨rfl, h.isPrefix⟩
      · exact fun hok => by rw [h.ok hok]
      · exact fun e he heq => h.error e he (List.cons.inj heq).2
      · exact fun ht => h.tracks (by simpa [hissue] using l.tracks_issue ht call)
      · simp [hentries, hlog]
      · exact List.forall_mem_cons.2 ⟨List.mem_cons_self, fun e he =>
          List.mem_cons_of_mem _ (hmem e he)⟩
      · intro β f hblind
        simp [hf f hblind, hblind.reply call reply]
    · next l₁ e hissue =>
      rw [hissue] at hlog
      -- it has failed, and no other call is made
      refine ⟨[], List.nil_prefix, fun h => (by cases h), fun _ _ h => (by cases h), ?_,
        [(call, .error e)], hlog, by simp, ?_⟩
      · exact fun ht => by simpa [hissue] using l.tracks_issue ht call
      · intro β f hblind
        simp [hblind.error]

section Turns

variable {config : ServiceConfig}

namespace Visit

/-- What a turn does to the system samples of its session. -/
def systemEvents (config : ServiceConfig) : Visit → List (Event Collector.SystemSample ℤ)
  | system (.ok _) (.ok sample) _ => [.add sample]
  | retention now _ =>
    match retentionCutoff config.retentionDays now with
    | .ok cutoff => [.expire cutoff.toInt]
    | .error _ => []
  | _ => []

/-- What it does to the process samples. -/
def processEvents (config : ServiceConfig) : Visit → List (Event Classifier.ProcessClassification ℤ)
  | process v =>
    match v.timestamp, v.processes with
    | .ok _, .ok processes => processes.map .add
    | _, _ => []
  | retention now _ =>
    match retentionCutoff config.retentionDays now with
    | .ok cutoff => [.expire cutoff.toInt]
    | .error _ => []
  | _ => []

end Visit

theorem flatten_slices (processes : List Classifier.ProcessClassification) :
    (slices config processes).flatten = processes := by
  unfold slices
  split
  · next h => rw [h]; rfl
  · exact flatten_chunks _ _

/-- Batch by batch, the processes of the slices are written. -/
theorem events_batchesFrom (sid : Int64) (fault : ℕ → BatchStatement → Option String)
    (transition : Option Classifier.WorkloadTransition) (index : ℕ)
    (slices : List (List Classifier.ProcessClassification)) :
    (batchesFrom sid fault transition index slices).map
        (fun call => Storage.processEvents sid (call, .ok .done)) =
      slices.map fun l => l.map .add := by
  induction slices generalizing index with
  | nil => rfl
  | cons processes rest ih =>
    cases rest with
    | nil => simp [batchesFrom, Storage.processEvents]
    | cons next rest =>
      rw [batchesFrom, List.map_cons, ih]
      · simp [Storage.processEvents]
      · exact List.cons_ne_nil _ _

theorem mem_batchesFrom {sid : Int64} {fault : ℕ → BatchStatement → Option String}
    {transition : Option Classifier.WorkloadTransition} {index : ℕ}
    {slices : List (List Classifier.ProcessClassification)} {call : TelemetryCall}
    (h : call ∈ batchesFrom sid fault transition index slices) :
    ∃ batch, call = .insertClassificationBatch batch := by
  induction slices generalizing index with
  | nil => cases h
  | cons processes rest ih =>
    cases rest with
    | nil => exact ⟨_, List.mem_singleton.1 h⟩
    | cons next rest =>
      rcases List.mem_cons.1 h with h | h
      · exact ⟨_, h⟩
      · exact ih h

variable {sid : Int64} {transition : Option Classifier.WorkloadTransition}

theorem Visit.onSamples_writes (v : Visit) :
    ∀ call ∈ v.writes config sid transition, OnSamples call := by
  intro call hcall
  cases v with
  | system timestamp sample fault =>
    cases timestamp <;> cases sample <;> simp [Visit.writes] at hcall
    subst hcall
    trivial
  | process v =>
    simp only [Visit.writes] at hcall
    split at hcall
    · obtain ⟨batch, rfl⟩ := mem_batchesFrom hcall
      trivial
    · cases hcall
  | retention now fault =>
    simp only [Visit.writes] at hcall
    split at hcall
    · rw [List.mem_singleton.1 hcall]
      trivial
    · cases hcall

/-- All the writes of a turn together are its events. -/
theorem Visit.events_writes (v : Visit) :
    (v.writes config sid transition).flatMap
        (fun call => Storage.systemEvents sid (call, .ok .done)) = v.systemEvents config ∧
      ((v.writes config sid transition).map
          fun call => Storage.processEvents sid (call, .ok .done)).flatten =
        v.processEvents config := by
  cases v with
  | system timestamp sample fault =>
    cases timestamp <;> cases sample <;>
      simp [Visit.writes, Visit.systemEvents, Visit.processEvents, Storage.systemEvents,
        Storage.processEvents]
  | process v =>
    simp only [Visit.writes, Visit.systemEvents, Visit.processEvents]
    split
    · refine ⟨List.flatMap_eq_nil_iff.2 fun call hcall => ?_, ?_⟩
      · obtain ⟨batch, rfl⟩ := mem_batchesFrom hcall
        rfl
      · rw [events_batchesFrom, ← List.map_flatten, flatten_slices]
    · exact ⟨rfl, rfl⟩
  | retention now fault =>
    simp only [Visit.writes, Visit.systemEvents, Visit.processEvents]
    split
    · exact ⟨rfl, rfl⟩
    · exact ⟨rfl, rfl⟩

/-- A turn that fails to write has at most written some processes. -/
theorem Visit.events_of_failed {v : Visit} {done : List TelemetryCall}
    (hdone : done <+: v.writes config sid transition)
    (hne : done ≠ v.writes config sid transition) :
    done.flatMap (fun call => Storage.systemEvents sid (call, .ok .done)) = [] ∧
      done.flatMap (fun call => Storage.processEvents sid (call, .ok .done)) <+:
        v.processEvents config := by
  constructor
  · refine List.flatMap_eq_nil_iff.2 fun call hcall => ?_
    -- of a single write nothing is done
    have hsingle {c : TelemetryCall} (hwrites : v.writes config sid transition = [c]) : False := by
      rw [hwrites] at hdone hne
      obtain ⟨c', rest, rfl⟩ := List.exists_cons_of_ne_nil (List.ne_nil_of_mem hcall)
      obtain ⟨rfl, hrest⟩ := List.cons_prefix_cons.1 hdone
      exact hne (by rw [List.prefix_nil.1 hrest])
    have hmem := hdone.subset hcall
    cases v with
    | system timestamp sample fault =>
      cases timestamp with
      | error e => cases hmem
      | ok timestampNs =>
        cases sample with
        | error e => cases hmem
        | ok sample => exact (hsingle rfl).elim
    | process v =>
      simp only [Visit.writes] at hmem
      split at hmem
      · obtain ⟨batch, rfl⟩ := mem_batchesFrom hmem
        rfl
      · cases hmem
    | retention now fault =>
      cases hcutoff : retentionCutoff config.retentionDays now with
      | ok cutoff =>
        have hwrites : Visit.writes config sid transition (.retention now fault) =
            [.enforceRetention cutoff fault] := by
          simp only [Visit.writes, hcutoff]
        exact (hsingle hwrites).elim
      | error e => simp [Visit.writes, hcutoff] at hmem
  · rw [← (@Visit.events_writes config sid transition v).2, List.flatMap]
    exact (hdone.map _).flatten

/-! ### The loop -/

/-- What has come to a session between two moments, and that no session was opened or closed. -/
structure Grown (sid : Int64) (l l' : Ledger) (system : List (Event Collector.SystemSample ℤ))
    (processes : List (Event Classifier.ProcessClassification ℤ)) : Prop where
  tracks : l.Tracks → l'.Tracks
  openings : Storage.openings l'.log = Storage.openings l.log
  closings : Storage.closings l'.log sid = Storage.closings l.log sid
  system : l'.log.flatMap (Storage.systemEvents sid) =
    l.log.flatMap (Storage.systemEvents sid) ++ system
  processes : l'.log.flatMap (Storage.processEvents sid) =
    l.log.flatMap (Storage.processEvents sid) ++ processes

theorem Grown.refl (sid : Int64) (l : Ledger) : Grown sid l l [] [] :=
  ⟨id, rfl, rfl, (List.append_nil _).symm, (List.append_nil _).symm⟩

theorem Grown.trans {sid : Int64} {l l₁ l₂ : Ledger}
    {system system' : List (Event Collector.SystemSample ℤ)}
    {processes processes' : List (Event Classifier.ProcessClassification ℤ)}
    (h : Grown sid l l₁ system processes) (h' : Grown sid l₁ l₂ system' processes') :
    Grown sid l l₂ (system ++ system') (processes ++ processes') where
  tracks ht := h'.tracks (h.tracks ht)
  openings := h'.openings.trans h.openings
  closings := h'.closings.trans h.closings
  system := by rw [h'.system, h.system, List.append_assoc]
  processes := by rw [h'.processes, h.processes, List.append_assoc]

/-- Calls on samples open and close nothing. -/
theorem Issued.grown {l l' : Ledger} {calls done : List TelemetryCall}
    {answer : Except StorageError Unit} (h : Issued l l' calls done answer)
    (hcalls : ∀ call ∈ calls, OnSamples call) (sid : Int64) :
    Grown sid l l' (done.flatMap fun call => Storage.systemEvents sid (call, .ok .done))
      (done.flatMap fun call => Storage.processEvents sid (call, .ok .done)) := by
  obtain ⟨entries, hlog, hmem, hf⟩ := h.log
  have hopening : ∀ e ∈ entries, Storage.opening e = none ∧ Storage.closing sid e = none := by
    intro e he
    have hon := hcalls e.1 (hmem e he)
    obtain ⟨call, answer⟩ := e
    cases call <;> first | exact hon.elim | exact ⟨rfl, rfl⟩
  refine ⟨h.tracks, ?_, ?_, ?_, ?_⟩
  · rw [hlog, Storage.openings, List.filterMap_append,
      List.filterMap_eq_nil_iff.2 fun e he => (hopening e he).1, List.append_nil]
    rfl
  · rw [hlog, Storage.closings, List.filterMap_append,
      List.filterMap_eq_nil_iff.2 fun e he => (hopening e he).2, List.append_nil]
    rfl
  · rw [hlog, List.flatMap_append, hf _ (blind_systemEvents sid)]
  · rw [hlog, List.flatMap_append, hf _ (blind_processEvents sid)]

/-- The classified processes are stored last. -/
theorem onProcessTick_failed {loop : LoopConfig} {s : LoopState} {timestampNs : Int64} {now : ℕ}
    {classified : List ClassifiedProcess} {outcome : ClassificationOutcome}
    {history : Except String (UInt64 × UInt64)} {storePolicy : Except String Bool}
    {storeAudits : Except String Unit} {stored : Unit}
    (hgoes : (onProcessTick loop ⟨.ok timestampNs, now, .ok classified, outcome, history,
      storePolicy, storeAudits, .ok stored⟩ s).1.stopped = none) (cause : String) :
    (onProcessTick loop ⟨.ok timestampNs, now, .ok classified, outcome, history, storePolicy,
      storeAudits, .error cause⟩ s).1.stopped = some cause := by
  -- the classification has not looked at the answer
  have hsame : classify loop ⟨.ok timestampNs, now, .ok classified, outcome, history, storePolicy,
        storeAudits, .error cause⟩ timestampNs classified s =
      classify loop ⟨.ok timestampNs, now, .ok classified, outcome, history, storePolicy,
        storeAudits, .ok stored⟩ timestampNs classified s := rfl
  simp only [onProcessTick] at hgoes ⊢
  rw [hsame]
  generalize classify loop ⟨.ok timestampNs, now, .ok classified, outcome, history, storePolicy,
    storeAudits, .ok stored⟩ timestampNs classified s = out at hgoes ⊢
  obtain ⟨s', evaluation⟩ := out
  cases hstopped : s'.stopped with
  | none => rfl
  | some earlier => simp [hstopped] at hgoes

/-- A loop that would go on ends when the storage fails a write. -/
theorem turn_failed {s : LoopState} {v : Visit} (hgoes : (turn config.loop s
      (v.tick config (.ok ()))).1.stopped = none) {call : TelemetryCall}
    (hcall : call ∈ v.writes config sid transition) (e : StorageError) :
    (turn config.loop s (v.tick config (.error e))).1.stopped ≠ none := by
  cases hstopped : s.stopped with
  | some cause => simp [turn, hstopped] at hgoes
  | none =>
    cases v with
    -- a sample that was taken is stored, and the error of the storage is fatal
    | system timestamp sample fault =>
      cases timestamp with
      | error e => cases hcall
      | ok timestampNs =>
        cases sample with
        | error e => cases hcall
        | ok sample =>
          simp [turn, hstopped, Visit.tick, onSystemTick, Except.map, Except.mapError]
    | process v =>
      simp only [turn, hstopped, Visit.tick, Except.mapError] at hgoes ⊢
      simp only [Visit.writes] at hcall
      split at hcall
      · next timestampNs processes hts hps =>
        have hclassified : v.processes.map (fun l => l.map processSeen) =
            .ok (processes.map processSeen) := by
          rw [hps]
          rfl
        -- nothing before the writing has ended the loop, so the writing does
        rw [hts, hclassified] at hgoes ⊢
        rw [onProcessTick_failed hgoes]
        exact Option.some_ne_none _
      · cases hcall
    | retention now fault =>
      cases hcutoff : retentionCutoff config.retentionDays now with
      | ok cutoff =>
        simp [turn, hstopped, Visit.tick, hcutoff, bind, Except.bind, Except.mapError]
      | error e => simp [Visit.writes, hcutoff] at hcall

/-- What a turn leaves: all its events, or if it ends the loop at most some of its processes. -/
theorem serve_grown (s : ServiceState) (v : Visit) :
    match (serve config sid s v).loop.stopped with
    | none => Grown sid s.ledger (serve config sid s v).ledger (v.systemEvents config)
        (v.processEvents config)
    | some _ => ∃ part, part <+: v.processEvents config ∧
        Grown sid s.ledger (serve config sid s v).ledger [] part := by
  unfold serve
  obtain ⟨stabilizer, transition⟩ := v.observe s
  dsimp only
  cases hgoes : (turn config.loop s.loop (v.tick config (.ok ()))).1.stopped with
  -- the turn ends the loop before anything is written
  | some cause =>
    simp only [Option.isNone_some, Bool.false_eq_true, if_false, Ledger.issueAll, hgoes]
    exact ⟨[], List.nil_prefix, .refl sid s.ledger⟩
  | none =>
    simp only [Option.isNone_none, if_true]
    obtain ⟨done, hissued⟩ := issueAll_issued s.ledger (v.writes config sid transition)
    have hgrown := hissued.grown v.onSamples_writes sid
    cases hanswer : (s.ledger.issueAll (v.writes config sid transition)).2 with
    | ok _ =>
      rw [hissued.ok hanswer] at hgrown
      obtain ⟨hsystem, hprocesses⟩ := @Visit.events_writes config sid transition v
      rw [← List.flatMap_def] at hprocesses
      rw [hsystem, hprocesses] at hgrown
      rw [hgoes]
      exact hgrown
    | error e =>
      -- an answer that is an error leaves out the last call at least
      have hne := hissued.error e hanswer
      obtain ⟨call, hcall⟩ : ∃ call, call ∈ v.writes config sid transition := by
        refine List.exists_mem_of_ne_nil _ fun hnil => hne ?_
        rw [hnil] at hissued ⊢
        exact List.prefix_nil.1 hissued.isPrefix
      obtain ⟨cause, hcause⟩ := Option.ne_none_iff_exists'.1 (turn_failed hgoes hcall e)
      rw [hcause]
      obtain ⟨hsystem, hprefix⟩ := Visit.events_of_failed hissued.isPrefix hne
      rw [hsystem] at hgrown
      exact ⟨_, hprefix, hgrown⟩

/-- What a run of the loop leaves: the events of the turns that it has handled, and of a turn that
    has ended it at most some processes. -/
def Handled (config : ServiceConfig) (sid : Int64) (l l' : Ledger) (visits : List Visit)
    (ending : Ending) : Prop :=
  ∃ handled rest part, visits = handled ++ rest ∧
    part <+: rest.head?.elim [] (Visit.processEvents config) ∧
    ((∀ cause, ending ≠ .failed cause) → rest = []) ∧
    Grown sid l l' (handled.flatMap (Visit.systemEvents config))
      (handled.flatMap (Visit.processEvents config) ++ part)

theorem serveAll_handled (signal : Option (Except String Unit)) (visits : List Visit)
    (s : ServiceState) :
    Handled config sid s.ledger (serveAll config sid signal s visits).1.ledger visits
      (serveAll config sid signal s visits).2 := by
  induction visits generalizing s with
  | nil => exact ⟨[], [], [], rfl, List.nil_prefix, fun _ => rfl, .refl sid s.ledger⟩
  | cons v visits ih =>
    have hturn : match (serve config sid s v).loop.stopped with
      | none => Grown sid s.ledger (serve config sid s v).ledger (v.systemEvents config)
          (v.processEvents config)
      | some _ => ∃ part, part <+: v.processEvents config ∧
          Grown sid s.ledger (serve config sid s v).ledger [] part := serve_grown s v
    unfold serveAll
    dsimp only
    cases hstopped : (serve config sid s v).loop.stopped with
    | some cause =>
      rw [hstopped] at hturn
      obtain ⟨part, hpart, hgrown⟩ := hturn
      exact ⟨[], v :: visits, part, rfl, hpart, fun h => absurd rfl (h cause), hgrown⟩
    | none =>
      rw [hstopped] at hturn
      obtain ⟨handled, rest, part, rfl, hpart, hrest, hgrown⟩ := ih (serve config sid s v)
      refine ⟨v :: handled, rest, part, rfl, hpart, hrest, ?_⟩
      simpa only [List.flatMap_cons, List.append_assoc] using hturn.trans hgrown

end Turns

/-! ## §5 What a run leaves behind -/

section Runs

variable {config : ServiceConfig} {life : Life} {sid : Int64} {l l' : Ledger}

/-- Of a session that was untouched, what has come to it since is there, as far as it was kept. -/
theorem Grown.retained {system : List (Event Collector.SystemSample ℤ)}
    {processes : List (Event Classifier.ProcessClassification ℤ)}
    (h : Grown sid l l' system processes) (hsystem : Storage.retainedSystem l.log sid = [])
    (hprocesses : Storage.retainedProcesses l.log sid = []) :
    Storage.retainedSystem l'.log sid = survivors Storage.systemTime system ∧
      Storage.retainedProcesses l'.log sid = survivors Storage.processTime processes := by
  unfold Storage.retainedSystem Storage.retainedProcesses at *
  rw [h.system, h.processes, survivors_append, survivors_append, hsystem, hprocesses]
  exact ⟨rfl, rfl⟩

/-- A session that was just opened. -/
structure Opened (config : ServiceConfig) (life : Life) (sid : Int64) (l : Ledger) : Prop where
  tracks : l.Tracks
  opening : ∃ hostId, (Storage.openings l.log).getLast? =
    some ⟨sid, hostId, config.daemonVersion, config.configHash, life.startedAt⟩
  closings : Storage.closings l.log sid = []
  system : Storage.retainedSystem l.log sid = []
  processes : Storage.retainedProcesses l.log sid = []

theorem opened_of_issue (h : l.Tracks) {hostId : Int64}
    (hissue : l.issue (.openSession hostId config.daemonVersion config.configHash life.startedAt
      life.openFault) = (l', .ok (.session sid))) : Opened config life sid l' := by
  have heffect := l.db.answer_effect (.openSession hostId config.daemonVersion config.configHash
    life.startedAt life.openFault)
  have htracks := Ledger.tracks_issue h (.openSession hostId config.daemonVersion config.configHash
    life.startedAt life.openFault)
  rw [hissue] at htracks
  unfold Ledger.issue at hissue
  generalize l.db.answer _ = out at hissue heffect
  obtain ⟨db, answer⟩ := out
  cases hissue
  dsimp only at heffect
  cases heffect with
  | opened hid =>
    obtain ⟨hclosings, hsystem, hprocesses⟩ := TelemetryTracks.untouched h hid
    refine ⟨htracks, ⟨hostId, by simp [Storage.opening]⟩, ?_, ?_, ?_⟩
    · simpa [Storage.closing] using hclosings
    · simpa [Storage.retainedSystem, Storage.systemEvents] using hsystem
    · simpa [Storage.retainedProcesses, Storage.processEvents] using hprocesses

/-- How a session is closed by a run. -/
def closedBy (life : Life) (ending : Ending) : Option Storage.Closing :=
  if ending = .stopped then some ⟨life.endedAt, true⟩ else none

/-- What a run has made of its session: its closing, and what is left of the events of the turns
    that were handled, with at most some processes of a turn that failed. -/
structure Ended (config : ServiceConfig) (life : Life) (sid : Int64) (o : Outcome) : Prop where
  tracks : o.ledger.Tracks
  opening : ∃ hostId, (Storage.openings o.ledger.log).getLast? =
    some ⟨sid, hostId, config.daemonVersion, config.configHash, life.startedAt⟩
  closings : (Storage.closings o.ledger.log sid).head? = closedBy life o.ending
  samples : ∃ handled rest part, life.visits = handled ++ rest ∧
    part <+: rest.head?.elim [] (Visit.processEvents config) ∧
    ((∀ cause, o.ending ≠ .failed cause) → rest = []) ∧
    Storage.retainedSystem o.ledger.log sid =
      survivors Storage.systemTime (handled.flatMap (Visit.systemEvents config)) ∧
    Storage.retainedProcesses o.ledger.log sid =
      survivors Storage.processTime (handled.flatMap (Visit.processEvents config) ++ part)

theorem runSession_ended (h : Opened config life sid l) :
    Ended config life sid (runSession config l sid life) := by
  have hhandled := @serveAll_handled config sid life.signal life.visits (.start config l)
  unfold runSession
  generalize serveAll config sid life.signal (.start config l) life.visits = out at hhandled ⊢
  obtain ⟨s, ending⟩ := out
  obtain ⟨handled, rest, part, hvisits, hpart, hrest, hgrown⟩ := hhandled
  replace hgrown : Grown sid l s.ledger (handled.flatMap (Visit.systemEvents config))
    (handled.flatMap (Visit.processEvents config) ++ part) := hgrown
  obtain ⟨hsystem, hprocesses⟩ := hgrown.retained h.system h.processes
  obtain ⟨hostId, hopening⟩ := h.opening
  have htracks := hgrown.tracks h.tracks
  have hclosings : Storage.closings s.ledger.log sid = [] := hgrown.closings.trans h.closings
  dsimp only at hrest ⊢
  -- a loop that has not been stopped leaves the session as it is
  have hopen {ending : Ending} (hne : ending ≠ .stopped)
      (hrest : (∀ cause, ending ≠ .failed cause) → rest = []) :
      Ended config life sid ⟨s.ledger, some sid, ending⟩ :=
    { tracks := htracks
      opening := ⟨hostId, hgrown.openings ▸ hopening⟩
      closings := by
        dsimp only
        rw [hclosings, closedBy, if_neg hne]
        rfl
      samples := ⟨handled, rest, part, hvisits, hpart, hrest, hsystem, hprocesses⟩ }
  cases ending with
  | running => exact hopen (by simp) hrest
  | failed cause => exact hopen (by simp) hrest
  | stopped =>
    have hall : rest = [] := hrest (by simp)
    let call : TelemetryCall := .closeSession sid true life.endedAt life.closeFault
    -- closing touches neither the samples nor the openings
    have hclose {l' : Ledger} {answer : Except StorageError TelemetryReply} {ending : Ending}
        (hissue : s.ledger.issue call = (l', answer))
        (hclosing : Storage.closing sid (call, answer) = closedBy life ending) :
        Ended config life sid ⟨l', some sid, ending⟩ := by
      have htracks' := Ledger.tracks_issue htracks call
      have hlog : (s.ledger.issue call).1.log =
        s.ledger.log ++ [(call, (s.ledger.issue call).2)] := rfl
      rw [hissue] at htracks' hlog
      dsimp only at htracks' hlog
      refine ⟨htracks', ⟨hostId, ?_⟩, ?_, handled, rest, part, hvisits, hpart, fun _ => hall, ?_,
        ?_⟩
      · simpa [hlog, Storage.opening, hgrown.openings, call] using hopening
      · simp [hlog, hclosing, hclosings]
      · simpa [hlog, Storage.retainedSystem, Storage.systemEvents, call] using hsystem
      · simpa [hlog, Storage.retainedProcesses, Storage.processEvents, call] using hprocesses
    dsimp only
    split
    · next l' reply hissue => exact hclose hissue (by simp [Storage.closing, closedBy, call])
    · next l' e hissue => exact hclose hissue (by simp [Storage.closing, closedBy, call])

theorem runSession_session : (runSession config l sid life).session = some sid := by
  unfold runSession
  split
  · split <;> rfl
  · rfl

/-- A run that has opened no session has failed, and the log shows no opening of its own. -/
structure Unopened (l : Ledger) (o : Outcome) : Prop where
  session : o.session = none
  failed : ∃ cause, o.ending = .failed cause
  tracks : o.ledger.Tracks
  openings : Storage.openings o.ledger.log = Storage.openings l.log

/-- The entry of a call that has opened nothing leaves the openings. -/
theorem openings_issue {call : TelemetryCall}
    (hcall : Storage.opening (call, (l.issue call).2) = none) :
    Storage.openings (l.issue call).1.log = Storage.openings l.log := by
  simp only [Ledger.issue] at hcall ⊢
  rw [Storage.openings_snoc, hcall, Option.toList_none, List.append_nil]

/-- A session is opened, or the run has failed before. -/
theorem run_cases (h : l.Tracks) (config : ServiceConfig) (life : Life) :
    Unopened l (run config l life) ∨ ∃ sid, (run config l life).session = some sid ∧
      Ended config life sid (run config l life) := by
  unfold run
  split
  · exact .inl ⟨rfl, ⟨_, rfl⟩, h, rfl⟩
  · next host _ =>
    have htracks := Ledger.tracks_issue h (.upsertHost host life.registeredAt life.hostFault)
    -- registering the host opens nothing
    have hopenings : Storage.openings
        (l.issue (.upsertHost host life.registeredAt life.hostFault)).1.log =
          Storage.openings l.log := openings_issue (by
      cases (l.issue (.upsertHost host life.registeredAt life.hostFault)).2 <;> rfl)
    split
    · next l₁ hostId hissue =>
      rw [hissue] at htracks hopenings
      dsimp only at htracks hopenings
      have htracks₂ := Ledger.tracks_issue htracks (.openSession (Int64.ofNat hostId)
        config.daemonVersion config.configHash life.startedAt life.openFault)
      split
      · next l₂ sid hopen =>
        exact .inr ⟨sid, runSession_session, runSession_ended (opened_of_issue htracks hopen)⟩
      · next l₂ answer hne hopen =>
        rw [hopen] at htracks₂
        -- any other answer to the opening leaves no session
        have hnone : Storage.opening (.openSession (Int64.ofNat hostId) config.daemonVersion
            config.configHash life.startedAt life.openFault, answer) = none := by
          cases answer with
          | error e => rfl
          | ok reply =>
            cases reply with
            | session sid => exact (hne sid rfl).elim
            | host | done | written | deleted => rfl
        refine .inl ⟨rfl, ⟨_, rfl⟩, htracks₂, ?_⟩
        have hkept := @openings_issue l₁ (.openSession (Int64.ofNat hostId) config.daemonVersion
          config.configHash life.startedAt life.openFault) (by rw [hopen]; exact hnone)
        rw [hopen] at hkept
        exact hkept.trans hopenings
    · next l₁ answer hne hissue =>
      rw [hissue] at htracks hopenings
      exact .inl ⟨rfl, ⟨_, rfl⟩, htracks, hopenings⟩

theorem run_tracks (h : l.Tracks) (config : ServiceConfig) (life : Life) :
    (run config l life).ledger.Tracks := by
  rcases run_cases h config life with hnone | ⟨sid, -, hended⟩
  · exact hnone.tracks
  · exact hended.tracks

theorem runAll_tracks (h : l.Tracks) (lives : List (ServiceConfig × Life)) :
    (runAll l lives).Tracks := by
  induction lives generalizing l with
  | nil => exact h
  | cons first lives ih => exact ih (run_tracks h first.1 first.2)

/-- What can be read of a run in the database it leaves. -/
structure Outcome.Accounts (config : ServiceConfig) (before : Ledger) (life : Life) (o : Outcome) :
    Prop where
  /-- Only a run that has failed has no session. -/
  unopened : o.session = none → (∃ cause, o.ending = .failed cause) ∧
    Storage.openings o.ledger.log = Storage.openings before.log
  /-- The session is closed, and then cleanly, exactly when the run was stopped. -/
  status : ∀ sid, o.session = some sid → ∀ path version,
    ∃ report, Storage.inspectStatus path (some ⟨"wal", version, o.ledger.db⟩) = .ok report ∧
      report.state = if o.ending = .stopped then .closedClean else .sessionOpen
  /-- The report is on what the turns have collected, in their order, as far as it was not deleted
      since. A run that has not failed has handled all its turns; a turn that has failed may have
      left the first of its processes. -/
  report : ∀ sid, o.session = some sid → ∃ hostId handled rest part,
    life.visits = handled ++ rest ∧ part <+: rest.head?.elim [] (Visit.processEvents config) ∧
    ((∀ cause, o.ending ≠ .failed cause) → rest = []) ∧
    o.ledger.db.latestTelemetryReport = .ok (Storage.reportOf
      ⟨sid, hostId, config.daemonVersion, config.configHash, life.startedAt⟩
      (closedBy life o.ending)
      (survivors Storage.systemTime (handled.flatMap (Visit.systemEvents config)))
      (survivors Storage.processTime (handled.flatMap (Visit.processEvents config) ++ part)))

end Runs

/-! ## §6 What a run can report of the workload -/

section Workload

/-- Every number of what the classifier explains can be read back. -/
theorem readable_classify {system : Option Classifier.SystemSample}
    {processes : List Classifier.ProcessClassification} {config : Common.ClassificationConfig}
    {pressure : Policy.PressureConfig} (h : ∀ p ∈ processes, UpTo 1 p.confidence)
    {decision : Classifier.WorkloadDecision}
    (hdecision : Classifier.classify system processes config pressure = .classified decision) :
    Storage.WorkloadExplanation.Readable decision.explanation := by
  have hfinite {c : Classifier.Candidate}
      (hc : c ∈ Classifier.candidates system processes config pressure) :
      c.confidence.isFinite = true := by
    obtain ⟨q, hq, -, -⟩ := upTo_candidates h c hc
    rw [hq]
    rfl
  unfold Classifier.classify at hdecision
  dsimp only at hdecision
  split at hdecision
  · next selected hselected =>
    cases hdecision
    obtain ⟨hmem, -⟩ := Classifier.select_some hselected
    intro n hn
    rcases List.mem_append.1 hn with hn | hn
    · rcases List.mem_cons.1 hn with rfl | hn
      · exact hfinite hmem
      · rw [List.mem_singleton.1 hn, Classifier.contribution_candidates hmem]
        exact hfinite hmem
    · -- a candidate that was not selected is a candidate as well
      obtain ⟨rejected, hrejected, rfl⟩ := List.mem_map.1 hn
      obtain ⟨c, hc, rfl⟩ := List.mem_map.1 hrejected
      exact hfinite (List.mem_of_mem_filter hc)
  · cases hdecision

/-- The stabilizer explains a transition as the sample that it reports. -/
theorem explanation_observe {s : WorkloadStabilizer} {x : Classifier.Observation}
    {t : Classifier.WorkloadTransition} (h : (s.observe x).2 = some t) :
    ∃ decision, x.outcome = .classified decision ∧ t.explanation = decision.explanation := by
  unfold WorkloadStabilizer.observe at h
  split at h
  · cases h
  · next decision hdecision =>
    split at h
    · cases h
    · dsimp only at h
      split at h
      · cases h
      · cases h
        exact ⟨decision, hdecision, rfl⟩

/-- The outcome of a visit is what the classifier makes of its processes. -/
def ProcessVisit.Classified (v : ProcessVisit) : Prop :=
  ∀ processes, v.processes = .ok processes → ∃ sha256 samples system config pressure,
    processes = Classifier.classifyAll sha256 samples config ∧
      v.outcome = Classifier.classify system processes config pressure

/-- Every turn on processes goes with their classification. -/
def Visit.Classified (v : Visit) : Prop := ∀ p, v = .process p → p.Classified

theorem Visit.readable_observe {v : Visit} (h : v.Classified) (s : ServiceState) :
    Storage.LastReadable (v.observe s).2 := by
  intro t ht
  cases v with
  | system timestamp sample fault => cases ht
  | retention now fault => cases ht
  | process v =>
    simp only [Visit.observe] at ht
    split at ht
    · next timestampNs processes htimestamp hprocesses =>
      split at ht
      · obtain ⟨decision, hdecision, hexplanation⟩ := explanation_observe ht
        obtain ⟨sha256, samples, system, config, pressure, rfl, houtcome⟩ :=
          h v rfl processes hprocesses
        rw [hexplanation]
        exact readable_classify (upTo_classifyAll sha256 samples config)
          (houtcome.symm.trans hdecision)
      · cases ht
    · cases ht

variable {config : ServiceConfig} {sid : Int64} {transition : Option Classifier.WorkloadTransition}

theorem writesReadable_batchesFrom (h : Storage.LastReadable transition)
    {fault : ℕ → BatchStatement → Option String} {index : ℕ}
    {slices : List (List Classifier.ProcessClassification)} :
    ∀ call ∈ batchesFrom sid fault transition index slices, Storage.WritesReadable call := by
  have hnone : Storage.LastReadable none := fun _ ht => by cases ht
  induction slices generalizing index with
  | nil => exact fun _ hcall => (List.not_mem_nil hcall).elim
  | cons processes rest ih =>
    intro call hcall
    cases rest with
    | nil =>
      rw [List.mem_singleton.1 hcall]
      exact h
    | cons next rest =>
      rcases List.mem_cons.1 hcall with rfl | hcall
      · exact hnone
      · exact ih call hcall

theorem Visit.writesReadable (v : Visit) (h : Storage.LastReadable transition) :
    ∀ call ∈ v.writes config sid transition, Storage.WritesReadable call := by
  cases v with
  | system timestamp sample fault =>
    cases timestamp <;> cases sample <;> simp [Visit.writes, Storage.WritesReadable]
  | process v =>
    simp only [Visit.writes]
    split
    · exact writesReadable_batchesFrom h
    · exact fun _ hcall => (List.not_mem_nil hcall).elim
  | retention now fault =>
    simp only [Visit.writes]
    split <;> simp [Storage.WritesReadable]

/-- All reasons in the tables can be read back. -/
def Ledger.Readable (l : Ledger) : Prop := Storage.EventsReadable l.db

namespace Ledger.Readable

variable {l : Ledger}

theorem issue (h : l.Readable) {call : TelemetryCall} (hcall : Storage.WritesReadable call) :
    (l.issue call).1.Readable := Storage.EventsReadable.answer h hcall

theorem issueAll (h : l.Readable) {calls : List TelemetryCall}
    (hcalls : ∀ call ∈ calls, Storage.WritesReadable call) : (l.issueAll calls).1.Readable := by
  induction calls generalizing l with
  | nil => exact h
  | cons call calls ih =>
    obtain ⟨hcall, hrest⟩ := List.forall_mem_cons.1 hcalls
    have hissue := h.issue hcall
    unfold Ledger.issueAll
    split
    · next l₁ reply heq =>
      rw [heq] at hissue
      exact ih hissue hrest
    · next l₁ e heq =>
      rw [heq] at hissue
      exact hissue

theorem serve {s : ServiceState} (h : s.ledger.Readable) {v : Visit} (hv : v.Classified) :
    (serve config sid s v).ledger.Readable := by
  have htransition := Visit.readable_observe hv s
  unfold Daemon.serve
  dsimp only
  apply h.issueAll
  split
  · exact Visit.writesReadable v htransition
  · exact fun _ hcall => (List.not_mem_nil hcall).elim

theorem serveAll (signal : Option (Except String Unit)) {visits : List Visit}
    (hvisits : ∀ v ∈ visits, v.Classified) {s : ServiceState} (h : s.ledger.Readable) :
    (serveAll config sid signal s visits).1.ledger.Readable := by
  induction visits generalizing s with
  | nil => exact h
  | cons v visits ih =>
    obtain ⟨hv, hrest⟩ := List.forall_mem_cons.1 hvisits
    have hserve : (Daemon.serve config sid s v).ledger.Readable := serve h hv
    unfold Daemon.serveAll
    dsimp only
    split
    · exact hserve
    · exact ih hrest hserve

theorem runSession (h : l.Readable) {life : Life} (hlife : ∀ v ∈ life.visits, v.Classified) :
    (runSession config l sid life).ledger.Readable := by
  have hserved := @serveAll config sid life.signal life.visits hlife (.start config l) h
  unfold Daemon.runSession
  split
  · next s heq =>
    rw [heq] at hserved
    have hclose := @issue s.ledger hserved
      (.closeSession sid true life.endedAt life.closeFault) trivial
    split
    · next l₁ reply heq =>
      rw [heq] at hclose
      exact hclose
    · next l₁ e heq =>
      rw [heq] at hclose
      exact hclose
  · next s ending hne heq =>
    rw [heq] at hserved
    exact hserved

/-- Registering the host and opening and closing the session write no reasons. -/
theorem run (h : l.Readable) {life : Life} (hlife : ∀ v ∈ life.visits, v.Classified) :
    (run config l life).ledger.Readable := by
  unfold Daemon.run
  split
  · exact h
  · next host _ =>
    have hhost := @issue l h (.upsertHost host life.registeredAt life.hostFault) trivial
    split
    · next l₁ hostId heq =>
      rw [heq] at hhost
      have hopen := @issue l₁ hhost (.openSession (Int64.ofNat hostId) config.daemonVersion
        config.configHash life.startedAt life.openFault) trivial
      split
      · next l₂ sid heq =>
        rw [heq] at hopen
        exact hopen.runSession hlife
      · next l₂ answer hne heq =>
        rw [heq] at hopen
        exact hopen
    · next l₁ answer hne heq =>
      rw [heq] at hhost
      exact hhost

theorem runAll (h : l.Readable) {lives : List (ServiceConfig × Life)}
    (hlives : ∀ life ∈ lives, ∀ v ∈ life.2.visits, v.Classified) : (runAll l lives).Readable := by
  induction lives generalizing l with
  | nil => exact h
  | cons first lives ih =>
    obtain ⟨hfirst, hrest⟩ := List.forall_mem_cons.1 hlives
    exact ih (h.run hfirst) hrest

end Ledger.Readable

/-- After any runs of the daemon, with any failures, the workload report fails only when no
    session was opened: what the classifier writes can be read back. -/
theorem workload_report_of_runs (lives : List (ServiceConfig × Life))
    (hlives : ∀ life ∈ lives, ∀ v ∈ life.2.visits, v.Classified)
    (hopened : Storage.openings (runAll .fresh lives).log ≠ []) :
    ∃ report, (runAll .fresh lives).db.latestWorkloadReport = .ok report := by
  have hfresh : Ledger.fresh.Readable := Storage.eventsReadable_fresh
  have hreadable : (runAll .fresh lives).Readable := hfresh.runAll hlives
  obtain ⟨o, ho⟩ := Option.ne_none_iff_exists'.1 (mt List.getLast?_eq_none_iff.1 hopened)
  have hsession := (runAll_tracks Ledger.tracks_fresh lives).sessions.lastSession
  rw [ho] at hsession
  exact hreadable.report hsession

end Workload

end Nemor.Daemon
