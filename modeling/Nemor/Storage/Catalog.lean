import Nemor.Classifier.Process
import Nemor.Classifier.Stabilizer
import Nemor.Lib.Fallible
import Nemor.Lib.Table
import Nemor.Storage.PolicyLog

/-!
# The classification catalog

`insert_classification_batch` merges every classified process into the catalog, stores a
sample that refers to the catalog entry, and records the workload transition if it changes the
class. All of it is one transaction. §3 reads each catalog entry as a summary of all
observations of its identity; §4 does the same for the workload events of a session.
-/

/-! ## §1 Classified processes and tables -/

namespace Nemor.Classifier

open MachineNumbers

/-- What makes two observations the same program: `UNIQUE(executable, command_signature)`. -/
def ProcessClassification.identity (p : ProcessClassification) : String × String :=
  (p.executable, p.commandSignature)

/-- Below one half the category is stored as unknown. -/
def ProcessClassification.persistedCategory (p : ProcessClassification) : ProcessCategory :=
  if F64.le (.finite (1 / 2)) p.confidence then p.category else .unknown

/-- The observation names a category and is sure enough of it. -/
def ProcessClassification.Known (p : ProcessClassification) : Bool :=
  p.category ≠ .unknown && F64.le (.finite (1 / 2)) p.confidence

end Nemor.Classifier

namespace Nemor.Storage

open MachineNumbers Log Classifier
open Policy (WorkloadClass ForegroundState)

/-- The class, as the column holds it. -/
def workloadText : WorkloadClass → String
  | .idle => "idle"
  | .desktop => "desktop"
  | .browserHeavy => "browser_heavy"
  | .development => "development"
  | .gaming => "gaming"
  | .gamingBackgroundHeavy => "gaming_background_heavy"
  | .virtualization => "virtualization"
  | .memoryPressure => "memory_pressure"
  | .criticalPressure => "critical_pressure"

/-- The foreground state, as the column holds it. -/
def foregroundText : ForegroundState → String
  | .foreground => "foreground"
  | .background => "background"
  | .unknown => "unknown"

/-- A row of `process_catalog`: one identity with what was last seen of it. -/
structure CatalogRow where
  executable : String
  commandSignature : String
  applicationName : Option String
  category : String
  isGame : Bool
  isCritical : Bool
  defaultPriority : Int64

/-- The columns that are unique together. -/
def CatalogRow.identity (r : CatalogRow) : String × String := (r.executable, r.commandSignature)

/-- A row of `process_samples`. -/
structure ProcessSampleRow where
  sessionId : Int64
  processCatalogId : ℕ
  timestampNs : Int64
  pid : Int64
  cgroupPath : Option String
  rssBytes : Option Int64
  pssBytes : Option Int64
  ussBytes : Option Int64
  swapBytes : Option Int64
  minorFaults : Option Int64
  majorFaults : Option Int64
  cpuPercent : Option F64
  ioReadBytes : Option Int64
  ioWriteBytes : Option Int64
  foreground : Bool
  foregroundState : String

/-- A row of `workload_events`. The column `reason` holds JSON of the explanation. -/
structure WorkloadEventRow where
  sessionId : Int64
  timestampNs : Int64
  previousClass : Option String
  newClass : String
  confidence : F64
  reason : WorkloadExplanation

/-- When the transition was. -/
def WorkloadEventRow.time (r : WorkloadEventRow) : ℤ := r.timestampNs.toInt

/-- The tables of the transaction, with the sessions their foreign keys refer to. -/
structure CatalogDatabase where
  sessions : Finset Int64
  processCatalog : Table CatalogRow
  processSamples : Table ProcessSampleRow
  workloadEvents : Table WorkloadEventRow

/-- Tables without a row. -/
def CatalogDatabase.fresh (sessions : Finset Int64) : CatalogDatabase :=
  ⟨sessions, .empty, .empty, .empty⟩

/-! ## §2 The transaction -/

/-- The statements of one batch. Those of a process carry its position. -/
inductive BatchStatement where
  | beginImmediate
  | upsertCatalog (index : ℕ)
  | selectCatalogId (index : ℕ)
  | insertSample (index : ℕ)
  | selectLatestEvent
  | insertEvent
  | commit

/-- One call of `insert_classification_batch`, with what SQLite may report for each
    statement. -/
structure BatchCall where
  sessionId : Int64
  processes : List ProcessClassification
  transition : Option WorkloadTransition
  fault : BatchStatement → Option String

/-- A statement that SQLite may fail, under the context the code adds. -/
def BatchCall.statement (call : BatchCall) (s : BatchStatement) (context : String) :
    Except StorageError Unit :=
  match call.fault s with
  | some cause => .error ⟨some context, cause⟩
  | none => .ok ()

/-- SQLite stores a value that is not a number as NULL. -/
def sqlReal : F64 → Option F64
  | .nan => none
  | x => some x

/-- An integer column. What is too large for it is an error. -/
def sqlU64 (value : UInt64) (field : String) : Except StorageError Int64 :=
  match tryFromNat value.toNat with
  | some n => .ok n
  | none => .error ⟨none, "`" ++ field ++ "` exceeds SQLite INTEGER range"⟩

/-- The same for a column that may be null. -/
def sqlOptionalU64 (value : Option UInt64) (field : String) : Except StorageError (Option Int64) :=
  match value with
  | none => .ok none
  | some value => do
    let n ← sqlU64 value field
    return some n

/-- The row a process would have if it were new. -/
def CatalogRow.excluded (p : ProcessClassification) : CatalogRow where
  executable := p.executable
  commandSignature := p.commandSignature
  applicationName := p.applicationName
  category := p.persistedCategory.text
  isGame := p.isGame
  isCritical := p.isCritical
  defaultPriority := 50

/-- `DO UPDATE SET`: a name replaces, a missing one keeps; a known category replaces; the flags
    are never cleared. -/
def CatalogRow.merge (old excluded : CatalogRow) : CatalogRow :=
  { old with
    applicationName := excluded.applicationName.or old.applicationName
    category := if excluded.category ≠ "unknown" then excluded.category else old.category
    isGame := old.isGame || excluded.isGame
    isCritical := old.isCritical || excluded.isCritical }

/-- `INSERT ... ON CONFLICT(executable, command_signature) DO UPDATE`. -/
def upsertCatalog (t : Table CatalogRow) (p : ProcessClassification) : Table CatalogRow :=
  let conflicts : CatalogRow → Bool := fun r => decide (r.identity = p.identity)
  if (t.select conflicts).isEmpty then t.insert (.excluded p)
  else t.modify conflicts fun old => old.merge (.excluded p)

namespace CatalogDatabase

/-- The sample row of a process; the counters must fit into SQLite's integers. -/
def sampleRow (sessionId : Int64) (catalogId : ℕ) (p : ProcessClassification) :
    Except StorageError ProcessSampleRow := do
  let rssBytes ← sqlOptionalU64 p.sample.rssBytes "rss_bytes"
  let pssBytes ← sqlOptionalU64 p.sample.pssBytes "pss_bytes"
  let ussBytes ← sqlOptionalU64 p.sample.ussBytes "uss_bytes"
  let swapBytes ← sqlOptionalU64 p.sample.swapBytes "swap_bytes"
  let minorFaults ← sqlOptionalU64 p.sample.minorFaults "minor_faults"
  let majorFaults ← sqlOptionalU64 p.sample.majorFaults "major_faults"
  let ioReadBytes ← sqlOptionalU64 p.sample.ioReadBytes "io_read_bytes"
  let ioWriteBytes ← sqlOptionalU64 p.sample.ioWriteBytes "io_write_bytes"
  return {
    sessionId := sessionId
    processCatalogId := catalogId
    timestampNs := p.sample.timestampNs
    pid := Int64.ofNat p.sample.pid.toNat
    cgroupPath := p.sample.cgroupPath
    rssBytes := rssBytes
    pssBytes := pssBytes
    ussBytes := ussBytes
    swapBytes := swapBytes
    minorFaults := minorFaults
    majorFaults := majorFaults
    cpuPercent := p.sample.cpuPercent.bind sqlReal
    ioReadBytes := ioReadBytes
    ioWriteBytes := ioWriteBytes
    foreground := p.foreground = .foreground
    foregroundState := foregroundText p.foreground }

/-- One process of the batch. -/
def recordProcess (db : CatalogDatabase) (call : BatchCall) (index : ℕ)
    (p : ProcessClassification) : Except StorageError CatalogDatabase := do
  call.statement (.upsertCatalog index)
    s!"cannot upsert process catalog entry for PID {p.sample.pid.toNat}"
  let catalog := upsertCatalog db.processCatalog p
  call.statement (.selectCatalogId index) "cannot retrieve process catalog entry"
  -- the id comes from a query of its own, not from the upsert
  match catalog.idOf fun r => decide (r.identity = p.identity) with
  | none => .error ⟨some "cannot retrieve process catalog entry", "Query returned no rows"⟩
  | some catalogId => do
    let row ← sampleRow call.sessionId catalogId p
    let context :=
      s!"cannot insert classified process {p.sample.pid.toNat} for session {call.sessionId.toInt}"
    call.statement (.insertSample index) context
    if call.sessionId ∉ db.sessions then
      .error ⟨some context, "FOREIGN KEY constraint failed"⟩
    else
      .ok { db with processCatalog := catalog, processSamples := db.processSamples.insert row }

/-- The samples of a batch, one after the other. -/
def recordProcesses (call : BatchCall) :
    ℕ → CatalogDatabase → List ProcessClassification → Except StorageError CatalogDatabase
  | _, db, [] => .ok db
  | index, db, p :: processes => do
    let db ← db.recordProcess call index p
    recordProcesses call (index + 1) db processes

/-- `SELECT new_class ... ORDER BY timestamp_ns DESC, id DESC LIMIT 1`. -/
def lastClass (db : CatalogDatabase) (sessionId : Int64) : Option String :=
  (db.workloadEvents.latest WorkloadEventRow.time
    fun r => decide (r.sessionId = sessionId)).map WorkloadEventRow.newClass

/-- The row of a transition. -/
def eventRow (sessionId : Int64) (t : WorkloadTransition) : WorkloadEventRow where
  sessionId := sessionId
  timestampNs := t.timestampNs
  previousClass := t.previousClass.map workloadText
  newClass := workloadText t.newClass
  confidence := t.confidence
  reason := t.explanation

/-- The transition, unless the session's last event has its class already. SQLite stores a
    value that is not a number as NULL, which the column does not take. -/
def recordTransition (db : CatalogDatabase) (call : BatchCall) (t : WorkloadTransition) :
    Except StorageError CatalogDatabase := do
  call.statement .selectLatestEvent "cannot inspect latest workload event"
  if db.lastClass call.sessionId ≠ some (workloadText t.newClass) then do
    call.statement .insertEvent "cannot insert workload transition"
    -- a value that is not a number reaches the column as NULL
    if t.confidence = .nan then
      .error ⟨some "cannot insert workload transition",
        "NOT NULL constraint failed: workload_events.confidence"⟩
    else if call.sessionId ∉ db.sessions then
      .error ⟨some "cannot insert workload transition", "FOREIGN KEY constraint failed"⟩
    else
      .ok { db with workloadEvents := db.workloadEvents.insert (eventRow call.sessionId t) }
  else .ok db

/-- `if let Some(transition) = transition`. -/
def recordGivenTransition (db : CatalogDatabase) (call : BatchCall) :
    Except StorageError CatalogDatabase :=
  match call.transition with
  | some t => db.recordTransition call t
  | none => .ok db

/-- What the transaction does up to its commit, on a copy of the tables. -/
def batchTransaction (db : CatalogDatabase) (call : BatchCall) :
    Except StorageError CatalogDatabase := do
  call.statement .beginImmediate
    s!"cannot begin classification batch for session {call.sessionId.toInt}"
  -- every step works on the copy; only the commit makes it the database
  let db ← recordProcesses call 0 db call.processes
  let db ← db.recordGivenTransition call
  call.statement .commit
    s!"cannot commit classification batch for session {call.sessionId.toInt}"
  return db

/-- `insert_classification_batch`: an error drops the transaction, which rolls it back. -/
def insertClassificationBatch (db : CatalogDatabase) (call : BatchCall) :
    CatalogDatabase × Except StorageError ℕ :=
  match db.batchTransaction call with
  | .error e => (db, .error e)
  | .ok db' => (db', .ok call.processes.length)

end CatalogDatabase

/-! ## §3 Entries as summaries -/

/-- The category of the last known observation, `unknown` if there is none. -/
def lastKnown (obs : List ProcessClassification) : ProcessCategory :=
  ((obs.filter ProcessClassification.Known).getLast?.map ProcessClassification.category).getD
    .unknown

/-- The entry is a summary of the observations. -/
structure CatalogRow.Summarizes (row : CatalogRow) (obs : List ProcessClassification) : Prop where
  category : row.category = (lastKnown obs).text
  isGame : row.isGame = obs.any ProcessClassification.isGame
  isCritical : row.isCritical = obs.any ProcessClassification.isCritical
  applicationName : row.applicationName =
    (obs.filterMap ProcessClassification.applicationName).getLast?

theorem persistedCategory_eq (p : ProcessClassification) :
    p.persistedCategory = if p.Known then p.category else .unknown := by
  unfold ProcessClassification.persistedCategory ProcessClassification.Known
  by_cases hc : p.category = .unknown <;> simp [hc]

theorem persistedCategory_eq_unknown (p : ProcessClassification) :
    p.persistedCategory = .unknown ↔ p.Known = false := by
  rw [persistedCategory_eq]
  by_cases hk : p.Known
  · have hc : p.category ≠ .unknown := by
      simp only [ProcessClassification.Known, Bool.and_eq_true, decide_eq_true_eq] at hk
      exact hk.1
    simp [hk, hc]
  · simp [hk]

theorem lastKnown_snoc (obs : List ProcessClassification) (p : ProcessClassification) :
    lastKnown (obs ++ [p]) = if p.Known then p.category else lastKnown obs := by
  unfold lastKnown
  by_cases hk : p.Known <;> simp [List.filter_append, hk]

/-- The first observation. -/
theorem summarizes_excluded (p : ProcessClassification) :
    (CatalogRow.excluded p).Summarizes [p] where
  category := by
    have h := lastKnown_snoc [] p
    rw [List.nil_append] at h
    rw [h]
    exact congrArg ProcessCategory.text (persistedCategory_eq p)
  isGame := by simp [CatalogRow.excluded]
  isCritical := by simp [CatalogRow.excluded]
  applicationName := by
    cases hname : p.applicationName <;> simp [CatalogRow.excluded, hname]

/-- One more observation of the same identity. -/
theorem CatalogRow.Summarizes.merge {row : CatalogRow} {obs : List ProcessClassification}
    (h : row.Summarizes obs) (p : ProcessClassification) :
    (row.merge (.excluded p)).Summarizes (obs ++ [p]) where
  category := by
    show (if p.persistedCategory.text ≠ "unknown" then p.persistedCategory.text
      else row.category) = _
    have hcat := persistedCategory_eq p
    have hunknown : p.persistedCategory.text = "unknown" ↔ p.Known = false :=
      (ProcessCategory.text_injective.eq_iff (b := .unknown)).trans (persistedCategory_eq_unknown p)
    rw [lastKnown_snoc]
    by_cases hk : p.Known
    · -- a known category replaces the old one
      have hne : p.persistedCategory.text ≠ "unknown" := fun heq => by simp [hunknown.1 heq] at hk
      rw [if_pos hne, hcat, if_pos hk, if_pos hk]
    · -- an unknown one keeps it
      have heq : p.persistedCategory.text = "unknown" := hunknown.2 (by simpa using hk)
      rw [if_neg (not_not.2 heq), if_neg hk]
      exact h.category
  isGame := by
    show (row.isGame || p.isGame) = _
    simp [h.isGame]
  isCritical := by
    show (row.isCritical || p.isCritical) = _
    simp [h.isCritical]
  applicationName := by
    show p.applicationName.or row.applicationName = _
    cases hname : p.applicationName <;> simp [h.applicationName, hname]

/-- The observations of one identity. -/
def observationsOf (k : String × String) (obs : List ProcessClassification) :
    List ProcessClassification :=
  obs.filter fun p => decide (p.identity = k)

/-- The entries of one identity: none before its first observation, one from then on. -/
def CatalogTracks (t : Table CatalogRow) (obs : List ProcessClassification) : Prop :=
  ∀ k, (observationsOf k obs = [] ∧ t.select (fun r => decide (r.identity = k)) = []) ∨
    (observationsOf k obs ≠ [] ∧ ∃ row, t.select (fun r => decide (r.identity = k)) = [row] ∧
      row.Summarizes (observationsOf k obs))

theorem catalogTracks_empty : CatalogTracks .empty [] := fun _ => .inl ⟨rfl, rfl⟩

theorem observationsOf_snoc (k : String × String) (obs : List ProcessClassification)
    (p : ProcessClassification) :
    observationsOf k (obs ++ [p]) =
      observationsOf k obs ++ if p.identity = k then [p] else [] := by
  unfold observationsOf
  by_cases hk : p.identity = k <;> simp [List.filter_append, hk]

/-- The upsert leaves every other identity alone. -/
theorem select_upsertCatalog_other {t : Table CatalogRow} {p : ProcessClassification}
    {k : String × String} (hk : p.identity ≠ k) :
    (upsertCatalog t p).select (fun r => decide (r.identity = k)) =
      t.select (fun r => decide (r.identity = k)) := by
  unfold upsertCatalog
  dsimp only
  split
  · rw [Table.select_insert, if_neg, List.append_nil]
    have hk' : (CatalogRow.excluded p).identity ≠ k := hk
    simp [hk']
  · apply Table.select_modify_other
    intro r hr
    simp only [decide_eq_true_eq] at hr
    have hmerge : (r.merge (.excluded p)).identity = r.identity := rfl
    simp [hmerge, hr, hk]

/-- The upsert of a new identity inserts, that of an old one merges. -/
theorem select_upsertCatalog_same (t : Table CatalogRow) (p : ProcessClassification) :
    (upsertCatalog t p).select (fun r => decide (r.identity = p.identity)) =
      if t.select (fun r => decide (r.identity = p.identity)) = [] then [.excluded p]
      else (t.select fun r => decide (r.identity = p.identity)).map fun r =>
        r.merge (.excluded p) := by
  unfold upsertCatalog
  dsimp only
  by_cases hnew : t.select (fun r => decide (r.identity = p.identity)) = []
  · have hp : (CatalogRow.excluded p).identity = p.identity := rfl
    rw [if_pos (by rw [hnew]; rfl), if_pos hnew, Table.select_insert, hnew]
    simp [hp]
  · rw [if_neg (by simpa using hnew), if_neg hnew, Table.select_modify]
    · apply List.map_congr_left
      intro r hr
      rw [if_pos (List.mem_filter.1 hr).2]
    · intro r _
      rfl

theorem CatalogTracks.upsert {t : Table CatalogRow} {obs : List ProcessClassification}
    (h : CatalogTracks t obs) (p : ProcessClassification) :
    CatalogTracks (upsertCatalog t p) (obs ++ [p]) := by
  intro k
  by_cases hk : p.identity = k
  · subst hk
    rw [select_upsertCatalog_same, observationsOf_snoc, if_pos rfl]
    right
    rcases h p.identity with ⟨hobs, hrows⟩ | ⟨-, row, hrows, hsum⟩
    · -- the first observation of the identity inserts its row
      rw [hobs, if_pos hrows]
      exact ⟨by simp, _, rfl, summarizes_excluded p⟩
    · -- a later one merges into the only row
      rw [if_neg (by simp [hrows]), hrows]
      exact ⟨by simp, _, rfl, hsum.merge p⟩
  · rw [select_upsertCatalog_other hk, observationsOf_snoc, if_neg hk, List.append_nil]
    exact h k

/-- Every entry is the summary of its identity's observations. -/
theorem CatalogTracks.summarizes {t : Table CatalogRow} {obs : List ProcessClassification}
    (h : CatalogTracks t obs) {r : ℕ × CatalogRow} (hr : r ∈ t.rows) :
    r.2.Summarizes (observationsOf r.2.identity obs) := by
  have hmem : r.2 ∈ t.select fun x => decide (x.identity = r.2.identity) :=
    Table.mem_select.2 ⟨⟨r.1, hr⟩, by simp⟩
  rcases h r.2.identity with ⟨-, hrows⟩ | ⟨-, row, hrows, hsum⟩
  · rw [hrows] at hmem
    simp at hmem
  · rw [hrows, List.mem_singleton] at hmem
    rw [hmem] at hsum ⊢
    exact hsum

/-- An identity has one entry once it is observed, and none before. -/
theorem CatalogTracks.length {t : Table CatalogRow} {obs : List ProcessClassification}
    (h : CatalogTracks t obs) (k : String × String) :
    (t.select fun r => decide (r.identity = k)).length =
      if observationsOf k obs = [] then 0 else 1 := by
  rcases h k with ⟨hobs, hrows⟩ | ⟨hobs, row, hrows, -⟩
  · rw [hrows, if_pos hobs]
    rfl
  · rw [hrows, if_neg hobs]
    rfl

/-! ### The statements of a batch -/

namespace CatalogDatabase

open Fallible

theorem recordProcess_ok {db db' : CatalogDatabase} {call : BatchCall} {index : ℕ}
    {p : ProcessClassification} (h : db.recordProcess call index p = .ok db') :
    db'.processCatalog = upsertCatalog db.processCatalog p ∧
      db'.workloadEvents = db.workloadEvents := by
  obtain ⟨-, -, h⟩ := bind_eq_ok.1 h
  obtain ⟨-, -, h⟩ := bind_eq_ok.1 h
  split at h
  · cases h
  · obtain ⟨row, -, h⟩ := bind_eq_ok.1 h
    obtain ⟨-, -, h⟩ := bind_eq_ok.1 h
    obtain ⟨-, h⟩ := ite_error_eq_ok.1 h
    cases h
    exact ⟨rfl, rfl⟩

theorem recordProcesses_ok {call : BatchCall} {processes : List ProcessClassification}
    {index : ℕ} {db db' : CatalogDatabase}
    (h : recordProcesses call index db processes = .ok db') :
    db'.processCatalog = processes.foldl upsertCatalog db.processCatalog ∧
      db'.workloadEvents = db.workloadEvents := by
  induction processes generalizing index db with
  | nil =>
    cases h
    exact ⟨rfl, rfl⟩
  | cons p processes ih =>
    obtain ⟨db₁, hp, h⟩ := bind_eq_ok.1 h
    obtain ⟨hcatalog, hevents⟩ := recordProcess_ok hp
    obtain ⟨hcatalog', hevents'⟩ := ih h
    rw [hcatalog', hevents', hcatalog, hevents]
    exact ⟨rfl, rfl⟩

/-- A transition is left out because its class is the last one, or it is stored. -/
theorem recordTransition_ok {db db' : CatalogDatabase} {call : BatchCall}
    {t : WorkloadTransition} (h : db.recordTransition call t = .ok db') :
    db' = db ∨ (db.lastClass call.sessionId ≠ some (workloadText t.newClass) ∧
      db' = { db with workloadEvents := db.workloadEvents.insert (eventRow call.sessionId t) }) := by
  obtain ⟨-, -, h⟩ := bind_eq_ok.1 h
  split at h
  · next hnew =>
    obtain ⟨-, -, h⟩ := bind_eq_ok.1 h
    obtain ⟨-, h⟩ := ite_error_eq_ok.1 h
    obtain ⟨-, h⟩ := ite_error_eq_ok.1 h
    cases h
    exact .inr ⟨hnew, rfl⟩
  · cases h
    exact .inl rfl

/-- What a committed batch has done. -/
theorem batchTransaction_ok {db db' : CatalogDatabase} {call : BatchCall}
    (h : db.batchTransaction call = .ok db') :
    db'.processCatalog = call.processes.foldl upsertCatalog db.processCatalog ∧
      (db'.workloadEvents = db.workloadEvents ∨
        ∃ t, call.transition = some t ∧
          db.lastClass call.sessionId ≠ some (workloadText t.newClass) ∧
          db'.workloadEvents = db.workloadEvents.insert (eventRow call.sessionId t)) := by
  obtain ⟨-, -, h⟩ := bind_eq_ok.1 h
  obtain ⟨db₁, hprocesses, h⟩ := bind_eq_ok.1 h
  obtain ⟨db₂, htransition, h⟩ := bind_eq_ok.1 h
  obtain ⟨-, -, h⟩ := bind_eq_ok.1 h
  cases h
  obtain ⟨hcatalog, hevents⟩ := recordProcesses_ok hprocesses
  unfold recordGivenTransition at htransition
  split at htransition
  · next t ht =>
    rcases recordTransition_ok htransition with rfl | ⟨hnew, rfl⟩
    · exact ⟨hcatalog, .inl hevents⟩
    · -- the comparison read the events after the processes, which do not touch them
      have hlast : db₁.lastClass call.sessionId = db.lastClass call.sessionId := by
        rw [lastClass, hevents, lastClass]
      refine ⟨hcatalog, .inr ⟨t, ht, hlast ▸ hnew, ?_⟩⟩
      rw [hevents]
  · cases htransition
    exact ⟨hcatalog, .inl hevents⟩

/-- A batch fails and changes nothing, or it is committed. -/
theorem insertClassificationBatch_cases (db : CatalogDatabase) (call : BatchCall) :
    (∃ e, db.insertClassificationBatch call = (db, .error e)) ∨
      ∃ db', db.batchTransaction call = .ok db' ∧
        db.insertClassificationBatch call = (db', .ok call.processes.length) := by
  unfold insertClassificationBatch
  cases db.batchTransaction call with
  | error e => exact .inl ⟨e, rfl⟩
  | ok db' => exact .inr ⟨db', rfl, rfl⟩

end CatalogDatabase

/-! ## §4 Whole runs -/

/-- The batches with their results. -/
abbrev BatchTranscript := List (BatchCall × Except StorageError ℕ)

/-- The observations of the batches that were committed. -/
def observations (log : BatchTranscript) : List ProcessClassification :=
  log.flatMap fun e => if e.2.toBool then e.1.processes else []

/-- The transitions of the session never go back in time. -/
def TransitionsInOrder (sid : Int64) (a b : BatchCall) : Prop :=
  a.sessionId = sid → b.sessionId = sid → ∀ s ∈ a.transition, ∀ t ∈ b.transition,
    s.timestampNs.toInt ≤ t.timestampNs.toInt

/-- The events of a session. -/
def CatalogDatabase.eventsOf (db : CatalogDatabase) (sid : Int64) : List WorkloadEventRow :=
  db.workloadEvents.select fun r => decide (r.sessionId = sid)

/-- What the event table says about the calls of a session. -/
structure EventsTrack (sid : Int64) (log : BatchTranscript) (db : CatalogDatabase) : Prop where
  source : ∀ r ∈ db.eventsOf sid, ∃ e ∈ log, e.1.sessionId = sid ∧
    ∃ t ∈ e.1.transition, t.timestampNs = r.timestampNs
  ordered : (db.eventsOf sid).Pairwise fun a b => a.time ≤ b.time
  changes : (db.eventsOf sid).IsChain fun a b => a.newClass ≠ b.newClass

theorem EventsTrack.grow {sid : Int64} {log : BatchTranscript} {db db' : CatalogDatabase}
    (h : EventsTrack sid log db) (e : BatchCall × Except StorageError ℕ)
    (hsame : db'.eventsOf sid = db.eventsOf sid) : EventsTrack sid (log ++ [e]) db' := by
  refine ⟨?_, ?_, ?_⟩
  · rw [hsame]
    intro r hr
    obtain ⟨a, ha, hrest⟩ := h.source r hr
    exact ⟨a, by simp [ha], hrest⟩
  · rw [hsame]
    exact h.ordered
  · rw [hsame]
    exact h.changes

/-- A stored transition is not older than the events before it and changes the class. -/
theorem EventsTrack.insert {sid : Int64} {log : BatchTranscript} {db db' : CatalogDatabase}
    (h : EventsTrack sid log db) {call : BatchCall} (answer : Except StorageError ℕ)
    (hsid : call.sessionId = sid) (horder : ∀ e ∈ log, TransitionsInOrder sid e.1 call)
    {t : WorkloadTransition} (ht : call.transition = some t)
    (hnew : db.lastClass sid ≠ some (workloadText t.newClass))
    (hdb : db'.workloadEvents = db.workloadEvents.insert (CatalogDatabase.eventRow sid t)) :
    EventsTrack sid (log ++ [(call, answer)]) db' := by
  have hrows : db'.eventsOf sid = db.eventsOf sid ++ [CatalogDatabase.eventRow sid t] := by
    rw [CatalogDatabase.eventsOf, hdb, Table.select_insert, CatalogDatabase.eventsOf]
    simp [CatalogDatabase.eventRow]
  have hle : ∀ r ∈ db.eventsOf sid, r.time ≤ (CatalogDatabase.eventRow sid t).time := by
    intro r hr
    obtain ⟨e, he, hes, s, hs, hsr⟩ := h.source r hr
    have hst := horder e he hes hsid s hs t (by simp [ht])
    rw [hsr] at hst
    exact hst
  -- in time order, the newest event is the last one inserted
  have hlast : db.lastClass sid = (db.eventsOf sid).getLast?.map WorkloadEventRow.newClass :=
    congrArg _ (Table.latest_eq_getLast? h.ordered)
  refine ⟨?_, ?_, ?_⟩
  · rw [hrows]
    intro r hr
    rcases List.mem_append.1 hr with hr | hr
    · obtain ⟨a, ha, hrest⟩ := h.source r hr
      exact ⟨a, by simp [ha], hrest⟩
    · rw [List.mem_singleton.1 hr]
      exact ⟨(call, answer), by simp, hsid, t, by simp [ht], rfl⟩
  · rw [hrows]
    refine List.pairwise_append.2 ⟨h.ordered, List.pairwise_singleton _ _, ?_⟩
    intro a ha b hb
    rw [List.mem_singleton.1 hb]
    exact hle a ha
  · rw [hrows]
    refine List.isChain_append.2 ⟨h.changes, List.isChain_singleton _, ?_⟩
    intro a ha b hb heq
    simp only [List.head?_cons, Option.mem_def, Option.some.injEq] at hb
    subst hb
    apply hnew
    rw [hlast, ha, Option.map_some, heq]
    rfl

theorem foldl_tracks {t : Table CatalogRow} {obs : List ProcessClassification}
    (h : CatalogTracks t obs) (processes : List ProcessClassification) :
    CatalogTracks (processes.foldl upsertCatalog t) (obs ++ processes) := by
  induction processes generalizing t obs with
  | nil => simpa using h
  | cons p processes ih =>
    have hstep := ih (h.upsert p)
    rw [List.append_assoc] at hstep
    exact hstep

/-- The whole state of the tables against the calls so far. -/
structure CatalogInvariant (sid : Int64) (log : BatchTranscript) (db : CatalogDatabase) :
    Prop where
  catalog : CatalogTracks db.processCatalog (observations log)
  events : EventsTrack sid log db

theorem catalogInvariant_fresh (sid : Int64) (sessions : Finset Int64) :
    CatalogInvariant sid [] (.fresh sessions) where
  catalog := catalogTracks_empty
  events :=
    { source := by simp [CatalogDatabase.eventsOf, CatalogDatabase.fresh]
      ordered := List.Pairwise.nil
      changes := List.IsChain.nil }

/-- One batch keeps the tables and the history together. -/
theorem CatalogInvariant.call {sid : Int64} {log : BatchTranscript} {db : CatalogDatabase}
    (h : CatalogInvariant sid log db) (call : BatchCall)
    (horder : ∀ e ∈ log, TransitionsInOrder sid e.1 call) :
    CatalogInvariant sid (log ++ [(call, (db.insertClassificationBatch call).2)])
      (db.insertClassificationBatch call).1 := by
  rcases db.insertClassificationBatch_cases call with ⟨err, heq⟩ | ⟨db', hok, heq⟩
  · -- rolled back: its observations do not count
    rw [heq]
    refine ⟨?_, h.events.grow _ rfl⟩
    have hobs : observations (log ++ [(call, .error err)]) = observations log := by
      simp [observations, Except.toBool]
    rw [hobs]
    exact h.catalog
  · -- committed: all observations count, and at most one event is new
    rw [heq]
    obtain ⟨hcatalog, hevents⟩ := CatalogDatabase.batchTransaction_ok hok
    refine ⟨?_, ?_⟩
    · have hobs : observations (log ++ [(call, .ok call.processes.length)]) =
          observations log ++ call.processes := by
        simp [observations, Except.toBool]
      rw [hobs, hcatalog]
      exact foldl_tracks h.catalog call.processes
    · rcases hevents with hsame | ⟨t, ht, hnew, hins⟩
      · apply h.events.grow
        rw [CatalogDatabase.eventsOf, hsame, CatalogDatabase.eventsOf]
      · by_cases hsid : call.sessionId = sid
        · subst hsid
          exact h.events.insert _ rfl horder ht hnew hins
        · apply h.events.grow
          rw [CatalogDatabase.eventsOf, hins, Table.select_insert, CatalogDatabase.eventsOf]
          simp [CatalogDatabase.eventRow, hsid]

/-- The batches of a sequence of calls. -/
def batchTranscript (sessions : Finset Int64) (calls : List BatchCall) : BatchTranscript :=
  Machine.transcript CatalogDatabase.insertClassificationBatch (.fresh sessions) calls

/-- The tables after a sequence of calls. -/
def catalogDatabaseAfter (sessions : Finset Int64) (calls : List BatchCall) : CatalogDatabase :=
  Machine.after CatalogDatabase.insertClassificationBatch (.fresh sessions) calls

theorem catalogInvariant_after (sid : Int64) (sessions : Finset Int64) (calls : List BatchCall)
    (horder : calls.Pairwise (TransitionsInOrder sid)) :
    CatalogInvariant sid (batchTranscript sessions calls)
      (catalogDatabaseAfter sessions calls) := by
  apply Machine.transcript_induction_pairwise CatalogDatabase.insertClassificationBatch
    (TransitionsInOrder sid) (CatalogInvariant sid) (catalogInvariant_fresh sid sessions) _ horder
  intro log db call hnew hlog
  exact hlog.call call hnew

/-- **The catalog.** Batches may be made for any sessions and may fail. Every identity that was
    observed has one catalog entry and no other has any. An entry has the category of the last
    observation of its identity that was known with a confidence of one half or more, and
    `unknown` if there was none; its flags are those of all its observations together. The events
    of a session whose transitions never go back in time are in their order and no two in a row
    have one class. A batch that fails changes no table. -/
theorem catalog_summarizes_observations (sid : Int64) (sessions : Finset Int64)
    (calls : List BatchCall) (horder : calls.Pairwise (TransitionsInOrder sid)) :
    (∀ k, ((catalogDatabaseAfter sessions calls).processCatalog.select
        fun r => decide (r.identity = k)).length =
          if observationsOf k (observations (batchTranscript sessions calls)) = [] then 0
          else 1) ∧
      (∀ r ∈ (catalogDatabaseAfter sessions calls).processCatalog.rows,
        r.2.Summarizes
          (observationsOf r.2.identity (observations (batchTranscript sessions calls)))) ∧
      ((catalogDatabaseAfter sessions calls).eventsOf sid).Pairwise
        (fun a b => a.time ≤ b.time) ∧
      ((catalogDatabaseAfter sessions calls).eventsOf sid).IsChain
        (fun a b => a.newClass ≠ b.newClass) ∧
      ∀ call e, ((catalogDatabaseAfter sessions calls).insertClassificationBatch call).2 =
          .error e →
        ((catalogDatabaseAfter sessions calls).insertClassificationBatch call).1 =
          catalogDatabaseAfter sessions calls := by
  have hinv := catalogInvariant_after sid sessions calls horder
  refine ⟨hinv.catalog.length, fun r hr => hinv.catalog.summarizes hr, hinv.events.ordered,
    hinv.events.changes, ?_⟩
  intro call e he
  rcases (catalogDatabaseAfter sessions calls).insertClassificationBatch_cases call with
    ⟨err, heq⟩ | ⟨db', -, heq⟩
  · rw [heq]
  · rw [heq] at he
    cases he

/-- A batch of the first session with one process, of a category and a confidence. -/
def observedOnce (timestampNs : Int64) (category : ProcessCategory) (confidence : ℚ) :
    BatchCall where
  sessionId := 1
  processes :=
    [{ sample := { blankSample with timestampNs := timestampNs, pid := 10, rssBytes := some 4096 }
       executable := "/usr/bin/firefox"
       commandSignature := "firefox"
       applicationName := none
       category := category
       isGame := false
       isCritical := false
       isProtected := true
       protectedGame := false
       coldCandidate := false
       foreground := .unknown
       foregroundConfidence := .finite 0
       confidence := .finite confidence
       reasons := [] }]
  transition := none
  fault := fun _ => none

/-- A known category stays when the program is later seen as unknown. -/
theorem catalog_keeps_known_category :
    (catalogDatabaseAfter {1} [observedOnce 1 .browser (9 / 10),
        observedOnce 2 .unknown (9 / 10)]).processCatalog.rows.map (fun r => r.2.category) =
      ["browser"] ∧
    ∀ r ∈ (catalogDatabaseAfter {1} [observedOnce 1 .browser (9 / 10),
        observedOnce 2 .unknown (9 / 10)]).processCatalog.rows,
      r.2.Summarizes (observationsOf r.2.identity (observations (batchTranscript {1}
        [observedOnce 1 .browser (9 / 10), observedOnce 2 .unknown (9 / 10)]))) :=
  ⟨by decide +kernel, (catalog_summarizes_observations 1 _ _
    (by simp [TransitionsInOrder, observedOnce])).2.1⟩

/-- The category of the last known observation, that of the first one if there is none. -/
def lastKnownOrFirst (obs : List ProcessClassification) : Option ProcessCategory :=
  ((obs.filter ProcessClassification.Known).getLast?.map ProcessClassification.category).or
    (obs.head?.map ProcessClassification.category)

/-- A browser seen once with little confidence is in the catalog as unknown. -/
theorem catalog_forgets_uncertain_category :
    [observedOnce 1 .browser (3 / 10)].Pairwise (TransitionsInOrder 1) ∧
      ¬ ∀ r ∈ (catalogDatabaseAfter {1} [observedOnce 1 .browser (3 / 10)]).processCatalog.rows,
        some r.2.category = (lastKnownOrFirst (observationsOf r.2.identity (observations
          (batchTranscript {1} [observedOnce 1 .browser (3 / 10)])))).map
            ProcessCategory.text := by
  exact ⟨List.pairwise_singleton _ _, by decide +kernel⟩

end Nemor.Storage
