import Nemor.Collector.SystemSample
import Nemor.Storage.Catalog

/-!
# The telemetry database

The daemon registers its host, opens a session, writes samples into it, deletes what is too old
and closes the session. Any call may fail, and other daemons may have sessions of their own. §3
says once what a call can do to the tables.
-/

namespace Nemor.Storage

open MachineNumbers Fallible Collector

/-! ## §1 Tables -/

/-- What the daemon knows of its host. -/
structure HostMetadata where
  machineId : String
  hostname : String
  distro : String
  distroVersion : Option String
  kernelVersion : String
  cpuModel : Option String
  cpuCores : Option UInt32
  ramTotalBytes : UInt64
  swapTotalBytes : UInt64
  gpuModel : Option String
  storageModel : Option String

/-- A row of `hosts`. -/
structure HostRow where
  machineId : String
  hostname : String
  distro : String
  distroVersion : Option String
  kernelVersion : String
  cpuModel : Option String
  cpuCores : Option UInt32
  ramTotalBytes : Int64
  swapTotalBytes : Int64
  gpuModel : Option String
  storageModel : Option String
  createdAt : String
  updatedAt : String

/-- A session; its id is among its columns because closing looks for it. -/
structure SessionRow where
  id : Int64
  hostId : Int64
  mode : String
  daemonVersion : String
  configHash : String
  startedAt : String
  endedAt : Option String
  cleanShutdown : Bool
  deriving DecidableEq

/-- A row of `system_samples`. The JSON columns are the values they encode. -/
structure SystemSampleRow where
  sessionId : Int64
  timestampNs : Int64
  memTotalBytes : Int64
  memAvailableBytes : Int64
  anonBytes : Option Int64
  fileCacheBytes : Option Int64
  slabBytes : Option Int64
  swapUsedBytes : Option Int64
  swapInPages : Option Int64
  swapOutPages : Option Int64
  majorFaults : Option Int64
  minorFaults : Option Int64
  pgscan : Option Int64
  pgsteal : Option Int64
  workingsetRefault : Option Int64
  psiMemorySomeAvg10 : Option F64
  psiMemoryFullAvg10 : Option F64
  psiIoSomeAvg10 : Option F64
  zramOrigBytes : Option Int64
  zramCompressedBytes : Option Int64
  zswapStoredPages : Option Int64
  zswapPoolBytes : Option Int64
  psiCpuSomeAvg10 : Option F64
  psiCpuFullAvg10 : Option F64
  swapConfiguration : String
  swapEntriesJson : List Swaps.SwapEntry
  zramPresent : Bool
  zramMemoryUsedBytes : Option Int64
  zramDevicesJson : List ZramDevice
  zswapPresent : Bool
  zswapEnabled : Option Bool
  capabilitiesUnavailableJson : List String

/-- The tables of the telemetry. Those of the catalogue are part of them. -/
structure TelemetryDatabase where
  hosts : Table HostRow
  sessions : Table SessionRow
  systemSamples : Table SystemSampleRow
  processCatalog : Table CatalogRow
  processSamples : Table ProcessSampleRow
  workloadEvents : Table WorkloadEventRow

/-! ## §2 Calls -/

/-- A statement that SQLite may fail, under the context the code adds. -/
def sqlite (fault : Option String) (context : String) : Except StorageError Unit :=
  match fault with
  | some cause => .error ⟨some context, cause⟩
  | none => .ok ()

/-- A sum that may overflow. -/
def checkedSum (values : List UInt64) (field : String) : Except StorageError (Option UInt64) :=
  okOr (U64.total none values) ⟨none, field ++ " aggregate overflows"⟩

/-- The configuration of swap, as the column holds it. -/
def swapConfigurationText : Swaps.SwapConfiguration → String
  | .none => "none"
  | .swapfile => "swapfile"
  | .partition => "partition"
  | .zram => "zram"
  | .mixed => "mixed"

/-- The average over ten seconds of one of the lines. -/
def avg10 (sample : Option Psi.PsiSample) (line : Psi.PsiSample → Option Psi.PsiLine) :
    Option F64 :=
  ((sample.bind line).map Psi.PsiLine.avg10).bind sqlReal

/-- The row of a sample. The sums are made first, then the columns from the left. -/
def systemSampleRow (sessionId : Int64) (sample : SystemSample) :
    Except StorageError SystemSampleRow := do
  let devices := sample.zram.devices
  let zramOriginal ← checkedSum (devices.filterMap ZramDevice.originalDataBytes)
    "zram original data"
  let zramCompressed ← checkedSum (devices.filterMap ZramDevice.compressedDataBytes)
    "zram compressed data"
  let zramMemory ← checkedSum (devices.filterMap ZramDevice.memoryUsedBytes) "zram memory used"
  let memTotalBytes ← sqlU64 sample.memTotalBytes "mem_total_bytes"
  let memAvailableBytes ← sqlU64 sample.memAvailableBytes "mem_available_bytes"
  let anonBytes ← sqlOptionalU64 sample.anonBytes "anon_bytes"
  let fileCacheBytes ← sqlOptionalU64 sample.fileCacheBytes "file_cache_bytes"
  let slabBytes ← sqlOptionalU64 sample.slabBytes "slab_bytes"
  let swapUsedBytes ← sqlOptionalU64 sample.swapUsedBytes "swap_used_bytes"
  let swapInPages ← sqlOptionalU64 sample.swapInPages "swap_in_pages"
  let swapOutPages ← sqlOptionalU64 sample.swapOutPages "swap_out_pages"
  let majorFaults ← sqlOptionalU64 sample.majorFaults "major_faults"
  let minorFaults ← sqlOptionalU64 sample.minorFaults "minor_faults"
  let pgscan ← sqlOptionalU64 sample.pgscan "pgscan"
  let pgsteal ← sqlOptionalU64 sample.pgsteal "pgsteal"
  let workingsetRefault ← sqlOptionalU64 sample.workingsetRefault "workingset_refault"
  let zramOrigBytes ← sqlOptionalU64 zramOriginal "zram_orig_bytes"
  let zramCompressedBytes ← sqlOptionalU64 zramCompressed "zram_compressed_bytes"
  let zswapStoredPages ← sqlOptionalU64 sample.zswap.storedPages "zswap_stored_pages"
  let zswapPoolBytes ← sqlOptionalU64 sample.zswap.poolBytes "zswap_pool_bytes"
  let zramMemoryUsedBytes ← sqlOptionalU64 zramMemory "zram_memory_used_bytes"
  return {
    sessionId, timestampNs := sample.timestampNs
    memTotalBytes, memAvailableBytes, anonBytes, fileCacheBytes, slabBytes
    swapUsedBytes, swapInPages, swapOutPages, majorFaults, minorFaults
    pgscan, pgsteal, workingsetRefault
    psiMemorySomeAvg10 := avg10 sample.psiMemory Psi.PsiSample.some
    psiMemoryFullAvg10 := avg10 sample.psiMemory Psi.PsiSample.full
    psiIoSomeAvg10 := avg10 sample.psiIo Psi.PsiSample.some
    zramOrigBytes, zramCompressedBytes, zswapStoredPages, zswapPoolBytes
    psiCpuSomeAvg10 := avg10 sample.psiCpu Psi.PsiSample.some
    psiCpuFullAvg10 := avg10 sample.psiCpu Psi.PsiSample.full
    swapConfiguration := swapConfigurationText sample.swap.configuration
    swapEntriesJson := sample.swap.entries
    zramPresent := sample.zram.available
    zramMemoryUsedBytes
    zramDevicesJson := devices
    zswapPresent := sample.zswap.available
    zswapEnabled := sample.zswap.enabled
    capabilitiesUnavailableJson := sample.capabilitiesUnavailable }

/-- The statements of an upsert. -/
inductive HostStatement where
  | upsert
  | select

/-- The statements that close a session. -/
inductive CloseStatement where
  | beginImmediate
  | update
  | commit

/-- The statements of a retention. -/
inductive RetentionStatement where
  | beginImmediate
  | deleteProcessSamples
  | deleteSystemSamples
  | commit

/-- The row a host would have if it were new. -/
def HostMetadata.excluded (host : HostMetadata) (now : String) : Option HostRow := do
  let ramTotalBytes ← tryFromNat host.ramTotalBytes.toNat
  let swapTotalBytes ← tryFromNat host.swapTotalBytes.toNat
  return {
    machineId := host.machineId
    hostname := host.hostname
    distro := host.distro
    distroVersion := host.distroVersion
    kernelVersion := host.kernelVersion
    cpuModel := host.cpuModel
    cpuCores := host.cpuCores
    ramTotalBytes, swapTotalBytes
    gpuModel := host.gpuModel
    storageModel := host.storageModel
    createdAt := now
    updatedAt := now }

/-- `DO UPDATE SET`: everything but the machine and when it was first seen. -/
def HostRow.merge (old excluded : HostRow) : HostRow :=
  { excluded with machineId := old.machineId, createdAt := old.createdAt }

namespace TelemetryDatabase

/-- Tables without a row. -/
def fresh : TelemetryDatabase := ⟨.empty, .empty, .empty, .empty, .empty, .empty⟩

/-- The row of a machine. -/
def ofMachine (machineId : String) (r : HostRow) : Bool := decide (r.machineId = machineId)

/-- Insert a host, or write over the row of its machine. -/
def upsertHosts (t : Table HostRow) (excluded : HostRow) : Table HostRow :=
  if (t.select (ofMachine excluded.machineId)).isEmpty then t.insert excluded
  else t.modify (ofMachine excluded.machineId) fun old => old.merge excluded

/-- Two statements without a transaction: the second may fail after the first was done. -/
def upsertHost (db : TelemetryDatabase) (host : HostMetadata) (now : String)
    (fault : HostStatement → Option String) : TelemetryDatabase × Except StorageError ℕ :=
  match host.excluded now with
  | none => (db, .error ⟨some s!"cannot upsert host {host.machineId}",
      "out of range integral type conversion attempted"⟩)
  | some excluded =>
    match fault .upsert with
    | some cause => (db, .error ⟨some s!"cannot upsert host {host.machineId}", cause⟩)
    | none =>
      let db := { db with hosts := upsertHosts db.hosts excluded }
      (db, do
        sqlite (fault .select) s!"cannot retrieve host {host.machineId}"
        okOr (db.hosts.idOf (ofMachine host.machineId))
          ⟨some s!"cannot retrieve host {host.machineId}", "Query returned no rows"⟩)

/-- Ids are given out up to the largest one SQLite has. -/
def openSession (db : TelemetryDatabase) (hostId : Int64)
    (daemonVersion configHash startedAt : String) (fault : Option String) :
    Except StorageError (TelemetryDatabase × Int64) := do
  let context := "cannot create daemon session"
  sqlite fault context
  let id ← okOr (tryFromNat (db.sessions.lastId + 1))
    ⟨some context, "database or disk is full"⟩
  refuse (∀ r ∈ db.hosts.rows, (r.1 : ℤ) ≠ hostId.toInt)
    ⟨some context, "FOREIGN KEY constraint failed"⟩
  let row : SessionRow :=
    { id, hostId, mode := "observe", daemonVersion, configHash, startedAt
      endedAt := none, cleanShutdown := false }
  return ({ db with sessions := db.sessions.insert row }, id)

/-- `WHERE id = ?3 AND ended_at IS NULL`. -/
def stillOpen (sessionId : Int64) (r : SessionRow) : Bool :=
  decide (r.id = sessionId) && r.endedAt.isNone

/-- Close a session that is open. -/
def closeSession (db : TelemetryDatabase) (sessionId : Int64) (cleanShutdown : Bool)
    (endedAt : String) (fault : CloseStatement → Option String) :
    Except StorageError TelemetryDatabase := do
  sqlite (fault .beginImmediate)
    s!"cannot begin closure transaction for session {sessionId.toInt}"
  sqlite (fault .update) s!"cannot close session {sessionId.toInt}"
  refuse ((db.sessions.select (stillOpen sessionId)).length ≠ 1)
    ⟨none, s!"session {sessionId.toInt} was not open or did not exist"⟩
  sqlite (fault .commit) s!"cannot commit closure of session {sessionId.toInt}"
  return { db with
    sessions := db.sessions.modify (stillOpen sessionId)
      fun r => { r with endedAt := some endedAt, cleanShutdown } }

/-- The ids of all sessions. -/
def sessionIds (db : TelemetryDatabase) : List Int64 :=
  (db.sessions.rows.map Prod.snd).map SessionRow.id

/-- Insert a sample of the host. -/
def insertSystemSample (db : TelemetryDatabase) (sessionId : Int64) (sample : SystemSample)
    (fault : Option String) : Except StorageError TelemetryDatabase := do
  let row ← systemSampleRow sessionId sample
  let context := s!"cannot insert system telemetry sample for session {sessionId.toInt}"
  sqlite fault context
  refuse (sessionId ∉ db.sessionIds) ⟨some context, "FOREIGN KEY constraint failed"⟩
  return { db with systemSamples := db.systemSamples.insert row }

/-- The tables of a classification batch, with the sessions their keys refer to. -/
def catalog (db : TelemetryDatabase) : CatalogDatabase :=
  ⟨db.sessionIds.toFinset, db.processCatalog, db.processSamples, db.workloadEvents⟩

/-- The database with other tables of the catalogue. -/
def withCatalog (db : TelemetryDatabase) (catalog : CatalogDatabase) : TelemetryDatabase :=
  { db with
    processCatalog := catalog.processCatalog
    processSamples := catalog.processSamples
    workloadEvents := catalog.workloadEvents }

/-- How many rows were deleted. -/
structure RetentionResult where
  systemSamples : ℕ
  processSamples : ℕ
  deriving DecidableEq

/-- Delete what is older than a time. -/
def enforceRetention (db : TelemetryDatabase) (cutoffTimestampNs : Int64)
    (fault : RetentionStatement → Option String) :
    Except StorageError (TelemetryDatabase × RetentionResult) := do
  sqlite (fault .beginImmediate) "cannot begin telemetry retention transaction"
  sqlite (fault .deleteProcessSamples) "cannot delete expired process samples"
  sqlite (fault .deleteSystemSamples) "cannot delete expired system samples"
  sqlite (fault .commit) "cannot commit telemetry retention transaction"
  let oldProcess : ProcessSampleRow → Bool := fun r => decide (r.timestampNs < cutoffTimestampNs)
  let oldSystem : SystemSampleRow → Bool := fun r => decide (r.timestampNs < cutoffTimestampNs)
  return ({ db with
      processSamples := db.processSamples.delete oldProcess
      systemSamples := db.systemSamples.delete oldSystem },
    ⟨(db.systemSamples.select oldSystem).length, (db.processSamples.select oldProcess).length⟩)

end TelemetryDatabase

/-- A call of the storage, with the clock it reads and what SQLite may report for its
    statements. -/
inductive TelemetryCall where
  | upsertHost (host : HostMetadata) (now : String) (fault : HostStatement → Option String)
  | openSession (hostId : Int64) (daemonVersion configHash startedAt : String)
      (fault : Option String)
  | closeSession (sessionId : Int64) (cleanShutdown : Bool) (endedAt : String)
      (fault : CloseStatement → Option String)
  | insertSystemSample (sessionId : Int64) (sample : SystemSample) (fault : Option String)
  | insertClassificationBatch (batch : BatchCall)
  | enforceRetention (cutoffTimestampNs : Int64) (fault : RetentionStatement → Option String)

/-- What a call returns. -/
inductive TelemetryReply where
  | host (id : ℕ)
  | session (id : Int64)
  | done
  | written (processes : ℕ)
  | deleted (result : TelemetryDatabase.RetentionResult)
  deriving DecidableEq

/-- What fails leaves the database as it was. -/
def settle {α : Type} (db : TelemetryDatabase) (reply : α → TelemetryReply)
    (result : Except StorageError (TelemetryDatabase × α)) :
    TelemetryDatabase × Except StorageError TelemetryReply :=
  match result with
  | .ok (db', a) => (db', .ok (reply a))
  | .error e => (db, .error e)

/-- One call on the database. -/
def TelemetryDatabase.answer (db : TelemetryDatabase) : TelemetryCall →
    TelemetryDatabase × Except StorageError TelemetryReply
  | .upsertHost host now fault =>
    let (db, id) := db.upsertHost host now fault
    (db, id.map .host)
  | .openSession hostId daemonVersion configHash startedAt fault =>
    settle db .session (db.openSession hostId daemonVersion configHash startedAt fault)
  | .closeSession sessionId cleanShutdown endedAt fault =>
    settle db (fun _ => .done)
      ((db.closeSession sessionId cleanShutdown endedAt fault).map fun db => (db, ()))
  | .insertSystemSample sessionId sample fault =>
    settle db (fun _ => .done)
      ((db.insertSystemSample sessionId sample fault).map fun db => (db, ()))
  | .insertClassificationBatch batch =>
    let (catalog, written) := db.catalog.insertClassificationBatch batch
    (db.withCatalog catalog, written.map .written)
  | .enforceRetention cutoffTimestampNs fault =>
    settle db .deleted (db.enforceRetention cutoffTimestampNs fault)

/-! ## §3 What a call does -/

theorem sqlite_bind_eq_ok {α : Type} {fault : Option String} {context : String}
    {f : Unit → Except StorageError α} {a : α} :
    (sqlite fault context >>= f) = .ok a ↔ fault = none ∧ f () = .ok a := by
  cases fault with
  | none => simp [sqlite, ok_bind]
  | some cause => simp [sqlite, bind, Except.bind]

/-- A session that was just opened. -/
def SessionRow.opened (id hostId : Int64) (daemonVersion configHash startedAt : String) :
    SessionRow where
  id := id
  hostId := hostId
  mode := "observe"
  daemonVersion := daemonVersion
  configHash := configHash
  startedAt := startedAt
  endedAt := none
  cleanShutdown := false

/-- The row of a session once it is closed. -/
def SessionRow.close (endedAt : String) (cleanShutdown : Bool) (r : SessionRow) : SessionRow :=
  { r with endedAt := some endedAt, cleanShutdown }

namespace TelemetryDatabase

/-- The database after a call with its answer. -/
inductive Effect (db : TelemetryDatabase) :
    TelemetryCall × Except StorageError TelemetryReply → TelemetryDatabase → Prop where
  | failed (call : TelemetryCall) (e : StorageError) : Effect db (call, .error e) db
  | host {host : HostMetadata} {now : String} {fault : HostStatement → Option String}
      {excluded : HostRow} {answer : Except StorageError TelemetryReply}
      (hmachine : excluded.machineId = host.machineId)
      (hanswer : ∀ reply, answer = .ok reply → ∃ id, reply = .host id ∧
        (upsertHosts db.hosts excluded).idOf (ofMachine host.machineId) = some id) :
      Effect db (.upsertHost host now fault, answer)
        { db with hosts := upsertHosts db.hosts excluded }
  | opened {hostId id : Int64} {daemonVersion configHash startedAt : String}
      {fault : Option String} (hid : tryFromNat (db.sessions.lastId + 1) = some id) :
      Effect db (.openSession hostId daemonVersion configHash startedAt fault, .ok (.session id))
        { db with
          sessions := db.sessions.insert (.opened id hostId daemonVersion configHash startedAt) }
  | closed {sessionId : Int64} {cleanShutdown : Bool} {endedAt : String}
      {fault : CloseStatement → Option String}
      (hopen : (db.sessions.select (stillOpen sessionId)).length = 1) :
      Effect db (.closeSession sessionId cleanShutdown endedAt fault, .ok .done)
        { db with
          sessions :=
            db.sessions.modify (stillOpen sessionId) (.close endedAt cleanShutdown) }
  | sampled {sessionId : Int64} {sample : SystemSample} {fault : Option String}
      {row : SystemSampleRow} (hrow : systemSampleRow sessionId sample = .ok row)
      (hsession : sessionId ∈ db.sessionIds) :
      Effect db (.insertSystemSample sessionId sample fault, .ok .done)
        { db with systemSamples := db.systemSamples.insert row }
  | batch {batch : BatchCall} {catalog : CatalogDatabase} {n : ℕ}
      (hbatch : db.catalog.batchTransaction batch = .ok catalog) :
      Effect db (.insertClassificationBatch batch, .ok (.written n)) (db.withCatalog catalog)
  | retained {cutoff : Int64} {fault : RetentionStatement → Option String}
      {result : RetentionResult} :
      Effect db (.enforceRetention cutoff fault, .ok (.deleted result))
        { db with
          processSamples := db.processSamples.delete fun r => decide (r.timestampNs < cutoff)
          systemSamples := db.systemSamples.delete fun r => decide (r.timestampNs < cutoff) }

theorem excluded_machineId {host : HostMetadata} {now : String} {excluded : HostRow}
    (h : host.excluded now = some excluded) : excluded.machineId = host.machineId := by
  simp only [HostMetadata.excluded, Option.bind_eq_bind, Option.bind_eq_some_iff] at h
  obtain ⟨ram, -, swap, -, h⟩ := h
  cases h
  rfl

theorem upsertHost_effect (db : TelemetryDatabase) (host : HostMetadata) (now : String)
    (fault : HostStatement → Option String) :
    Effect db (.upsertHost host now fault, (db.upsertHost host now fault).2.map .host)
      (db.upsertHost host now fault).1 := by
  unfold upsertHost
  split
  · exact .failed _ _
  · next excluded hexcluded =>
    split
    · exact .failed _ _
    · refine .host (excluded_machineId hexcluded) fun reply hreply => ?_
      cases hid : (do
          sqlite (fault .select) s!"cannot retrieve host {host.machineId}"
          okOr ((upsertHosts db.hosts excluded).idOf (ofMachine host.machineId))
            ⟨some s!"cannot retrieve host {host.machineId}", "Query returned no rows"⟩ :
          Except StorageError ℕ) with
      | error e =>
        simp [hid, Except.map] at hreply
      | ok id =>
        simp only [hid, Except.map, Except.ok.injEq] at hreply
        obtain ⟨-, hok⟩ := sqlite_bind_eq_ok.1 hid
        exact ⟨id, hreply.symm, okOr_eq_ok.1 hok⟩

theorem openSession_effect (db : TelemetryDatabase) (hostId : Int64)
    (daemonVersion configHash startedAt : String) (fault : Option String) :
    Effect db (.openSession hostId daemonVersion configHash startedAt fault,
        (settle db .session (db.openSession hostId daemonVersion configHash startedAt fault)).2)
      (settle db .session
        (db.openSession hostId daemonVersion configHash startedAt fault)).1 := by
  cases h : db.openSession hostId daemonVersion configHash startedAt fault with
  | error e => exact .failed _ e
  | ok result =>
    obtain ⟨-, h⟩ := sqlite_bind_eq_ok.1 h
    obtain ⟨id, hid, h⟩ := bind_eq_ok.1 h
    obtain ⟨-, h⟩ := refuse_bind_eq_ok.1 h
    cases h
    exact .opened (okOr_eq_ok.1 hid)

theorem closeSession_effect (db : TelemetryDatabase) (sessionId : Int64) (cleanShutdown : Bool)
    (endedAt : String) (fault : CloseStatement → Option String) :
    Effect db (.closeSession sessionId cleanShutdown endedAt fault,
        (db.answer (.closeSession sessionId cleanShutdown endedAt fault)).2)
      (db.answer (.closeSession sessionId cleanShutdown endedAt fault)).1 := by
  simp only [answer]
  cases h : db.closeSession sessionId cleanShutdown endedAt fault with
  | error e => exact .failed _ e
  | ok db' =>
    obtain ⟨-, h⟩ := sqlite_bind_eq_ok.1 h
    obtain ⟨-, h⟩ := sqlite_bind_eq_ok.1 h
    obtain ⟨hopen, h⟩ := refuse_bind_eq_ok.1 h
    obtain ⟨-, h⟩ := sqlite_bind_eq_ok.1 h
    cases h
    exact .closed (not_not.1 hopen)

/-- **Each call does one of these things.** -/
theorem answer_effect (db : TelemetryDatabase) (call : TelemetryCall) :
    Effect db (call, (db.answer call).2) (db.answer call).1 := by
  cases call with
  | upsertHost host now fault => exact db.upsertHost_effect host now fault
  | openSession hostId daemonVersion configHash startedAt fault =>
    exact db.openSession_effect hostId daemonVersion configHash startedAt fault
  | closeSession sessionId cleanShutdown endedAt fault =>
    exact db.closeSession_effect sessionId cleanShutdown endedAt fault
  | insertSystemSample sessionId sample fault =>
    simp only [answer]
    cases h : db.insertSystemSample sessionId sample fault with
    | error e => exact .failed _ e
    | ok db' =>
      obtain ⟨row, hrow, h⟩ := bind_eq_ok.1 h
      obtain ⟨-, h⟩ := sqlite_bind_eq_ok.1 h
      obtain ⟨hsession, h⟩ := refuse_bind_eq_ok.1 h
      cases h
      -- the statement has run, so the session exists
      exact .sampled hrow (not_not.1 hsession)
  | insertClassificationBatch batch =>
    simp only [answer]
    rcases db.catalog.insertClassificationBatch_cases batch with ⟨e, h⟩ | ⟨catalog, hbatch, h⟩
    · rw [h]
      exact .failed _ e
    · rw [h]
      exact .batch hbatch
  | enforceRetention cutoff fault =>
    simp only [answer]
    cases h : db.enforceRetention cutoff fault with
    | error e => exact .failed _ e
    | ok result =>
      obtain ⟨-, h⟩ := sqlite_bind_eq_ok.1 h
      obtain ⟨-, h⟩ := sqlite_bind_eq_ok.1 h
      obtain ⟨-, h⟩ := sqlite_bind_eq_ok.1 h
      obtain ⟨-, h⟩ := sqlite_bind_eq_ok.1 h
      cases h
      exact .retained

end TelemetryDatabase

end Nemor.Storage
