import Nemor.Lib.Expiry
import Nemor.Storage.Telemetry

/-!
# The history of the telemetry database

What the tables hold after any calls, told from the calls and their answers: the hosts with their
ids, the sessions with their closings, and of the samples those that no later deletion was newer
than.
-/

namespace Nemor.Storage

open MachineNumbers Fallible Collector Expiry
open Classifier (ProcessClassification)

/-! ## §1 The history -/

/-- A call with what it has returned. -/
abbrev TelemetryEntry := TelemetryCall × Except StorageError TelemetryReply

/-- A session as it was opened. -/
structure Opening where
  id : Int64
  hostId : Int64
  daemonVersion : String
  configHash : String
  startedAt : String

/-- How a session was closed. -/
structure Closing where
  endedAt : String
  cleanShutdown : Bool
  deriving DecidableEq

/-- The id that a machine was given. -/
def hostAnswer : TelemetryEntry → Option (String × ℕ)
  | (.upsertHost host _ _, .ok (.host id)) => some (host.machineId, id)
  | _ => none

/-- The session that was opened. -/
def opening : TelemetryEntry → Option Opening
  | (.openSession hostId daemonVersion configHash startedAt _, .ok (.session id)) =>
    some ⟨id, hostId, daemonVersion, configHash, startedAt⟩
  | _ => none

/-- How this session was closed, if it was. -/
def closing (sid : Int64) : TelemetryEntry → Option Closing
  | (.closeSession sessionId cleanShutdown endedAt _, .ok _) =>
    if sessionId = sid then some ⟨endedAt, cleanShutdown⟩ else none
  | _ => none

/-- What happened to the system samples of a session. -/
def systemEvents (sid : Int64) : TelemetryEntry → List (Event SystemSample ℤ)
  | (.insertSystemSample sessionId sample _, .ok _) =>
    if sessionId = sid then [.add sample] else []
  | (.enforceRetention cutoff _, .ok _) => [.expire cutoff.toInt]
  | _ => []

/-- What a call does to the process samples of a session. -/
def processEvents (sid : Int64) : TelemetryEntry → List (Event ProcessClassification ℤ)
  | (.insertClassificationBatch batch, .ok _) =>
    if batch.sessionId = sid then batch.processes.map .add else []
  | (.enforceRetention cutoff _, .ok _) => [.expire cutoff.toInt]
  | _ => []

/-- When a sample of the host was taken. -/
def systemTime (s : SystemSample) : ℤ := s.timestampNs.toInt

/-- When a sample of a process was taken. -/
def processTime (p : ProcessClassification) : ℤ := p.sample.timestampNs.toInt

/-- All ids that were given. -/
def hostAnswers (log : List TelemetryEntry) : List (String × ℕ) := log.filterMap hostAnswer

/-- All sessions that were opened. -/
def openings (log : List TelemetryEntry) : List Opening := log.filterMap opening

/-- All closings of a session. -/
def closings (log : List TelemetryEntry) (sid : Int64) : List Closing :=
  log.filterMap (closing sid)

/-- The samples of a session that no later deletion was newer than. -/
def retainedSystem (log : List TelemetryEntry) (sid : Int64) : List SystemSample :=
  survivors systemTime (log.flatMap (systemEvents sid))

/-- The samples of a session that no retention has deleted. -/
def retainedProcesses (log : List TelemetryEntry) (sid : Int64) : List ProcessClassification :=
  survivors processTime (log.flatMap (processEvents sid))

/-- The row of a session, given how it was closed. -/
def Opening.row (o : Opening) (closed : Option Closing) : SessionRow where
  id := o.id
  hostId := o.hostId
  mode := "observe"
  daemonVersion := o.daemonVersion
  configHash := o.configHash
  startedAt := o.startedAt
  endedAt := closed.map Closing.endedAt
  cleanShutdown := closed.any Closing.cleanShutdown

section Snoc

variable (log : List TelemetryEntry) (e : TelemetryEntry) (sid : Int64)

@[simp] theorem hostAnswers_snoc :
    hostAnswers (log ++ [e]) = hostAnswers log ++ (hostAnswer e).toList := by
  cases h : hostAnswer e <;> simp [hostAnswers, h]

@[simp] theorem openings_snoc : openings (log ++ [e]) = openings log ++ (opening e).toList := by
  cases h : opening e <;> simp [openings, h]

@[simp] theorem closings_snoc :
    closings (log ++ [e]) sid = closings log sid ++ (closing sid e).toList := by
  cases h : closing sid e <;> simp [closings, h]

end Snoc

/-! ## §2 Hosts -/

/-- No two rows are of one machine, and what was answered for a machine is the id of its row. -/
structure HostsTrack (log : List TelemetryEntry) (hosts : Table HostRow) : Prop where
  distinct : (hosts.rows.map fun r => r.2.machineId).Nodup
  known : ∀ a ∈ hostAnswers log, ∃ r, (a.2, r) ∈ hosts.rows ∧ r.machineId = a.1

namespace TelemetryDatabase

/-- The rows keep their ids and machines. -/
theorem exists_of_mem_hosts {t : Table HostRow} (excluded : HostRow) {id : ℕ} {r : HostRow}
    (h : (id, r) ∈ t.rows) :
    ∃ r', (id, r') ∈ (upsertHosts t excluded).rows ∧ r'.machineId = r.machineId := by
  unfold upsertHosts
  split
  · exact ⟨r, by simp [h], rfl⟩
  · refine ⟨_, List.mem_map.2 ⟨(id, r), h, rfl⟩, ?_⟩
    split <;> rfl

theorem upsertHosts_distinct {t : Table HostRow} (excluded : HostRow)
    (h : (t.rows.map fun r => r.2.machineId).Nodup) :
    ((upsertHosts t excluded).rows.map fun r => r.2.machineId).Nodup := by
  unfold upsertHosts
  split
  · next hnew =>
    have hfresh : excluded.machineId ∉ t.rows.map fun r => r.2.machineId := by
      intro hmem
      obtain ⟨a, ha, heq⟩ := List.mem_map.1 hmem
      have hselect : a.2 ∈ t.select (ofMachine excluded.machineId) :=
        Table.mem_select.2 ⟨⟨a.1, ha⟩, by simpa [ofMachine] using heq⟩
      rw [List.isEmpty_iff.1 hnew] at hselect
      cases hselect
    rw [Table.rows_insert, List.map_append, List.map_singleton]
    exact List.nodup_append.2 ⟨h, List.nodup_singleton _, fun a ha b hb hab =>
      hfresh (List.mem_singleton.1 hb ▸ hab ▸ ha)⟩
  · -- an update keeps the machine of its row
    have hkeep (r : HostRow) : (if ofMachine excluded.machineId r then r.merge excluded
        else r).machineId = r.machineId := by
      split <;> rfl
    simpa [Function.comp_def, hkeep] using h

end TelemetryDatabase

open TelemetryDatabase in
theorem HostsTrack.step {log : List TelemetryEntry} {db db' : TelemetryDatabase}
    {e : TelemetryEntry} (h : HostsTrack log db.hosts) (heffect : db.Effect e db') :
    HostsTrack (log ++ [e]) db'.hosts := by
  have hsame : hostAnswer e = none → HostsTrack (log ++ [e]) db.hosts := by
    intro hnone
    exact ⟨h.distinct, by simpa [hnone] using h.known⟩
  cases heffect with
  | failed call e => exact hsame (by cases call <;> rfl)
  | opened _ => exact hsame rfl
  | closed _ => exact hsame rfl
  | sampled _ _ => exact hsame rfl
  | batch _ => exact hsame rfl
  | retained => exact hsame rfl
  | @host host now fault excluded answer hmachine hanswer =>
    refine ⟨upsertHosts_distinct excluded h.distinct, fun a ha => ?_⟩
    rw [hostAnswers_snoc, List.mem_append] at ha
    rcases ha with ha | ha
    · obtain ⟨r, hr, hmachine⟩ := h.known a ha
      obtain ⟨r', hr', hkeep⟩ := exists_of_mem_hosts excluded hr
      exact ⟨r', hr', hkeep.trans hmachine⟩
    · cases answer with
      | error e => simp [hostAnswer] at ha
      | ok reply =>
        obtain ⟨id, rfl, hid⟩ := hanswer reply rfl
        obtain ⟨r, hr, hof⟩ := Table.mem_of_idOf hid
        have ha : a = (host.machineId, id) := by simpa [hostAnswer] using ha
        exact ⟨r, by rwa [ha], by simpa [ofMachine, ha] using hof⟩

/-- **An id is the id of one machine.** -/
theorem HostsTrack.id_eq_iff {log : List TelemetryEntry} {hosts : Table HostRow}
    (h : HostsTrack log hosts) {a b : String × ℕ} (ha : a ∈ hostAnswers log)
    (hb : b ∈ hostAnswers log) : a.2 = b.2 ↔ a.1 = b.1 := by
  obtain ⟨r, hr, hra⟩ := h.known a ha
  obtain ⟨s, hs, hsb⟩ := h.known b hb
  constructor
  · intro heq
    rw [heq] at hr
    rw [← hra, ← hsb, Table.eq_of_mem_rows hr hs]
  · intro heq
    exact (Prod.mk.inj (List.inj_on_of_nodup_map h.distinct hr hs
      (hra.trans (heq.trans hsb.symm)))).1

/-! ## §3 Sessions -/

/-- The session table as the history has it. -/
structure SessionsTrack (log : List TelemetryEntry) (sessions : Table SessionRow) : Prop where
  rows : sessions.rows.map Prod.snd =
    (openings log).map fun o => o.row (closings log o.id).head?
  ids : ∀ r ∈ sessions.rows, r.2.id.toInt = r.1
  /-- No session is closed twice. -/
  once : ∀ sid, (closings log sid).length ≤ 1
  /-- Only what was opened is closed. -/
  known : ∀ sid, closings log sid ≠ [] → ∃ o ∈ openings log, o.id = sid

namespace SessionsTrack

variable {log : List TelemetryEntry} {sessions : Table SessionRow}

theorem fresh : SessionsTrack [] .empty where
  rows := rfl
  ids := by simp [Table.empty]
  once := by simp [closings]
  known := by simp [closings]

/-- The row of an opened session is in the table. -/
theorem exists_row (h : SessionsTrack log sessions) {o : Opening} (ho : o ∈ openings log) :
    ∃ n, (n, o.row (closings log o.id).head?) ∈ sessions.rows := by
  have hmem : o.row (closings log o.id).head? ∈ sessions.rows.map Prod.snd := by
    rw [h.rows]
    exact List.mem_map.2 ⟨o, ho, rfl⟩
  obtain ⟨⟨n, r⟩, hr, heq⟩ := List.mem_map.1 hmem
  exact ⟨n, heq ▸ hr⟩

/-- What neither opens nor closes a session is not seen. -/
theorem other (h : SessionsTrack log sessions) {e : TelemetryEntry} (hopening : opening e = none)
    (hclosing : ∀ sid, closing sid e = none) : SessionsTrack (log ++ [e]) sessions where
  rows := by simpa [hopening, hclosing] using h.rows
  ids := h.ids
  once sid := by simpa [hclosing] using h.once sid
  known sid := by simpa [hopening, hclosing] using h.known sid

/-- The id that is given out next is that of no session. -/
theorem new_id (h : SessionsTrack log sessions) {id : Int64}
    (hid : tryFromNat (sessions.lastId + 1) = some id) :
    id.toInt = sessions.lastId + 1 ∧ ∀ r ∈ sessions.rows, r.2.id ≠ id := by
  have hvalue : id.toInt = sessions.lastId + 1 := by
    unfold tryFromNat at hid
    split at hid
    · next hlt =>
      rw [← Option.some.inj hid, Int64.toInt_ofNat_of_lt hlt]
      rfl
    · cases hid
  refine ⟨hvalue, fun r hr heq => ?_⟩
  have hrow := h.ids r hr
  have hbound := Table.lt_of_mem_rows hr
  rw [heq, hvalue] at hrow
  omega

/-- What was never opened was never closed. -/
theorem not_closed (h : SessionsTrack log sessions) {id : Int64}
    (hid : ∀ r ∈ sessions.rows, r.2.id ≠ id) : closings log id = [] := by
  by_contra hne
  obtain ⟨o, ho, hoid⟩ := h.known id hne
  obtain ⟨n, hn⟩ := h.exists_row ho
  exact hid _ hn hoid

/-- A new session has an id that no session had. -/
theorem opened (h : SessionsTrack log sessions) {hostId id : Int64}
    {daemonVersion configHash startedAt : String} {fault : Option String}
    (hid : tryFromNat (sessions.lastId + 1) = some id) :
    SessionsTrack
      (log ++ [(.openSession hostId daemonVersion configHash startedAt fault, .ok (.session id))])
      (sessions.insert (.opened id hostId daemonVersion configHash startedAt)) := by
  obtain ⟨hvalue, hnew⟩ := h.new_id hid
  have hnone : closings log id = [] := h.not_closed hnew
  refine ⟨?_, ?_, ?_, ?_⟩
  · simp only [Table.rows_insert, List.map_append, h.rows, closings_snoc, openings_snoc, closing,
      opening, Option.toList_none, Option.toList_some, List.append_nil, List.map_singleton, hnone]
    rfl
  · intro r hr
    rcases List.mem_append.1 hr with hr | hr
    · exact h.ids r hr
    · rw [List.mem_singleton.1 hr]
      exact_mod_cast hvalue
  · simpa [closing] using h.once
  · intro sid hsid
    obtain ⟨o, ho, hoid⟩ := h.known sid (by simpa [closing] using hsid)
    exact ⟨o, by simp [ho], hoid⟩

/-- What is closed was open: it is closed for the first time. -/
theorem closed (h : SessionsTrack log sessions) {sessionId : Int64} {cleanShutdown : Bool}
    {endedAt : String} {fault : CloseStatement → Option String}
    (hopen : (sessions.select (TelemetryDatabase.stillOpen sessionId)).length = 1) :
    SessionsTrack (log ++ [(.closeSession sessionId cleanShutdown endedAt fault, .ok .done)])
      (sessions.modify (TelemetryDatabase.stillOpen sessionId)
        (.close endedAt cleanShutdown)) := by
  -- the row that was found is the one of an opening that was not closed yet
  obtain ⟨r, hr⟩ := List.exists_mem_of_length_pos (hopen ▸ Nat.one_pos)
  obtain ⟨⟨n, hn⟩, hstill⟩ := Table.mem_select.1 hr
  have hmem : r ∈ (openings log).map fun o => o.row (closings log o.id).head? := by
    rw [← h.rows]
    exact List.mem_map.2 ⟨_, hn, rfl⟩
  obtain ⟨o, ho, rfl⟩ := List.mem_map.1 hmem
  obtain ⟨hoid, hended⟩ := Bool.and_eq_true_iff.1 hstill
  obtain rfl : o.id = sessionId := of_decide_eq_true hoid
  have hnone : closings log o.id = [] := by simpa [Opening.row] using hended
  have hclosings (sid : Int64) : closings (log ++
      [(.closeSession o.id cleanShutdown endedAt fault, .ok .done)]) sid =
        if o.id = sid then [⟨endedAt, cleanShutdown⟩] else closings log sid := by
    rw [closings_snoc, closing]
    split
    · next heq => rw [← heq, hnone]; rfl
    · simp
  refine ⟨?_, ?_, fun sid => ?_, fun sid hsid => ?_⟩
  · rw [Table.rows_modify, List.map_map, openings_snoc]
    have hrows : (sessions.rows.map Prod.snd).map (fun r =>
        if TelemetryDatabase.stillOpen o.id r then r.close endedAt cleanShutdown else r) =
          (openings log).map fun o' => o'.row (if o.id = o'.id then some ⟨endedAt, cleanShutdown⟩
            else (closings log o'.id).head?) := by
      rw [h.rows, List.map_map]
      refine List.map_congr_left fun o' _ => ?_
      by_cases heq : o.id = o'.id
      · have hopen' : (closings log o'.id).head? = none := by rw [← heq, hnone]; rfl
        simp [TelemetryDatabase.stillOpen, Opening.row, heq, hopen', SessionRow.close]
      · have hother : ¬ o'.id = o.id := fun h => heq h.symm
        simp [TelemetryDatabase.stillOpen, Opening.row, heq, hother]
    simp only [List.map_map] at hrows
    refine hrows.trans ?_
    simp only [opening, Option.toList_none, List.append_nil, hclosings]
    refine List.map_congr_left fun o' _ => ?_
    split <;> rfl
  · intro r hr
    obtain ⟨old, hold, rfl⟩ := List.mem_map.1 hr
    have hkeep : (if TelemetryDatabase.stillOpen o.id old.2 then
        old.2.close endedAt cleanShutdown else old.2).id = old.2.id := by
      split <;> rfl
    dsimp only
    rw [hkeep]
    exact h.ids old hold
  · rw [hclosings]
    split
    · simp
    · exact h.once sid
  · rw [hclosings] at hsid
    split at hsid
    · next heq => exact ⟨o, by simp [ho], heq⟩
    · obtain ⟨o', ho', hoid'⟩ := h.known sid hsid
      exact ⟨o', by simp [ho'], hoid'⟩

theorem step {db db' : TelemetryDatabase} {e : TelemetryEntry}
    (h : SessionsTrack log db.sessions) (heffect : db.Effect e db') :
    SessionsTrack (log ++ [e]) db'.sessions := by
  cases heffect with
  | failed call e => exact h.other (by cases call <;> rfl) fun _ => by cases call <;> rfl
  | @host _ _ _ _ answer _ _ =>
    exact h.other (by cases answer <;> rfl) fun _ => by cases answer <;> rfl
  | opened hid => exact h.opened hid
  | closed hopen => exact h.closed hopen
  | sampled _ _ => exact h.other rfl fun _ => rfl
  | batch _ => exact h.other rfl fun _ => rfl
  | retained => exact h.other rfl fun _ => rfl

end SessionsTrack

/-! ## §4 Samples -/

/-- What the columns of a sample say that are read again. -/
structure SystemSampleRow.Stores (row : SystemSampleRow) (s : SystemSample) : Prop where
  timestampNs : row.timestampNs = s.timestampNs
  memAvailableBytes : row.memAvailableBytes.toInt = s.memAvailableBytes.toNat
  swapUsedBytes : row.swapUsedBytes.map Int64.toInt = s.swapUsedBytes.map fun n => (n.toNat : ℤ)
  swapInPages : row.swapInPages.map Int64.toInt = s.swapInPages.map fun n => (n.toNat : ℤ)
  swapOutPages : row.swapOutPages.map Int64.toInt = s.swapOutPages.map fun n => (n.toNat : ℤ)
  majorFaults : row.majorFaults.map Int64.toInt = s.majorFaults.map fun n => (n.toNat : ℤ)
  psiMemorySomeAvg10 : row.psiMemorySomeAvg10 = avg10 s.psiMemory Psi.PsiSample.some
  psiMemoryFullAvg10 : row.psiMemoryFullAvg10 = avg10 s.psiMemory Psi.PsiSample.full
  zramPresent : row.zramPresent = s.zram.available
  zswapPresent : row.zswapPresent = s.zswap.available
  capabilities : row.capabilitiesUnavailableJson = s.capabilitiesUnavailable

theorem sqlU64_ok {value : UInt64} {field : String} {n : Int64}
    (h : sqlU64 value field = .ok n) : n.toInt = value.toNat := by
  unfold sqlU64 at h
  split at h
  · next m hm =>
    cases h
    unfold tryFromNat at hm
    split at hm
    · next hlt =>
      rw [← Option.some.inj hm, Int64.toInt_ofNat_of_lt hlt]
    · cases hm
  · cases h

theorem sqlOptionalU64_ok {value : Option UInt64} {field : String} {n : Option Int64}
    (h : sqlOptionalU64 value field = .ok n) :
    n.map Int64.toInt = value.map fun n => (n.toNat : ℤ) := by
  cases value with
  | none =>
    cases h
    rfl
  | some value =>
    obtain ⟨m, hm, h⟩ := bind_eq_ok.1 h
    cases h
    simp [sqlU64_ok hm]

theorem systemSampleRow_ok {sid : Int64} {s : SystemSample} {row : SystemSampleRow}
    (h : systemSampleRow sid s = .ok row) : row.sessionId = sid ∧ row.Stores s := by
  simp only [systemSampleRow, bind_eq_ok] at h
  obtain ⟨_, -, _, -, _, -, _, -, memAvailable, hmem, _, -, _, -, _, -, swapUsed, hswap, swapIn,
    hin, swapOut, hout, majorFaults, hmajor, _, -, _, -, _, -, _, -, _, -, _, -, _, -, _, -, _, -,
    h⟩ := h
  cases h
  exact ⟨rfl, rfl, sqlU64_ok hmem, sqlOptionalU64_ok hswap, sqlOptionalU64_ok hin,
    sqlOptionalU64_ok hout, sqlOptionalU64_ok hmajor, rfl, rfl, rfl, rfl, rfl⟩

/-- The row of a process, under the id of its catalog entry. -/
def ProcessSampleRow.Records (catalog : Table CatalogRow) (sid : Int64) (row : ProcessSampleRow)
    (p : ProcessClassification) : Prop :=
  ∃ id entry, (id, entry) ∈ catalog.rows ∧ entry.identity = p.identity ∧
    CatalogDatabase.sampleRow sid id p = .ok row

theorem sampleRow_ok {sid : Int64} {id : ℕ} {p : ProcessClassification} {row : ProcessSampleRow}
    (h : CatalogDatabase.sampleRow sid id p = .ok row) :
    row.sessionId = sid ∧ row.processCatalogId = id ∧ row.timestampNs = p.sample.timestampNs := by
  simp only [CatalogDatabase.sampleRow, bind_eq_ok] at h
  obtain ⟨_, -, _, -, _, -, _, -, _, -, _, -, _, -, _, -, h⟩ := h
  cases h
  exact ⟨rfl, rfl, rfl⟩

/-- Catalog entries keep their ids and identities. -/
theorem exists_of_mem_catalog {t : Table CatalogRow} (p : ProcessClassification) {id : ℕ}
    {r : CatalogRow} (h : (id, r) ∈ t.rows) :
    ∃ r', (id, r') ∈ (upsertCatalog t p).rows ∧ r'.identity = r.identity := by
  unfold upsertCatalog
  dsimp only
  split
  · exact ⟨r, by simp [h], rfl⟩
  · refine ⟨_, List.mem_map.2 ⟨(id, r), h, rfl⟩, ?_⟩
    split <;> rfl

theorem ProcessSampleRow.Records.upsert {catalog : Table CatalogRow} {sid : Int64}
    {row : ProcessSampleRow} {p : ProcessClassification} (h : row.Records catalog sid p)
    (q : ProcessClassification) : row.Records (upsertCatalog catalog q) sid p := by
  obtain ⟨id, entry, hentry, hidentity, hrow⟩ := h
  obtain ⟨entry', hentry', hkeep⟩ := exists_of_mem_catalog q hentry
  exact ⟨id, entry', hentry', hkeep.trans hidentity, hrow⟩

/-- The rows of the samples of a session. -/
def samplesOf (t : Table ProcessSampleRow) (sid : Int64) : List ProcessSampleRow :=
  t.select fun r => decide (r.sessionId = sid)

/-- The rows of a session. -/
def systemSamplesOf (t : Table SystemSampleRow) (sid : Int64) : List SystemSampleRow :=
  t.select fun r => decide (r.sessionId = sid)

/-- A process of a batch gets its row, in the session of the batch. -/
theorem recordProcess_records {db db' : CatalogDatabase} {call : BatchCall} {index : ℕ}
    {p : ProcessClassification} (h : db.recordProcess call index p = .ok db') :
    ∃ row, db'.processSamples = db.processSamples.insert row ∧
      row.Records db'.processCatalog call.sessionId p := by
  obtain ⟨-, -, h⟩ := bind_eq_ok.1 h
  obtain ⟨-, -, h⟩ := bind_eq_ok.1 h
  split at h
  · cases h
  · next id hid =>
    obtain ⟨row, hrow, h⟩ := bind_eq_ok.1 h
    obtain ⟨-, -, h⟩ := bind_eq_ok.1 h
    obtain ⟨-, h⟩ := ite_error_eq_ok.1 h
    cases h
    obtain ⟨entry, hentry, hidentity⟩ := Table.mem_of_idOf hid
    exact ⟨row, rfl, id, entry, hentry, of_decide_eq_true hidentity, hrow⟩

/-- The rows of a session against the processes they record. -/
def RecordsAll (catalog : Table CatalogRow) (sid : Int64) (t : Table ProcessSampleRow)
    (processes : List ProcessClassification) : Prop :=
  List.Forall₂ (fun row p => row.Records catalog sid p) (samplesOf t sid) processes

theorem recordProcesses_records (sid : Int64) {call : BatchCall}
    {processes : List ProcessClassification} {index : ℕ} {db db' : CatalogDatabase}
    {old : List ProcessClassification}
    (h : CatalogDatabase.recordProcesses call index db processes = .ok db')
    (hold : RecordsAll db.processCatalog sid db.processSamples old) :
    RecordsAll db'.processCatalog sid db'.processSamples
      (old ++ if call.sessionId = sid then processes else []) := by
  induction processes generalizing index db old with
  | nil =>
    cases h
    simpa using hold
  | cons p processes ih =>
    obtain ⟨db₁, hp, h⟩ := bind_eq_ok.1 h
    obtain ⟨hcatalog, -⟩ := CatalogDatabase.recordProcess_ok hp
    obtain ⟨row, hsamples, hrow⟩ := recordProcess_records hp
    -- the upsert keeps what the older rows refer to
    have hkept : List.Forall₂ (fun row p => row.Records db₁.processCatalog sid p)
        (samplesOf db.processSamples sid) old := by
      rw [hcatalog]
      exact hold.imp fun _ _ h => h.upsert p
    have hsid : row.sessionId = call.sessionId := by
      obtain ⟨id, entry, -, -, hok⟩ := hrow
      exact (sampleRow_ok hok).1
    by_cases hcall : call.sessionId = sid
    · have hnew : RecordsAll db₁.processCatalog sid db₁.processSamples (old ++ [p]) := by
        rw [RecordsAll, samplesOf, hsamples, Table.select_insert]
        simp only [hsid, hcall, decide_true, if_true]
        exact List.rel_append hkept (.cons (hcall ▸ hrow) .nil)
      simpa [hcall] using ih h hnew
    · have hnew : RecordsAll db₁.processCatalog sid db₁.processSamples old := by
        rw [RecordsAll, samplesOf, hsamples, Table.select_insert, if_neg (by simp [hsid, hcall]),
          List.append_nil]
        exact hkept
      simpa [hcall] using ih h hnew

theorem batchTransaction_records (sid : Int64) {db db' : CatalogDatabase} {call : BatchCall}
    {old : List ProcessClassification} (h : db.batchTransaction call = .ok db')
    (hold : RecordsAll db.processCatalog sid db.processSamples old) :
    RecordsAll db'.processCatalog sid db'.processSamples
      (old ++ if call.sessionId = sid then call.processes else []) := by
  obtain ⟨-, -, h⟩ := bind_eq_ok.1 h
  obtain ⟨db₁, hprocesses, h⟩ := bind_eq_ok.1 h
  obtain ⟨db₂, htransition, h⟩ := bind_eq_ok.1 h
  obtain ⟨-, -, h⟩ := bind_eq_ok.1 h
  cases h
  have hrecords := recordProcesses_records sid hprocesses hold
  -- the transition touches the events only
  unfold CatalogDatabase.recordGivenTransition at htransition
  split at htransition
  · rcases CatalogDatabase.recordTransition_ok htransition with rfl | ⟨-, rfl⟩ <;> exact hrecords
  · cases htransition
    exact hrecords

/-- The sample tables as the history of a session has them. -/
structure SamplesTrack (sid : Int64) (log : List TelemetryEntry) (db : TelemetryDatabase) :
    Prop where
  system : List.Forall₂ SystemSampleRow.Stores (systemSamplesOf db.systemSamples sid)
    (retainedSystem log sid)
  processes : RecordsAll db.processCatalog sid db.processSamples (retainedProcesses log sid)

namespace SamplesTrack

variable {sid : Int64} {log : List TelemetryEntry} {db : TelemetryDatabase}

theorem fresh (sid : Int64) : SamplesTrack sid [] .fresh := ⟨.nil, .nil⟩

/-- What writes and deletes no samples is not seen. -/
theorem other (h : SamplesTrack sid log db) {e : TelemetryEntry} {db' : TelemetryDatabase}
    (hsystem : systemEvents sid e = []) (hprocesses : processEvents sid e = [])
    (hdb : db'.systemSamples = db.systemSamples ∧ db'.processSamples = db.processSamples ∧
      db'.processCatalog = db.processCatalog) : SamplesTrack sid (log ++ [e]) db' := by
  obtain ⟨hs, hp, hc⟩ := hdb
  constructor
  · simpa [retainedSystem, hsystem, hs] using h.system
  · simpa [retainedProcesses, hprocesses, hp, hc] using h.processes

theorem sampled (h : SamplesTrack sid log db) {sessionId : Int64} {sample : SystemSample}
    {fault : Option String} {row : SystemSampleRow}
    (hrow : systemSampleRow sessionId sample = .ok row) :
    SamplesTrack sid (log ++ [(.insertSystemSample sessionId sample fault, .ok .done)])
      { db with systemSamples := db.systemSamples.insert row } := by
  obtain ⟨hsid, hstores⟩ := systemSampleRow_ok hrow
  constructor
  · rw [retainedSystem, List.flatMap_append, List.flatMap_singleton, systemEvents,
      systemSamplesOf, Table.select_insert, hsid]
    by_cases heq : sessionId = sid
    · rw [if_pos heq, if_pos (by simpa using heq), survivors_snoc]
      exact List.rel_append h.system (.cons hstores .nil)
    · rw [if_neg heq, if_neg (by simpa using heq), List.append_nil, List.append_nil]
      exact h.system
  · simpa [retainedProcesses, processEvents] using h.processes

theorem batch (h : SamplesTrack sid log db) {batch : BatchCall} {catalog : CatalogDatabase}
    {n : ℕ} (hbatch : db.catalog.batchTransaction batch = .ok catalog) :
    SamplesTrack sid (log ++ [(.insertClassificationBatch batch, .ok (.written n))])
      (db.withCatalog catalog) := by
  constructor
  · simpa [retainedSystem, systemEvents, TelemetryDatabase.withCatalog] using h.system
  · have hrecords := batchTransaction_records sid hbatch h.processes
    rw [retainedProcesses, List.flatMap_append, List.flatMap_singleton, processEvents]
    split
    · next heq =>
      rw [survivors_append_add]
      rwa [if_pos heq] at hrecords
    · next hne =>
      rw [List.append_nil]
      rwa [if_neg hne, List.append_nil] at hrecords

/-- A row is deleted when what it stores is older than the cutoff. -/
theorem retained (h : SamplesTrack sid log db) {cutoff : Int64}
    {fault : RetentionStatement → Option String} {result : TelemetryDatabase.RetentionResult} :
    SamplesTrack sid (log ++ [(.enforceRetention cutoff fault, .ok (.deleted result))])
      { db with
        processSamples := db.processSamples.delete fun r => decide (r.timestampNs < cutoff)
        systemSamples := db.systemSamples.delete fun r => decide (r.timestampNs < cutoff) } := by
  have hcutoff (t : Int64) : (!decide (t < cutoff)) = decide (cutoff.toInt ≤ t.toInt) := by
    rw [← decide_not, decide_eq_decide, Int64.lt_iff_toInt_lt, not_lt]
  constructor
  · rw [retainedSystem, List.flatMap_append, List.flatMap_singleton, systemEvents, survivors_snoc,
      systemSamplesOf, Table.select_delete]
    apply forall₂_filter _ h.system
    intro row s hstores
    rw [hcutoff, hstores.timestampNs]
    rfl
  · rw [retainedProcesses, List.flatMap_append, List.flatMap_singleton, processEvents,
      survivors_snoc, RecordsAll, samplesOf, Table.select_delete]
    apply forall₂_filter _ h.processes
    rintro row p ⟨id, entry, -, -, hok⟩
    rw [hcutoff, (sampleRow_ok hok).2.2]
    rfl

theorem step (h : SamplesTrack sid log db) {e : TelemetryEntry} {db' : TelemetryDatabase}
    (heffect : db.Effect e db') : SamplesTrack sid (log ++ [e]) db' := by
  cases heffect with
  | failed call e =>
    exact h.other (by cases call <;> rfl) (by cases call <;> rfl) ⟨rfl, rfl, rfl⟩
  | @host _ _ _ _ answer _ _ =>
    exact h.other (by cases answer <;> rfl) (by cases answer <;> rfl) ⟨rfl, rfl, rfl⟩
  | opened _ => exact h.other rfl rfl ⟨rfl, rfl, rfl⟩
  | closed _ => exact h.other rfl rfl ⟨rfl, rfl, rfl⟩
  | sampled hrow _ => exact h.sampled hrow
  | batch hbatch => exact h.batch hbatch
  | retained => exact h.retained

end SamplesTrack

/-! ## §5 References -/

/-- Every sample is one of a session. -/
structure References (db : TelemetryDatabase) : Prop where
  system : ∀ row ∈ db.systemSamples.rows, row.2.sessionId ∈ db.sessionIds
  processes : ∀ row ∈ db.processSamples.rows, row.2.sessionId ∈ db.sessionIds

/-- A process is recorded only in a session that is there. -/
theorem recordProcesses_references {call : BatchCall} {processes : List ProcessClassification}
    {index : ℕ} {db db' : CatalogDatabase} {sessions : Finset Int64} (hdb : db.sessions = sessions)
    (h : CatalogDatabase.recordProcesses call index db processes = .ok db')
    (hold : ∀ row ∈ db.processSamples.rows, row.2.sessionId ∈ sessions) :
    ∀ row ∈ db'.processSamples.rows, row.2.sessionId ∈ sessions := by
  induction processes generalizing index db with
  | nil =>
    cases h
    exact hold
  | cons p processes ih =>
    obtain ⟨db₁, hp, h⟩ := bind_eq_ok.1 h
    obtain ⟨-, -, hp⟩ := bind_eq_ok.1 hp
    obtain ⟨-, -, hp⟩ := bind_eq_ok.1 hp
    split at hp
    · cases hp
    · obtain ⟨row, hrow, hp⟩ := bind_eq_ok.1 hp
      obtain ⟨-, -, hp⟩ := bind_eq_ok.1 hp
      obtain ⟨hsession, hp⟩ := ite_error_eq_ok.1 hp
      cases hp
      refine ih ?_ h fun r hr => ?_
      · exact hdb
      · rcases List.mem_append.1 hr with hr | hr
        · exact hold r hr
        · rw [List.mem_singleton.1 hr, (sampleRow_ok hrow).1, ← hdb]
          exact not_not.1 hsession

/-- The transition of a batch touches the events only. -/
theorem batchTransaction_references {db db' : CatalogDatabase} {call : BatchCall}
    (h : db.batchTransaction call = .ok db')
    (hold : ∀ row ∈ db.processSamples.rows, row.2.sessionId ∈ db.sessions) :
    ∀ row ∈ db'.processSamples.rows, row.2.sessionId ∈ db.sessions := by
  obtain ⟨-, -, h⟩ := bind_eq_ok.1 h
  obtain ⟨db₁, hprocesses, h⟩ := bind_eq_ok.1 h
  obtain ⟨db₂, htransition, h⟩ := bind_eq_ok.1 h
  obtain ⟨-, -, h⟩ := bind_eq_ok.1 h
  cases h
  have hrecorded := recordProcesses_references rfl hprocesses hold
  unfold CatalogDatabase.recordGivenTransition at htransition
  split at htransition
  · rcases CatalogDatabase.recordTransition_ok htransition with rfl | ⟨-, rfl⟩ <;> exact hrecorded
  · cases htransition
    exact hrecorded

namespace References

variable {db db' : TelemetryDatabase}

theorem fresh : References .fresh where
  system _ h := by cases h
  processes _ h := by cases h

/-- Sessions may be added as long as the samples stay. -/
theorem of_subset (h : References db) (hsystem : db'.systemSamples.rows ⊆ db.systemSamples.rows)
    (hprocesses : db'.processSamples.rows ⊆ db.processSamples.rows)
    (hsessions : db.sessionIds ⊆ db'.sessionIds) : References db' where
  system row hrow := hsessions (h.system row (hsystem hrow))
  processes row hrow := hsessions (h.processes row (hprocesses hrow))

theorem step (h : References db) {e : TelemetryEntry} (heffect : db.Effect e db') :
    References db' := by
  cases heffect with
  | failed call e => exact h
  | host _ _ => exact ⟨h.system, h.processes⟩
  | opened hid =>
    refine h.of_subset (List.Subset.refl _) (List.Subset.refl _) ?_
    simp [TelemetryDatabase.sessionIds, Table.rows_insert]
  | closed hopen =>
    refine h.of_subset (List.Subset.refl _) (List.Subset.refl _) ?_
    -- closing keeps the id
    intro sid hsid
    obtain ⟨row, hrow, rfl⟩ := List.mem_map.1 hsid
    obtain ⟨r, hr, rfl⟩ := List.mem_map.1 hrow
    refine List.mem_map.2 ⟨_, List.mem_map.2 ⟨_, List.mem_map.2 ⟨r, hr, rfl⟩, rfl⟩, ?_⟩
    dsimp only
    split <;> rfl
  | @sampled sessionId sample fault row hrow hsession =>
    refine ⟨fun r hr => ?_, h.processes⟩
    rcases List.mem_append.1 hr with hr | hr
    · exact h.system r hr
    · rw [List.mem_singleton.1 hr, (systemSampleRow_ok hrow).1]
      exact hsession
  | batch hbatch =>
    refine ⟨h.system, fun row hrow => ?_⟩
    have hrecorded := batchTransaction_references hbatch fun r hr =>
      List.mem_toFinset.2 (h.processes r hr)
    exact List.mem_toFinset.1 (hrecorded row hrow)
  | retained =>
    exact h.of_subset (List.filter_subset_self _) (List.filter_subset_self _) (List.Subset.refl _)

/-- There are no samples of a session that is not there. -/
theorem unopened (h : References db) {sid : Int64} (hsid : sid ∉ db.sessionIds) :
    systemSamplesOf db.systemSamples sid = [] ∧ samplesOf db.processSamples sid = [] := by
  constructor
  · refine List.eq_nil_iff_forall_not_mem.2 fun row hrow => ?_
    obtain ⟨⟨id, hmem⟩, heq⟩ := Table.mem_select.1 hrow
    exact hsid (of_decide_eq_true heq ▸ h.system _ hmem)
  · refine List.eq_nil_iff_forall_not_mem.2 fun row hrow => ?_
    obtain ⟨⟨id, hmem⟩, heq⟩ := Table.mem_select.1 hrow
    exact hsid (of_decide_eq_true heq ▸ h.processes _ hmem)

end References

/-! ## §6 Any calls -/

/-- The calls from a new database on, with their answers. -/
def telemetryTranscript (calls : List TelemetryCall) : List TelemetryEntry :=
  Machine.transcript TelemetryDatabase.answer .fresh calls

/-- The tables after a sequence of calls. -/
def telemetryAfter (calls : List TelemetryCall) : TelemetryDatabase :=
  Machine.after TelemetryDatabase.answer .fresh calls

/-- The tables against the history. -/
structure TelemetryTracks (log : List TelemetryEntry) (db : TelemetryDatabase) : Prop where
  hosts : HostsTrack log db.hosts
  sessions : SessionsTrack log db.sessions
  samples : ∀ sid, SamplesTrack sid log db
  references : References db

theorem TelemetryTracks.fresh : TelemetryTracks [] .fresh where
  hosts := ⟨List.nodup_nil, by simp [hostAnswers]⟩
  sessions := .fresh
  samples := .fresh
  references := .fresh

theorem TelemetryTracks.call {log : List TelemetryEntry} {db : TelemetryDatabase}
    (h : TelemetryTracks log db) (call : TelemetryCall) :
    TelemetryTracks (log ++ [(call, (db.answer call).2)]) (db.answer call).1 := by
  have heffect := db.answer_effect call
  exact ⟨h.hosts.step heffect, h.sessions.step heffect, fun sid => (h.samples sid).step heffect,
    h.references.step heffect⟩

/-- Nothing has happened to the session that is opened next. -/
theorem TelemetryTracks.untouched {log : List TelemetryEntry} {db : TelemetryDatabase}
    (h : TelemetryTracks log db) {id : Int64}
    (hid : tryFromNat (db.sessions.lastId + 1) = some id) :
    closings log id = [] ∧ retainedSystem log id = [] ∧ retainedProcesses log id = [] := by
  obtain ⟨-, hnew⟩ := h.sessions.new_id hid
  have hunopened : id ∉ db.sessionIds := by
    intro hmem
    obtain ⟨row, hrow, heq⟩ := List.mem_map.1 hmem
    obtain ⟨r, hr, rfl⟩ := List.mem_map.1 hrow
    exact hnew r hr heq
  obtain ⟨hsystem, hprocesses⟩ := h.references.unopened hunopened
  refine ⟨h.sessions.not_closed hnew, ?_, ?_⟩
  · have hrows := (h.samples id).system
    rw [hsystem] at hrows
    exact List.forall₂_nil_left_iff.1 hrows
  · have hrows := (h.samples id).processes
    rw [RecordsAll, hprocesses] at hrows
    exact List.forall₂_nil_left_iff.1 hrows

theorem telemetryTracks_after (calls : List TelemetryCall) :
    TelemetryTracks (telemetryTranscript calls) (telemetryAfter calls) := by
  exact Machine.transcript_induction TelemetryDatabase.answer TelemetryTracks .fresh
    (fun log db call h => h.call call) calls

/-- **What the tables hold.** After any calls, some of which may have failed: an id that was
    answered for a host is the id of one machine; the sessions are those that were opened, each
    with its closing, and none was closed twice; and the samples of a session are, in their
    order, those that no later deletion was newer than. -/
theorem tables_hold_history (calls : List TelemetryCall) :
    (∀ a ∈ hostAnswers (telemetryTranscript calls), ∀ b ∈ hostAnswers (telemetryTranscript calls),
        a.2 = b.2 ↔ a.1 = b.1) ∧
      ((telemetryAfter calls).sessions.rows.map Prod.snd =
        (openings (telemetryTranscript calls)).map fun o =>
          o.row (closings (telemetryTranscript calls) o.id).head?) ∧
      (∀ sid, (closings (telemetryTranscript calls) sid).length ≤ 1) ∧
      ∀ sid,
        List.Forall₂ SystemSampleRow.Stores
          (systemSamplesOf (telemetryAfter calls).systemSamples sid)
          (retainedSystem (telemetryTranscript calls) sid) ∧
        RecordsAll (telemetryAfter calls).processCatalog sid (telemetryAfter calls).processSamples
          (retainedProcesses (telemetryTranscript calls) sid) := by
  have h := telemetryTracks_after calls
  exact ⟨fun a ha b hb => h.hosts.id_eq_iff ha hb, h.sessions.rows, h.sessions.once,
    fun sid => ⟨(h.samples sid).system, (h.samples sid).processes⟩⟩

end Nemor.Storage
