import Nemor.Lib.Aggregate
import Nemor.Lib.CheckedCounters
import Nemor.Lib.Rendering
import Nemor.Storage.TelemetryHistory

/-!
# Reading the telemetry database

`nemorctl report` and `nemorctl status` read the last session. §3 says what they answer after
any calls, in terms of the samples as they were collected: the report cannot fail on what the
storage has written, and the status tells how the last session was closed.
-/

namespace Nemor.Storage

open MachineNumbers Fallible Collector SortedSet

/-! ## §1 The readers -/

/-- The report of the last session. -/
structure LatestTelemetryReport where
  sessionId : Int64
  startedAt : String
  endedAt : Option String
  systemSamples : ℕ
  processSamples : ℕ
  minMemAvailableBytes : Option UInt64
  maxSwapUsedBytes : Option UInt64
  maxPsiMemorySomeAvg10 : Option F64
  maxPsiMemoryFullAvg10 : Option F64
  deltaMajorFaults : Option UInt64
  deltaSwapInPages : Option UInt64
  deltaSwapOutPages : Option UInt64
  zramObserved : Bool
  zswapObserved : Bool
  capabilitiesUnavailable : List String

/-- `MIN` and `MAX` of a column of integers; NULL is left out before. -/
def sqlMin (values : List Int64) : Option Int64 := Aggregate.best (fun x m => decide (x < m)) values

/-- `MAX`. -/
def sqlMax (values : List Int64) : Option Int64 := Aggregate.best (fun x m => decide (m < x)) values

/-- `MAX` of a column of reals, which holds no NaN. -/
def sqlMaxReal (values : List F64) : Option F64 := Aggregate.best (fun x m => F64.lt m x) values

/-- `u64::try_from` of a signed integer. -/
def tryToU64 (n : Int64) : Option UInt64 :=
  if 0 ≤ n.toInt then some (.ofNat n.toInt.toNat) else none

/-- A column that is read as a `u64`. -/
def i64ToU64 (value : Int64) (complaint : String) : Except StorageError UInt64 :=
  okOr (tryToU64 value) ⟨some complaint, "out of range integral type conversion attempted"⟩

/-- The same for a column that may be null. -/
def optionalI64ToU64 (value : Option Int64) (field : String) :
    Except StorageError (Option UInt64) :=
  match value with
  | none => .ok none
  | some value => do
    let n ← i64ToU64 value (field ++ " is negative")
    return some n

/-- The values of a column with their times, in the order of the rows. -/
def timedColumn {α β : Type} (time : α → Int64) (column : α → Option β) (rows : List α) :
    List (Int64 × β) :=
  rows.filterMap fun r => (column r).map fun v => (time r, v)

/-- `ORDER BY timestamp_ns ASC, id ASC`: the rows come in the order of their ids, and the sort
    keeps it. -/
def inTimeOrder {β : Type} (values : List (Int64 × β)) : List β :=
  (values.insertionSort fun a b => a.1.toInt ≤ b.1.toInt).map Prod.snd

/-- How far a counter has gone between the first and the last value. -/
def queryCounterDelta (rows : List SystemSampleRow) (column : SystemSampleRow → Option Int64)
    (name : String) : Except StorageError (Option UInt64) :=
  let values := inTimeOrder (timedColumn SystemSampleRow.timestampNs column rows)
  match values.head?, values.getLast? with
  | some first, some last => do
    let complaint := "negative `" ++ name ++ "` counter"
    let first ← i64ToU64 first complaint
    let last ← i64ToU64 last complaint
    return U64.sub last first
  | _, _ => .ok none

namespace TelemetryDatabase

/-- `ORDER BY id DESC LIMIT 1`. -/
def lastSession (db : TelemetryDatabase) : Option SessionRow :=
  db.sessions.rows.getLast?.map Prod.snd

/-- `latest_telemetry_report`. -/
def latestTelemetryReport (db : TelemetryDatabase) :
    Except StorageError LatestTelemetryReport := do
  let session ← okOr db.lastSession ⟨none, "database contains no sessions"⟩
  let rows := systemSamplesOf db.systemSamples session.id
  let minMemAvailableBytes ← optionalI64ToU64
    (sqlMin (rows.map SystemSampleRow.memAvailableBytes)) "minimum memory"
  let maxSwapUsedBytes ← optionalI64ToU64
    (sqlMax (rows.filterMap SystemSampleRow.swapUsedBytes)) "maximum swap"
  let deltaMajorFaults ← queryCounterDelta rows SystemSampleRow.majorFaults "major_faults"
  let deltaSwapInPages ← queryCounterDelta rows SystemSampleRow.swapInPages "swap_in_pages"
  let deltaSwapOutPages ← queryCounterDelta rows SystemSampleRow.swapOutPages "swap_out_pages"
  return {
    sessionId := session.id
    startedAt := session.startedAt
    endedAt := session.endedAt
    systemSamples := rows.length
    processSamples := (samplesOf db.processSamples session.id).length
    minMemAvailableBytes, maxSwapUsedBytes
    maxPsiMemorySomeAvg10 := sqlMaxReal (rows.filterMap SystemSampleRow.psiMemorySomeAvg10)
    maxPsiMemoryFullAvg10 := sqlMaxReal (rows.filterMap SystemSampleRow.psiMemoryFullAvg10)
    deltaMajorFaults, deltaSwapInPages, deltaSwapOutPages
    zramObserved := rows.any SystemSampleRow.zramPresent
    zswapObserved := rows.any SystemSampleRow.zswapPresent
    capabilitiesUnavailable :=
      sortDedup (rows.flatMap SystemSampleRow.capabilitiesUnavailableJson) }

end TelemetryDatabase

/-- What the status shows of a host. -/
structure HostSummary where
  id : ℕ
  machineId : String
  hostname : String
  distro : String
  distroVersion : Option String
  kernelVersion : String
  deriving DecidableEq

/-- What the status shows of a session. -/
structure SessionSummary where
  id : Int64
  hostId : Int64
  mode : String
  daemonVersion : String
  startedAt : String
  endedAt : Option String
  cleanShutdown : Bool
  deriving DecidableEq

/-- What the status is about. -/
inductive StatusState where
  | databaseMissing
  | noSessions
  | sessionOpen
  | closedClean
  | closedUnclean
  deriving DecidableEq

/-- The status of a database. -/
structure StatusReport where
  databasePath : String
  databasePresent : Bool
  schemaVersion : Option Int64
  lastHost : Option HostSummary
  lastSession : Option SessionSummary
  state : StatusState
  stateDescription : String
  deriving DecidableEq

/-- A database file: its journal mode, the largest migration it records, and its tables. -/
structure DatabaseFile where
  journalMode : String
  schemaVersion : Option Int64
  tables : TelemetryDatabase

/-- `ORDER BY updated_at DESC, id DESC LIMIT 1`. -/
def TelemetryDatabase.lastHost (db : TelemetryDatabase) : Option (ℕ × HostRow) :=
  Aggregate.best (fun x m => decide (m.2.updatedAt < x.2.updatedAt ∨
    (m.2.updatedAt = x.2.updatedAt ∧ m.1 < x.1))) db.hosts.rows

/-- A row as a summary. -/
def mapHost (r : ℕ × HostRow) : HostSummary :=
  ⟨r.1, r.2.machineId, r.2.hostname, r.2.distro, r.2.distroVersion, r.2.kernelVersion⟩

/-- A row as a summary. -/
def mapSession (r : SessionRow) : SessionSummary :=
  ⟨r.id, r.hostId, r.mode, r.daemonVersion, r.startedAt, r.endedAt, r.cleanShutdown⟩

/-- What is said of the last session. -/
def sessionState (session : Option SessionSummary) : StatusState × String :=
  match session with
  | none => (.noSessions, "the database is initialized but contains no sessions")
  | some session =>
    if session.endedAt.isNone then
      (.sessionOpen,
        "the latest session record has no end time; this does not prove the daemon is running")
    else if session.cleanShutdown then (.closedClean, "the latest session was closed cleanly")
    else
      (.closedUnclean, "the latest session has an end time but was not marked as a clean shutdown")

/-- `inspect_status`: it opens no file that is not there. -/
def inspectStatus (path : String) (file : Option DatabaseFile) :
    Except StorageError StatusReport :=
  match file with
  | none => .ok
      { databasePath := path
        databasePresent := false
        schemaVersion := none
        lastHost := none
        lastSession := none
        state := .databaseMissing
        stateDescription := "the configured database file does not exist" }
  | some file => do
    refuse (Text.toAsciiLowercase file.journalMode.toList ≠ "wal".toList)
      ⟨none, "database " ++ path ++ " is not in WAL mode (reported " ++ file.journalMode ++ ")"⟩
    let lastSession := file.tables.lastSession.map mapSession
    let (state, stateDescription) := sessionState lastSession
    return {
      databasePath := path
      databasePresent := true
      schemaVersion := file.schemaVersion
      lastHost := file.tables.lastHost.map mapHost
      lastSession, state, stateDescription }

/-! ## §2 What a report should say -/

/-- The report on a session that is made from the samples themselves. -/
def reportOf (o : Opening) (closed : Option Closing) (samples : List SystemSample)
    (processes : List ProcessClassification) : LatestTelemetryReport where
  sessionId := o.id
  startedAt := o.startedAt
  endedAt := closed.map Closing.endedAt
  systemSamples := samples.length
  processSamples := processes.length
  minMemAvailableBytes :=
    Aggregate.best (fun x m => decide (x < m)) (samples.map SystemSample.memAvailableBytes)
  maxSwapUsedBytes :=
    Aggregate.best (fun x m => decide (m < x)) (samples.filterMap SystemSample.swapUsedBytes)
  maxPsiMemorySomeAvg10 := Aggregate.best (fun x m => F64.lt m x)
    (samples.filterMap fun s => avg10 s.psiMemory Psi.PsiSample.some)
  maxPsiMemoryFullAvg10 := Aggregate.best (fun x m => F64.lt m x)
    (samples.filterMap fun s => avg10 s.psiMemory Psi.PsiSample.full)
  deltaMajorFaults := delta SystemSample.majorFaults
  deltaSwapInPages := delta SystemSample.swapInPages
  deltaSwapOutPages := delta SystemSample.swapOutPages
  zramObserved := samples.any fun s => s.zram.available
  zswapObserved := samples.any fun s => s.zswap.available
  capabilitiesUnavailable := sortDedup (samples.flatMap SystemSample.capabilitiesUnavailable)
where
  /-- From the first value to the last one in time, if it did not go back. -/
  delta (counter : SystemSample → Option UInt64) : Option UInt64 :=
    let values := inTimeOrder (timedColumn SystemSample.timestampNs counter samples)
    match values.head?, values.getLast? with
    | some first, some last => U64.sub last first
    | _, _ => none

/-! ## §3 What a report says -/

section Columns

variable {rows : List SystemSampleRow} {samples : List SystemSample}
  (h : List.Forall₂ SystemSampleRow.Stores rows samples)
include h

/-- A column of the rows is the column of the samples. -/
theorem map_column {γ : Type} {f : SystemSampleRow → γ} {g : SystemSample → γ}
    (hfg : ∀ row s, row.Stores s → f row = g s) : rows.map f = samples.map g := by
  induction h with
  | nil => rfl
  | cons hrow _ ih => rw [List.map_cons, List.map_cons, hfg _ _ hrow, ih]

theorem any_column {f : SystemSampleRow → Bool} {g : SystemSample → Bool}
    (hfg : ∀ row s, row.Stores s → f row = g s) : rows.any f = samples.any g := by
  induction h with
  | nil => rfl
  | cons hrow _ ih => rw [List.any_cons, List.any_cons, hfg _ _ hrow, ih]

theorem filterMap_column {γ : Type} {f : SystemSampleRow → Option γ} {g : SystemSample → Option γ}
    (hfg : ∀ row s, row.Stores s → f row = g s) : rows.filterMap f = samples.filterMap g := by
  have hmap := map_column h hfg
  have hrows (l : List SystemSampleRow) : l.filterMap f = (l.map f).filterMap id := by
    simp [List.filterMap_map]
  have hsamples (l : List SystemSample) : l.filterMap g = (l.map g).filterMap id := by
    simp [List.filterMap_map]
  rw [hrows, hsamples, hmap]

/-- The counters of a column, with the values as integers. -/
theorem map_filterMap_column {column : SystemSampleRow → Option Int64}
    {counter : SystemSample → Option UInt64}
    (hcolumn : ∀ row s, row.Stores s →
      (column row).map Int64.toInt = (counter s).map fun n => (n.toNat : ℤ)) :
    (rows.filterMap column).map Int64.toInt =
      (samples.filterMap counter).map fun n => (n.toNat : ℤ) := by
  rw [List.map_filterMap, List.map_filterMap]
  exact filterMap_column h hcolumn

theorem timed_column {column : SystemSampleRow → Option Int64}
    {counter : SystemSample → Option UInt64}
    (hcolumn : ∀ row s, row.Stores s →
      (column row).map Int64.toInt = (counter s).map fun n => (n.toNat : ℤ)) :
    (timedColumn SystemSampleRow.timestampNs column rows).map (fun v => (v.1, v.2.toInt)) =
      (timedColumn SystemSample.timestampNs counter samples).map
        fun v => (v.1, (v.2.toNat : ℤ)) := by
  unfold timedColumn
  rw [List.map_filterMap, List.map_filterMap]
  apply filterMap_column h
  intro row s hrow
  have hvalue := hcolumn row s hrow
  rw [hrow.timestampNs]
  cases hr : column row <;> cases hs : counter s <;> simp_all

end Columns

theorem tryToU64_of_eq {n : Int64} {v : UInt64} (h : n.toInt = v.toNat) : tryToU64 n = some v := by
  have hnonneg : 0 ≤ n.toInt := by omega
  rw [tryToU64, if_pos hnonneg, h, Int.toNat_natCast, UInt64.ofNat_toNat]

theorem i64ToU64_of_eq {n : Int64} {v : UInt64} (complaint : String) (h : n.toInt = v.toNat) :
    i64ToU64 n complaint = .ok v := by
  rw [i64ToU64, tryToU64_of_eq h, okOr_some]

/-- A counter that was stored is read as it was. -/
theorem optionalI64ToU64_of_map_eq {x : Option Int64} {y : Option UInt64} (field : String)
    (h : x.map Int64.toInt = y.map fun n => (n.toNat : ℤ)) : optionalI64ToU64 x field = .ok y := by
  cases x with
  | none =>
    cases y with
    | none => rfl
    | some v => cases h
  | some n =>
    cases y with
    | none => cases h
    | some v =>
      rw [optionalI64ToU64, i64ToU64_of_eq _ (Option.some.inj h), ok_bind]
      rfl

/-- The order in time does not see how the values are spelled. -/
theorem inTimeOrder_map {β γ : Type} (f : β → γ) (values : List (Int64 × β)) :
    inTimeOrder (values.map fun v => (v.1, f v.2)) = (inTimeOrder values).map f := by
  have hsort := List.map_insertionSort (r := fun a b : Int64 × β => a.1.toInt ≤ b.1.toInt)
    (s := fun a b : Int64 × γ => a.1.toInt ≤ b.1.toInt) (fun v => (v.1, f v.2)) values
    fun _ _ _ _ => Iff.rfl
  rw [inTimeOrder, ← hsort, inTimeOrder, List.map_map, List.map_map]
  rfl

section Aggregates

variable {rows : List SystemSampleRow} {samples : List SystemSample}
  (h : List.Forall₂ SystemSampleRow.Stores rows samples)
  {column : SystemSampleRow → Option Int64} {counter : SystemSample → Option UInt64}
  (hcolumn : ∀ row s, row.Stores s →
    (column row).map Int64.toInt = (counter s).map fun n => (n.toNat : ℤ))
include h hcolumn

/-- The same value is the best one of the rows and of the samples. -/
theorem best_column {better : Int64 → Int64 → Bool} {better' : UInt64 → UInt64 → Bool}
    (less : ℤ → ℤ → Bool) (hrows : ∀ a b, less a.toInt b.toInt = better a b)
    (hsamples : ∀ a b, less (a.toNat : ℤ) b.toNat = better' a b) :
    (Aggregate.best better (rows.filterMap column)).map Int64.toInt =
      (Aggregate.best better' (samples.filterMap counter)).map fun n => (n.toNat : ℤ) := by
  rw [← Aggregate.best_map (S := fun _ => True) (fun a b _ _ => hrows a b) (by simp),
    ← Aggregate.best_map (S := fun _ => True) (fun a b _ _ => hsamples a b) (by simp),
    map_filterMap_column h hcolumn]

theorem queryCounterDelta_eq (name : String) :
    queryCounterDelta rows column name = .ok (reportOf.delta samples counter) := by
  -- the stored numbers are the samples' own, in the same order
  have hvalues : (inTimeOrder (timedColumn SystemSampleRow.timestampNs column rows)).map
      Int64.toInt = (inTimeOrder (timedColumn SystemSample.timestampNs counter samples)).map
        fun n => (n.toNat : ℤ) := by
    rw [← inTimeOrder_map, ← inTimeOrder_map, timed_column h hcolumn]
  unfold queryCounterDelta reportOf.delta
  generalize inTimeOrder (timedColumn SystemSampleRow.timestampNs column rows) = stored at hvalues
  generalize inTimeOrder (timedColumn SystemSample.timestampNs counter samples) = values at hvalues
  dsimp only
  have hhead : stored.head?.map Int64.toInt = values.head?.map fun n => (n.toNat : ℤ) := by
    rw [← List.head?_map, hvalues, List.head?_map]
  have hlast : stored.getLast?.map Int64.toInt = values.getLast?.map fun n => (n.toNat : ℤ) := by
    rw [← List.getLast?_map, hvalues, List.getLast?_map]
  cases hfirst : values.head? with
  | none =>
    have hf : stored.head? = none := by simpa [hfirst] using hhead
    simp [hf]
  | some first =>
    obtain ⟨n, hf, hn⟩ : ∃ n, stored.head? = some n ∧ n.toInt = first.toNat := by
      simpa [hfirst] using hhead
    cases hend : values.getLast? with
    | none =>
      have hl : stored.getLast? = none := by simpa [hend] using hlast
      simp [hl]
    | some last =>
      obtain ⟨m, hl, hm⟩ : ∃ m, stored.getLast? = some m ∧ m.toInt = last.toNat := by
        simpa [hend] using hlast
      rw [hf, hl]
      dsimp only
      rw [i64ToU64_of_eq _ hn, ok_bind, i64ToU64_of_eq _ hm, ok_bind]
      rfl

end Aggregates

/-- The last row is the last session that was opened. -/
theorem SessionsTrack.lastSession {log : List TelemetryEntry} {db : TelemetryDatabase}
    (h : SessionsTrack log db.sessions) :
    db.lastSession = (openings log).getLast?.map fun o => o.row (closings log o.id).head? := by
  rw [TelemetryDatabase.lastSession, ← List.getLast?_map, h.rows, List.getLast?_map]

/-- The report on what the storage has written. -/
theorem latestTelemetryReport_eq {log : List TelemetryEntry} {db : TelemetryDatabase}
    (h : TelemetryTracks log db) : db.latestTelemetryReport =
      match (openings log).getLast? with
      | none => .error ⟨none, "database contains no sessions"⟩
      | some o => .ok (reportOf o (closings log o.id).head? (retainedSystem log o.id)
          (retainedProcesses log o.id)) := by
  unfold TelemetryDatabase.latestTelemetryReport
  rw [h.sessions.lastSession]
  cases (openings log).getLast? with
  | none => rfl
  | some o =>
    have hsystem := (h.samples o.id).system
    have hprocesses := (h.samples o.id).processes.length_eq
    rw [Option.map_some, okOr_some, ok_bind]
    dsimp only [Opening.row]
    generalize hrows : systemSamplesOf db.systemSamples o.id = rows at hsystem
    generalize retainedSystem log o.id = samples at hsystem ⊢
    -- the integers come back as they were collected
    have hmin : (sqlMin (rows.map SystemSampleRow.memAvailableBytes)).map Int64.toInt =
        (Aggregate.best (fun x m => decide (x < m))
          (samples.map SystemSample.memAvailableBytes)).map fun n => (n.toNat : ℤ) := by
      have hbest : (sqlMin (rows.filterMap fun r => some r.memAvailableBytes)).map Int64.toInt =
          (Aggregate.best (fun x m => decide (x < m))
            (samples.filterMap fun s => some s.memAvailableBytes)).map fun n => (n.toNat : ℤ) :=
        best_column hsystem (fun _ _ hrow => by simp [hrow.memAvailableBytes])
          (fun x m => decide (x < m))
          (fun a b => by rw [decide_eq_decide, Int64.lt_iff_toInt_lt])
          (fun a b => by rw [decide_eq_decide, UInt64.lt_iff_toNat_lt, Nat.cast_lt])
      simpa using hbest
    have hmax : (sqlMax (rows.filterMap SystemSampleRow.swapUsedBytes)).map Int64.toInt =
        (Aggregate.best (fun x m => decide (m < x))
          (samples.filterMap SystemSample.swapUsedBytes)).map fun n => (n.toNat : ℤ) :=
      best_column hsystem (fun _ _ hrow => hrow.swapUsedBytes) (fun x m => decide (m < x))
        (fun a b => by rw [decide_eq_decide, Int64.lt_iff_toInt_lt])
        (fun a b => by rw [decide_eq_decide, UInt64.lt_iff_toNat_lt, Nat.cast_lt])
    rw [optionalI64ToU64_of_map_eq _ hmin, ok_bind, optionalI64ToU64_of_map_eq _ hmax, ok_bind,
      queryCounterDelta_eq hsystem (fun _ _ hrow => hrow.majorFaults), ok_bind,
      queryCounterDelta_eq hsystem (fun _ _ hrow => hrow.swapInPages), ok_bind,
      queryCounterDelta_eq hsystem (fun _ _ hrow => hrow.swapOutPages), ok_bind]
    -- the other columns are equal
    have hsome := filterMap_column hsystem fun _ _ hrow => hrow.psiMemorySomeAvg10
    have hfull := filterMap_column hsystem fun _ _ hrow => hrow.psiMemoryFullAvg10
    have hzram := any_column hsystem fun _ _ hrow => hrow.zramPresent
    have hzswap := any_column hsystem fun _ _ hrow => hrow.zswapPresent
    have hnames := map_column hsystem fun _ _ hrow => hrow.capabilities
    simp only [pure, Except.pure, reportOf, hsystem.length_eq, hprocesses, hsome, hfull,
      sqlMaxReal, hzram, hzswap, List.flatMap, hnames]
    rfl

/-! ## §4 Any calls -/

open Aggregate (Extreme)

theorem extreme_min (values : List UInt64) : Extreme (fun x m => decide (x < m))
    (Aggregate.best (fun x m => decide (x < m)) values) values := by
  apply Aggregate.extreme_by_key UInt64.toNat
  intro x m
  rw [decide_eq_decide, UInt64.lt_iff_toNat_lt]

theorem extreme_max (values : List UInt64) : Extreme (fun x m => decide (m < x))
    (Aggregate.best (fun x m => decide (m < x)) values) values := by
  apply Aggregate.extreme_by_key fun n => -(n.toNat : ℤ)
  intro x m
  rw [decide_eq_decide, UInt64.lt_iff_toNat_lt, neg_lt_neg_iff, Nat.cast_lt]

/-- A column of reals holds no NaN, so its values can be compared. -/
theorem extreme_real {samples : List SystemSample} (sample : SystemSample → Option Psi.PsiSample)
    (line : Psi.PsiSample → Option Psi.PsiLine) :
    Extreme (fun x m => F64.lt m x)
      (Aggregate.best (fun x m => F64.lt m x)
        (samples.filterMap fun s => avg10 (sample s) line))
      (samples.filterMap fun s => avg10 (sample s) line) := by
  refine Aggregate.extreme_best (S := fun x => x ≠ .nan) ?_ ?_ ?_ fun x hx => ?_
  · intro x
    cases x <;> simp [F64.lt]
  · intro x y z hy hxy hyz
    cases x <;> cases y <;> cases z <;> simp_all [F64.lt]
    exact hxy.trans hyz
  · intro x y hxy
    cases x <;> cases y <;> simp_all [F64.lt]
    exact hxy.le
  · obtain ⟨s, -, hs⟩ := List.mem_filterMap.1 hx
    rintro rfl
    unfold avg10 sqlReal at hs
    obtain ⟨y, -, hy⟩ := Option.bind_eq_some_iff.1 hs
    cases y <;> simp at hy

/-- What the values of a report mean for the samples. -/
structure LatestTelemetryReport.Summarizes (report : LatestTelemetryReport)
    (samples : List SystemSample) : Prop where
  leastAvailable : Extreme (fun x m => decide (x < m)) report.minMemAvailableBytes
    (samples.map SystemSample.memAvailableBytes)
  mostSwap : Extreme (fun x m => decide (m < x)) report.maxSwapUsedBytes
    (samples.filterMap SystemSample.swapUsedBytes)
  mostSome : Extreme (fun x m => F64.lt m x) report.maxPsiMemorySomeAvg10
    (samples.filterMap fun s => avg10 s.psiMemory Psi.PsiSample.some)
  mostFull : Extreme (fun x m => F64.lt m x) report.maxPsiMemoryFullAvg10
    (samples.filterMap fun s => avg10 s.psiMemory Psi.PsiSample.full)
  zram : report.zramObserved ↔ ∃ s ∈ samples, s.zram.available
  zswap : report.zswapObserved ↔ ∃ s ∈ samples, s.zswap.available
  sorted : report.capabilitiesUnavailable.Pairwise (· < ·)
  capabilities : ∀ name, name ∈ report.capabilitiesUnavailable ↔
    ∃ s ∈ samples, name ∈ s.capabilitiesUnavailable

theorem reportOf_summarizes (o : Opening) (closed : Option Closing) (samples : List SystemSample)
    (processes : List ProcessClassification) :
    (reportOf o closed samples processes).Summarizes samples where
  leastAvailable := extreme_min _
  mostSwap := extreme_max _
  mostSome := extreme_real _ _
  mostFull := extreme_real _ _
  zram := by simp [reportOf]
  zswap := by simp [reportOf]
  sorted := sortDedup_pairwise _
  capabilities name := by simp [reportOf]

/-- **The report.** After any calls it fails only when no session was opened. Else it is the
    report on the session that was opened last, made from its samples that were kept, as they
    were collected: its extremes are those of these samples, and it names the capabilities that
    some of them name. -/
theorem report_tells_history (calls : List TelemetryCall) :
    match (openings (telemetryTranscript calls)).getLast? with
    | none => (telemetryAfter calls).latestTelemetryReport =
        .error ⟨none, "database contains no sessions"⟩
    | some o => ∃ report, (telemetryAfter calls).latestTelemetryReport = .ok report ∧
        report = reportOf o (closings (telemetryTranscript calls) o.id).head?
          (retainedSystem (telemetryTranscript calls) o.id)
          (retainedProcesses (telemetryTranscript calls) o.id) ∧
        report.Summarizes (retainedSystem (telemetryTranscript calls) o.id) := by
  rw [latestTelemetryReport_eq (telemetryTracks_after calls)]
  cases (openings (telemetryTranscript calls)).getLast? with
  | none => rfl
  | some o => exact ⟨_, rfl, rfl, reportOf_summarizes o _ _ _⟩

/-- How a session stands: open, or closed in one of two ways. -/
def standing (closed : Option Closing) : StatusState :=
  match closed with
  | none => .sessionOpen
  | some c => if c.cleanShutdown then .closedClean else .closedUnclean

theorem sessionState_row (o : Opening) (closed : Option Closing) :
    (sessionState (some (mapSession (o.row closed)))).1 = standing closed := by
  cases closed with
  | none => rfl
  | some c =>
    have hended : (mapSession (o.row (some c))).endedAt.isNone = false := rfl
    have hclean : (mapSession (o.row (some c))).cleanShutdown = c.cleanShutdown := by
      simp [mapSession, Opening.row]
    simp only [sessionState, hended, hclean, standing]
    cases c.cleanShutdown <;> rfl

/-- The status of a database against its history. -/
theorem inspectStatus_tracks (path : String) (schemaVersion : Option Int64)
    {log : List TelemetryEntry} {db : TelemetryDatabase} (h : TelemetryTracks log db) :
    ∃ report, inspectStatus path (some ⟨"wal", schemaVersion, db⟩) = .ok report ∧
      match (openings log).getLast? with
      | none => report.state = .noSessions ∧ report.lastSession = none
      | some o => report.state = standing (closings log o.id).head? ∧
          report.lastSession = some (mapSession (o.row (closings log o.id).head?)) := by
  have hsession := h.sessions.lastSession
  have hwal : ¬ Text.toAsciiLowercase "wal".toList ≠ "wal".toList := by decide
  refine ⟨_, refuse_bind_eq_ok.2 ⟨hwal, rfl⟩, ?_⟩
  rw [hsession]
  cases (openings log).getLast? with
  | none => exact ⟨rfl, rfl⟩
  | some o => exact ⟨sessionState_row o _, rfl⟩

/-- **The status.** After any calls it is that of the session that was opened last: open as long
    as no call has closed it, and else as the one call that did has said. -/
theorem status_tells_history (path : String) (schemaVersion : Option Int64)
    (calls : List TelemetryCall) :
    ∃ report, inspectStatus path (some ⟨"wal", schemaVersion, telemetryAfter calls⟩) = .ok report ∧
      match (openings (telemetryTranscript calls)).getLast? with
      | none => report.state = .noSessions ∧ report.lastSession = none
      | some o => report.state =
            standing (closings (telemetryTranscript calls) o.id).head? ∧
          report.lastSession =
            some (mapSession (o.row (closings (telemetryTranscript calls) o.id).head?)) :=
  inspectStatus_tracks path schemaVersion (telemetryTracks_after calls)

end Nemor.Storage
