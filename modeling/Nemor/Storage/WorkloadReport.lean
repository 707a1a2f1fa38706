import Nemor.Storage.TelemetryReport

/-!
# Reading the workload

`nemorctl workload` reads the last stored transition of the last session and counts the
processes of the newest samples by their category. Transitions that repeat the class before are
not stored, and categories are those of the catalog. §5 says what is read after any calls, in
terms of the transitions that were written and of everything that was observed. Reasons are kept
as JSON, which has no numbers that are not finite; §6 says which writers never meet that.
-/

namespace Nemor.Storage

open MachineNumbers Fallible Classifier Log
open Policy (WorkloadClass)

/-! ## §1 The reader -/

/-- The report of the last session. -/
structure LatestWorkloadReport where
  sessionId : Int64
  available : Bool
  currentClass : Option WorkloadClass
  confidence : Option F64
  ruleVersion : Option String
  lastChangeTimestampNs : Option Int64
  topReasons : List String
  gamingSignals : List String
  pressureSignal : Option String
  gameProcesses : ℕ
  criticalProcesses : ℕ
  unknownProcesses : ℕ
  message : String

/-- How many processes are of the categories that are reported. -/
structure CategoryCounts where
  game : ℕ
  critical : ℕ
  unknown : ℕ
  deriving DecidableEq

/-- Read the column of a class. -/
def parseWorkloadClass (value : String) : Except StorageError WorkloadClass :=
  match value with
  | "idle" => .ok .idle
  | "desktop" => .ok .desktop
  | "browser_heavy" => .ok .browserHeavy
  | "development" => .ok .development
  | "gaming" => .ok .gaming
  | "gaming_background_heavy" => .ok .gamingBackgroundHeavy
  | "virtualization" => .ok .virtualization
  | "memory_pressure" => .ok .memoryPressure
  | "critical_pressure" => .ok .criticalPressure
  | _ => .error ⟨none, "unknown workload class `" ++ value ++ "` in database"⟩

/-- `str::contains`. -/
def mentions (text word : String) : Bool := decide (word.toList <:+: text.toList)

/-- The numbers of an explanation. Its JSON has `null` in the place of each that is not finite. -/
def explanationNumbers (x : WorkloadExplanation) : List F64 :=
  x.confidence :: x.evidence.map Evidence.contribution ++
    x.rejectedCandidates.map RejectedCandidate.confidence

/-- Every number of the explanation can be read back from its JSON. -/
def WorkloadExplanation.Readable (x : WorkloadExplanation) : Prop :=
  ∀ n ∈ explanationNumbers x, n.isFinite

instance (x : WorkloadExplanation) : Decidable (WorkloadExplanation.Readable x) :=
  inferInstanceAs (Decidable (∀ n ∈ explanationNumbers x, n.isFinite))

/-- `serde_json` refuses a `null` that stands for a number. -/
def explanationUnreadable : StorageError :=
  ⟨some "invalid workload explanation JSON", "invalid type: null, expected f64"⟩

/-- `serde_json::from_str` on what `serde_json::to_string` wrote for an explanation. -/
def parseExplanation (written : WorkloadExplanation) :
    Except StorageError WorkloadExplanation :=
  if WorkloadExplanation.Readable written then .ok written else .error explanationUnreadable

/-- A line of evidence as the report shows it. -/
def reasonText (e : Evidence) : String := e.code ++ ": " ++ e.observed

/-- What an explanation says about games. -/
def gamingSignalsOf (x : WorkloadExplanation) : List String :=
  (x.evidence.filter fun e => mentions e.code "game").map Evidence.code ++
    x.protectionReasons.filter fun reason => mentions reason "game"

/-- The first thing it says about pressure. -/
def pressureSignalOf (x : WorkloadExplanation) : Option String :=
  (x.evidence.find? fun e => mentions e.code "pressure").map reasonText

namespace TelemetryDatabase

/-- `ORDER BY timestamp_ns DESC, id DESC LIMIT 1`. -/
def latestEvent (db : TelemetryDatabase) (sid : Int64) : Option WorkloadEventRow :=
  db.workloadEvents.latest WorkloadEventRow.time fun r => decide (r.sessionId = sid)

/-- The category of the catalog entry a sample refers to. -/
def categoryOf (db : TelemetryDatabase) (r : ProcessSampleRow) : Option String :=
  (db.processCatalog.rows.find? fun e => e.1 == r.processCatalogId).map fun e => e.2.category

/-- The processes of the newest samples, joined with the catalog and grouped by category. -/
def latestProcessCategoryCounts (db : TelemetryDatabase) (sid : Int64) : CategoryCounts :=
  let rows := samplesOf db.processSamples sid
  match sqlMax (rows.map ProcessSampleRow.timestampNs) with
  | none => ⟨0, 0, 0⟩
  | some timestamp =>
    let categories :=
      (rows.filter fun r => decide (r.timestampNs = timestamp)).filterMap db.categoryOf
    ⟨categories.count "game", categories.count "critical", categories.count "unknown"⟩

/-- `latest_workload_report`. -/
def latestWorkloadReport (db : TelemetryDatabase) :
    Except StorageError LatestWorkloadReport := do
  let session ← okOr db.lastSession ⟨none, "database contains no sessions"⟩
  let counts := db.latestProcessCategoryCounts session.id
  match db.latestEvent session.id with
  | none => return {
      sessionId := session.id
      available := false
      currentClass := none
      confidence := none
      ruleVersion := none
      lastChangeTimestampNs := none
      topReasons := []
      gamingSignals := []
      pressureSignal := none
      gameProcesses := counts.game
      criticalProcesses := counts.critical
      unknownProcesses := counts.unknown
      message := "no stabilized workload classification is available" }
  | some event => do
    let currentClass ← parseWorkloadClass event.newClass
    let explanation ← parseExplanation event.reason
    return {
      sessionId := session.id
      available := true
      currentClass := some currentClass
      confidence := some event.confidence
      ruleVersion := some explanation.ruleVersion
      lastChangeTimestampNs := some event.timestampNs
      topReasons := explanation.evidence.map reasonText
      gamingSignals := gamingSignalsOf explanation
      pressureSignal := pressureSignalOf explanation
      gameProcesses := counts.game
      criticalProcesses := counts.critical
      unknownProcesses := counts.unknown
      message := "latest stabilized deterministic workload classification" }

end TelemetryDatabase

/-! ## §2 What the reader should find -/

/-- The batches that were committed. -/
def committed : TelemetryEntry → Option (BatchCall × Except StorageError ℕ)
  | (.insertClassificationBatch batch, .ok _) => some (batch, .ok batch.processes.length)
  | _ => none

/-- The batches of a history. -/
def batches (log : List TelemetryEntry) : BatchTranscript := log.filterMap committed

/-- The transitions of a session in committed batches. -/
def transitionsOf (log : BatchTranscript) (sid : Int64) : List WorkloadTransition :=
  log.filterMap fun e => if e.1.sessionId = sid then e.1.transition else none

/-- A transition, unless the one before has its class. -/
def change (kept : Option WorkloadTransition) (t : WorkloadTransition) : WorkloadTransition :=
  match kept with
  | some k => if k.newClass = t.newClass then k else t
  | none => t

/-- The last transition that changed the class. -/
def lastChange (transitions : List WorkloadTransition) : Option WorkloadTransition :=
  transitions.foldl (fun kept t => some (change kept t)) none

/-- The processes no other one is newer than. -/
def newest (processes : List ProcessClassification) : List ProcessClassification :=
  processes.filter fun p => processes.all fun q => decide (processTime q ≤ processTime p)

/-- What is known of a program after everything that was observed. -/
def knownCategory (log : BatchTranscript) (p : ProcessClassification) : ProcessCategory :=
  lastKnown (observationsOf p.identity (observations log))

/-- The counts that a history gives. -/
def countsOf (log : BatchTranscript) (processes : List ProcessClassification) : CategoryCounts :=
  let categories := (newest processes).map (knownCategory log)
  ⟨categories.count .game, categories.count .critical, categories.count .unknown⟩

/-- The report on a session, given its last change and its counts. -/
def workloadReportOf (sid : Int64) (last : Option WorkloadTransition) (counts : CategoryCounts) :
    LatestWorkloadReport where
  sessionId := sid
  available := last.isSome
  currentClass := last.map WorkloadTransition.newClass
  confidence := last.map WorkloadTransition.confidence
  ruleVersion := last.map fun t => t.explanation.ruleVersion
  lastChangeTimestampNs := last.map WorkloadTransition.timestampNs
  topReasons := (last.toList.flatMap fun t => t.explanation.evidence).map reasonText
  gamingSignals := last.toList.flatMap fun t => gamingSignalsOf t.explanation
  pressureSignal := last.bind fun t => pressureSignalOf t.explanation
  gameProcesses := counts.game
  criticalProcesses := counts.critical
  unknownProcesses := counts.unknown
  message :=
    if last.isSome then "latest stabilized deterministic workload classification"
    else "no stabilized workload classification is available"

/-- The reasons of the last change can be read back; there may be no change at all. -/
def LastReadable (last : Option WorkloadTransition) : Prop :=
  ∀ t ∈ last, WorkloadExplanation.Readable t.explanation

instance (last : Option WorkloadTransition) : Decidable (LastReadable last) :=
  inferInstanceAs (Decidable (∀ t ∈ last, WorkloadExplanation.Readable t.explanation))

theorem lastChange_snoc (transitions : List WorkloadTransition) (t : WorkloadTransition) :
    lastChange (transitions ++ [t]) = some (change (lastChange transitions) t) := by
  simp [lastChange]

/-- The class after the last change is the class of the last transition. -/
theorem newClass_lastChange (transitions : List WorkloadTransition) :
    (lastChange transitions).map WorkloadTransition.newClass =
      transitions.getLast?.map WorkloadTransition.newClass := by
  induction transitions using List.reverseRecOn with
  | nil => rfl
  | append_singleton transitions t _ =>
    rw [lastChange_snoc, List.getLast?_concat, Option.map_some, Option.map_some]
    unfold change
    split
    · split
      · next heq => rw [heq]
      · rfl
    · rfl

theorem parseWorkloadClass_text (c : WorkloadClass) :
    parseWorkloadClass (workloadText c) = .ok c := by
  cases c <;> rfl

theorem workloadText_inj {c d : WorkloadClass} : workloadText c = workloadText d ↔ c = d := by
  constructor
  · intro h
    have hparse := parseWorkloadClass_text c
    rw [h, parseWorkloadClass_text] at hparse
    exact (Except.ok.inj hparse).symm
  · rintro rfl
    rfl

/-! ## §3 The last change -/

/-- Transitions of one session are written in the order of their times. -/
def TransitionsGoForward : TelemetryCall → TelemetryCall → Prop
  | .insertClassificationBatch a, .insertClassificationBatch b => ∀ sid, TransitionsInOrder sid a b
  | _, _ => True

/-- What a committed batch does to the events. -/
theorem batchTransaction_events {db db' : CatalogDatabase} {call : BatchCall}
    (h : db.batchTransaction call = .ok db') :
    match call.transition with
    | none => db'.workloadEvents = db.workloadEvents
    | some t =>
      if db.lastClass call.sessionId = some (workloadText t.newClass) then
        db'.workloadEvents = db.workloadEvents
      else
        db'.workloadEvents =
          db.workloadEvents.insert (CatalogDatabase.eventRow call.sessionId t) := by
  obtain ⟨-, -, h⟩ := bind_eq_ok.1 h
  obtain ⟨db₁, hprocesses, h⟩ := bind_eq_ok.1 h
  obtain ⟨db₂, htransition, h⟩ := bind_eq_ok.1 h
  obtain ⟨-, -, h⟩ := bind_eq_ok.1 h
  cases h
  obtain ⟨-, hevents⟩ := CatalogDatabase.recordProcesses_ok hprocesses
  -- the processes are written first, and they leave the events alone
  have hlast : db₁.lastClass call.sessionId = db.lastClass call.sessionId := by
    rw [CatalogDatabase.lastClass, hevents, CatalogDatabase.lastClass]
  unfold CatalogDatabase.recordGivenTransition at htransition
  split at htransition
  · next t ht =>
    obtain ⟨-, -, h⟩ := bind_eq_ok.1 htransition
    rw [ht, ← hlast, ← hevents]
    split at h
    · next hnew =>
      obtain ⟨-, -, h⟩ := bind_eq_ok.1 h
      obtain ⟨-, h⟩ := ite_error_eq_ok.1 h
      obtain ⟨-, h⟩ := ite_error_eq_ok.1 h
      cases h
      -- a new class, and a confidence that the column takes
      simp [hnew]
    · next hsame =>
      cases h
      simp [not_not.1 hsame]
  · next hnone =>
    cases htransition
    rw [hnone]
    exact hevents

/-- The tables of the batches as the history has them. -/
structure WorkloadTracks (sid : Int64) (log : List TelemetryEntry) (db : TelemetryDatabase) :
    Prop where
  catalog : CatalogInvariant sid (batches log) db.catalog
  latest : db.latestEvent sid =
    (lastChange (transitionsOf (batches log) sid)).map (CatalogDatabase.eventRow sid)

namespace WorkloadTracks

variable {sid : Int64} {log : List TelemetryEntry} {db : TelemetryDatabase}

theorem batches_snoc (log : List TelemetryEntry) (e : TelemetryEntry) :
    batches (log ++ [e]) = batches log ++ (committed e).toList := by
  cases h : committed e <;> simp [batches, h]

/-- The invariant reads the catalog and the events only. -/
theorem congr {log' : BatchTranscript} {c c' : CatalogDatabase}
    (h : CatalogInvariant sid log' c) (hcatalog : c'.processCatalog = c.processCatalog)
    (hevents : c'.workloadEvents = c.workloadEvents) : CatalogInvariant sid log' c' := by
  have hrows : c'.eventsOf sid = c.eventsOf sid := by
    rw [CatalogDatabase.eventsOf, hevents, CatalogDatabase.eventsOf]
  refine ⟨hcatalog ▸ h.catalog, ?_, ?_, ?_⟩
  · rw [hrows]
    exact h.events.source
  · rw [hrows]
    exact h.events.ordered
  · rw [hrows]
    exact h.events.changes

theorem other (h : WorkloadTracks sid log db) {e : TelemetryEntry} {db' : TelemetryDatabase}
    (he : committed e = none) (hcatalog : db'.processCatalog = db.processCatalog)
    (hevents : db'.workloadEvents = db.workloadEvents) : WorkloadTracks sid (log ++ [e]) db' := by
  have hlog : batches (log ++ [e]) = batches log := by simp [batches_snoc, he]
  constructor
  · rw [hlog]
    exact congr h.catalog hcatalog hevents
  · rw [hlog, TelemetryDatabase.latestEvent, hevents]
    exact h.latest

/-- A stored transition becomes the last one, as it is not older than the others. -/
theorem latest_insert (h : WorkloadTracks sid log db) {call : BatchCall}
    (horder : ∀ e ∈ batches log, TransitionsInOrder sid e.1 call) (hsid : call.sessionId = sid)
    {t : WorkloadTransition} (ht : call.transition = some t) :
    (db.workloadEvents.insert (CatalogDatabase.eventRow sid t)).latest WorkloadEventRow.time
        (fun r => decide (r.sessionId = sid)) = some (CatalogDatabase.eventRow sid t) := by
  apply Table.latest_insert (by simp [CatalogDatabase.eventRow])
  intro r hr
  obtain ⟨e, he, hes, s, hs, hsr⟩ := h.catalog.events.source r hr
  have hst := horder e he hes hsid s hs t (by simp [ht])
  rw [hsr] at hst
  exact hst

theorem transitionsOf_snoc (log : BatchTranscript) (call : BatchCall)
    (result : Except StorageError ℕ) :
    transitionsOf (log ++ [(call, result)]) sid =
      transitionsOf log sid ++ if call.sessionId = sid then call.transition.toList else [] := by
  rw [transitionsOf, List.filterMap_append, transitionsOf]
  by_cases hsid : call.sessionId = sid
  · cases ht : call.transition <;> simp [hsid, ht]
  · simp [hsid]

/-- A batch of another session is not seen. -/
theorem latestEvent_other {call : BatchCall} {catalog : CatalogDatabase}
    (hbatch : db.catalog.batchTransaction call = .ok catalog) (hsid : call.sessionId ≠ sid) :
    (db.withCatalog catalog).latestEvent sid = db.latestEvent sid := by
  have hinsert (t : WorkloadTransition) : (db.workloadEvents.insert
      (CatalogDatabase.eventRow call.sessionId t)).latest WorkloadEventRow.time
        (fun r => decide (r.sessionId = sid)) = db.latestEvent sid :=
    Table.latest_insert_other (by simp [CatalogDatabase.eventRow, hsid])
  have hevents := batchTransaction_events hbatch
  change catalog.workloadEvents.latest WorkloadEventRow.time _ = _
  split at hevents
  · rw [hevents]
    rfl
  · split at hevents
    · rw [hevents]
      rfl
    · rw [hevents]
      exact hinsert _

/-- Of the session itself the last event is that of the last change, the new transition
    included. -/
theorem latestEvent_own {call : BatchCall} {catalog : CatalogDatabase}
    (h : WorkloadTracks call.sessionId log db)
    (horder : ∀ e ∈ batches log, TransitionsInOrder call.sessionId e.1 call)
    (hbatch : db.catalog.batchTransaction call = .ok catalog) :
    (db.withCatalog catalog).latestEvent call.sessionId =
      (lastChange (transitionsOf (batches log) call.sessionId ++ call.transition.toList)).map
        (CatalogDatabase.eventRow call.sessionId) := by
  have hevents := batchTransaction_events hbatch
  have hclass : db.catalog.lastClass call.sessionId =
      ((lastChange (transitionsOf (batches log) call.sessionId)).map
        (CatalogDatabase.eventRow call.sessionId)).map WorkloadEventRow.newClass := by
    rw [← h.latest]
    rfl
  change catalog.workloadEvents.latest WorkloadEventRow.time _ = _
  cases ht : call.transition with
  | none =>
    rw [ht] at hevents
    dsimp only at hevents
    rw [hevents, Option.toList_none, List.append_nil]
    exact h.latest
  | some t =>
    rw [ht] at hevents
    dsimp only at hevents
    rw [Option.toList_some, lastChange_snoc, Option.map_some]
    rw [hclass] at hevents
    cases hlast : lastChange (transitionsOf (batches log) call.sessionId) with
    | none =>
      -- the first transition of a session is always stored
      rw [hlast, if_neg (by simp)] at hevents
      rw [hevents]
      exact h.latest_insert horder rfl ht
    | some k =>
      rw [hlast] at hevents
      simp only [Option.map_some, CatalogDatabase.eventRow, Option.some.injEq,
        workloadText_inj] at hevents
      unfold change
      split at hevents
      · next heq =>
        rw [hevents]
        dsimp only
        rw [if_pos heq, ← Option.map_some, ← hlast]
        exact h.latest
      · next hne =>
        rw [hevents]
        dsimp only
        rw [if_neg hne]
        exact h.latest_insert horder rfl ht

theorem batch (h : WorkloadTracks sid log db) {call : BatchCall} {catalog : CatalogDatabase}
    {n : ℕ} (horder : ∀ e ∈ batches log, TransitionsInOrder sid e.1 call)
    (hbatch : db.catalog.batchTransaction call = .ok catalog) :
    WorkloadTracks sid (log ++ [(.insertClassificationBatch call, .ok (.written n))])
      (db.withCatalog catalog) := by
  have hcall : db.catalog.insertClassificationBatch call =
      (catalog, .ok call.processes.length) := by
    rw [CatalogDatabase.insertClassificationBatch, hbatch]
  have hinv := h.catalog.call call horder
  rw [hcall] at hinv
  constructor
  · rw [batches_snoc]
    exact congr hinv rfl rfl
  · rw [batches_snoc, committed, Option.toList_some, transitionsOf_snoc]
    by_cases hsid : call.sessionId = sid
    · subst hsid
      rw [if_pos rfl]
      exact h.latestEvent_own horder hbatch
    · rw [if_neg hsid, List.append_nil, latestEvent_other hbatch hsid]
      exact h.latest

theorem step (h : WorkloadTracks sid log db) {e : TelemetryEntry} {db' : TelemetryDatabase}
    (horder : ∀ a ∈ log, TransitionsGoForward a.1 e.1) (heffect : db.Effect e db') :
    WorkloadTracks sid (log ++ [e]) db' := by
  cases heffect with
  | failed call e => exact h.other (by cases call <;> rfl) rfl rfl
  | host _ _ => exact h.other rfl rfl rfl
  | opened _ => exact h.other rfl rfl rfl
  | closed _ => exact h.other rfl rfl rfl
  | sampled _ _ => exact h.other rfl rfl rfl
  | retained => exact h.other rfl rfl rfl
  | @batch call catalog n hbatch =>
    refine h.batch (fun a ha => ?_) hbatch
    obtain ⟨entry, hentry, hcommitted⟩ := List.mem_filterMap.1 ha
    unfold committed at hcommitted
    split at hcommitted
    · obtain rfl := Option.some.inj hcommitted
      exact horder _ hentry sid
    · cases hcommitted

end WorkloadTracks

/-! ## §4 The counts -/

/-- Rows that correspond to processes have their times. -/
theorem RecordsAll.times {catalog : Table CatalogRow} {sid : Int64} {t : Table ProcessSampleRow}
    {processes : List ProcessClassification} (h : RecordsAll catalog sid t processes) :
    (samplesOf t sid).map (fun r => r.timestampNs.toInt) = processes.map processTime := by
  unfold RecordsAll at h
  generalize samplesOf t sid = rows at h
  induction h with
  | nil => rfl
  | cons hrow _ ih =>
    obtain ⟨id, entry, -, -, hok⟩ := hrow
    rw [List.map_cons, List.map_cons, ih, (sampleRow_ok hok).2.2]
    rfl

/-- A sample is of the category that is known of its program. -/
theorem categoryOf_eq {db : TelemetryDatabase} {log : BatchTranscript} {sid : Int64}
    (hcatalog : CatalogTracks db.processCatalog (observations log)) {row : ProcessSampleRow}
    {p : ProcessClassification} (hrow : row.Records db.processCatalog sid p) :
    db.categoryOf row = some (knownCategory log p).text := by
  obtain ⟨id, entry, hentry, hidentity, hok⟩ := hrow
  obtain ⟨-, hid, -⟩ := sampleRow_ok hok
  have hfound : db.processCatalog.rows.find? (fun e => e.1 == row.processCatalogId) =
      some (id, entry) := by
    cases hfind : db.processCatalog.rows.find? fun e => e.1 == row.processCatalogId with
    | none =>
      have hno := List.find?_eq_none.1 hfind _ hentry
      simp [hid] at hno
    | some e =>
      have heq : e.1 = id := by simpa [hid] using List.find?_some hfind
      have hmem : (id, e.2) ∈ db.processCatalog.rows := heq ▸ List.mem_of_find?_eq_some hfind
      rw [← Table.eq_of_mem_rows hmem hentry, ← heq]
  rw [TelemetryDatabase.categoryOf, hfound, Option.map_some, (hcatalog.summarizes hentry).category]
  dsimp only
  rw [hidentity]
  rfl

theorem latestProcessCategoryCounts_eq {db : TelemetryDatabase} {log : BatchTranscript}
    {sid : Int64} {processes : List ProcessClassification}
    (hcatalog : CatalogTracks db.processCatalog (observations log))
    (h : RecordsAll db.processCatalog sid db.processSamples processes) :
    db.latestProcessCategoryCounts sid = countsOf log processes := by
  have htimes := h.times
  have hextreme : Aggregate.Extreme (fun x m => decide (m < x))
      (sqlMax ((samplesOf db.processSamples sid).map ProcessSampleRow.timestampNs))
      ((samplesOf db.processSamples sid).map ProcessSampleRow.timestampNs) :=
    Aggregate.extreme_by_key (fun n : Int64 => -n.toInt)
      (fun x m => by rw [decide_eq_decide, Int64.lt_iff_toInt_lt, neg_lt_neg_iff]) _
  unfold TelemetryDatabase.latestProcessCategoryCounts
  dsimp only
  cases hmax : sqlMax ((samplesOf db.processSamples sid).map ProcessSampleRow.timestampNs) with
  | none =>
    have hnil : samplesOf db.processSamples sid = [] :=
      List.map_eq_nil_iff.1 (hextreme.none_iff.1 hmax)
    rw [hnil, List.map_nil] at htimes
    rw [List.map_eq_nil_iff.1 htimes.symm]
    rfl
  | some timestamp =>
    -- the newest processes are those of the largest time
    have hnewest : newest processes =
        processes.filter fun p => decide (processTime p = timestamp.toInt) := by
      have hle : ∀ q ∈ processes, processTime q ≤ timestamp.toInt := by
        intro q hq
        have hmem : processTime q ∈ processes.map processTime := List.mem_map.2 ⟨q, hq, rfl⟩
        rw [← htimes] at hmem
        obtain ⟨r, hr, hrq⟩ := List.mem_map.1 hmem
        have hnot := hextreme.best _ hmax _ (List.mem_map.2 ⟨r, hr, rfl⟩)
        rw [← hrq]
        exact not_lt.1 (fun hlt => of_decide_eq_false hnot (Int64.lt_iff_toInt_lt.2 hlt))
      obtain ⟨r, hr, hrt⟩ := List.mem_map.1 (hextreme.mem _ hmax)
      have hattained : timestamp.toInt ∈ processes.map processTime := by
        rw [← htimes, ← hrt]
        exact List.mem_map.2 ⟨r, hr, rfl⟩
      obtain ⟨top, htop, htime⟩ := List.mem_map.1 hattained
      refine List.filter_congr fun p hp => ?_
      rw [Bool.eq_iff_iff, List.all_eq_true, decide_eq_true_eq]
      constructor
      · intro hall
        exact le_antisymm (hle p hp) (htime ▸ of_decide_eq_true (hall top htop))
      · intro heq q hq
        exact decide_eq_true (heq ▸ hle q hq)
    have hrows : List.Forall₂ (fun row p => row.Records db.processCatalog sid p)
        ((samplesOf db.processSamples sid).filter fun r => decide (r.timestampNs = timestamp))
        (newest processes) := by
      rw [hnewest]
      apply Expiry.forall₂_filter _ h
      rintro row p ⟨id, entry, -, -, hok⟩
      rw [decide_eq_decide, ← Int64.toInt_inj, (sampleRow_ok hok).2.2]
      rfl
    have hcategories : ((samplesOf db.processSamples sid).filter fun r =>
        decide (r.timestampNs = timestamp)).filterMap db.categoryOf =
          ((newest processes).map (knownCategory log)).map ProcessCategory.text := by
      generalize (samplesOf db.processSamples sid).filter (fun r =>
        decide (r.timestampNs = timestamp)) = rows at hrows
      generalize newest processes = latest at hrows
      induction hrows with
      | nil => rfl
      | cons hrow _ ih =>
        rw [List.filterMap_cons_some (categoryOf_eq hcatalog hrow), ih]
        rfl
    have hcount (c : ProcessCategory) :=
      List.count_map_of_injective ((newest processes).map (knownCategory log))
        ProcessCategory.text ProcessCategory.text_injective c
    dsimp only
    rw [hcategories]
    exact congr (congrArg₂ CategoryCounts.mk (hcount .game) (hcount .critical)) (hcount .unknown)

/-! ## §5 Any calls -/

theorem workloadTracks_after (sid : Int64) (calls : List TelemetryCall)
    (horder : calls.Pairwise TransitionsGoForward) :
    WorkloadTracks sid (telemetryTranscript calls) (telemetryAfter calls) := by
  apply Machine.transcript_induction_pairwise TelemetryDatabase.answer TransitionsGoForward
    (WorkloadTracks sid) _ _ horder
  · exact ⟨catalogInvariant_fresh sid ∅, rfl⟩
  · intro log db call hnew h
    exact h.step hnew (db.answer_effect call)

/-- The report is made from the last change and the counts. -/
theorem latestWorkloadReport_eq {log : List TelemetryEntry} {db : TelemetryDatabase}
    (h : TelemetryTracks log db) (hworkload : ∀ sid, WorkloadTracks sid log db) :
    db.latestWorkloadReport =
      match (openings log).getLast? with
      | none => .error ⟨none, "database contains no sessions"⟩
      | some o =>
        if LastReadable (lastChange (transitionsOf (batches log) o.id)) then
          .ok (workloadReportOf o.id (lastChange (transitionsOf (batches log) o.id))
            (countsOf (batches log) (retainedProcesses log o.id)))
        else .error explanationUnreadable := by
  unfold TelemetryDatabase.latestWorkloadReport
  rw [h.sessions.lastSession]
  cases (openings log).getLast? with
  | none => rfl
  | some o =>
    have hcounts := latestProcessCategoryCounts_eq (hworkload o.id).catalog.catalog
      (h.samples o.id).processes
    rw [Option.map_some, okOr_some, ok_bind]
    dsimp only [Opening.row]
    rw [(hworkload o.id).latest]
    rw [hcounts]
    cases lastChange (transitionsOf (batches log) o.id) with
    | none => simp [LastReadable, workloadReportOf, pure, Except.pure]
    | some t =>
      rw [Option.map_some]
      dsimp only [CatalogDatabase.eventRow]
      rw [parseWorkloadClass_text, ok_bind]
      -- the columns have been read; the reason is read back last
      by_cases hread : WorkloadExplanation.Readable t.explanation
      · rw [parseExplanation, if_pos hread, ok_bind]
        simp [LastReadable, hread, workloadReportOf, pure, Except.pure]
      · rw [parseExplanation, if_neg hread]
        simp [LastReadable, hread, bind, Except.bind]

/-- **The workload report.** After any calls in which the transitions of each session go forward
    in time, the report fails when no session was opened, and when the reasons of the last change
    hold a number that is not finite, as JSON has no such numbers. Else it is of the session opened
    last: its class is that of the last transition that was committed, its reasons are those of
    the transition that changed to it, and it counts the processes of the newest samples that
    were kept by what is known of their programs from everything that was observed. -/
theorem workload_report_tells_history (calls : List TelemetryCall)
    (horder : calls.Pairwise TransitionsGoForward) :
    match (openings (telemetryTranscript calls)).getLast? with
    | none => (telemetryAfter calls).latestWorkloadReport =
        .error ⟨none, "database contains no sessions"⟩
    | some o =>
      if LastReadable (lastChange (transitionsOf (batches (telemetryTranscript calls)) o.id)) then
        ∃ report, (telemetryAfter calls).latestWorkloadReport = .ok report ∧
          report = workloadReportOf o.id
            (lastChange (transitionsOf (batches (telemetryTranscript calls)) o.id))
            (countsOf (batches (telemetryTranscript calls))
              (retainedProcesses (telemetryTranscript calls) o.id)) ∧
          report.currentClass =
            (transitionsOf (batches (telemetryTranscript calls)) o.id).getLast?.map
              WorkloadTransition.newClass
      else (telemetryAfter calls).latestWorkloadReport = .error explanationUnreadable := by
  rw [latestWorkloadReport_eq (telemetryTracks_after calls)
    fun sid => workloadTracks_after sid calls horder]
  cases (openings (telemetryTranscript calls)).getLast? with
  | none => rfl
  | some o =>
    dsimp only
    split
    · exact ⟨_, rfl, rfl, newClass_lastChange _⟩
    · rfl

/-- A batch of a game, with the change to a class. -/
def observedChange (timestampNs : Int64) (newClass : WorkloadClass) : BatchCall :=
  { observedOnce timestampNs .game 1 with
    transition := some
      { timestampNs
        previousClass := none
        newClass
        confidence := .finite 1
        explanation := ⟨"v1", workloadText newClass, .finite 1, [], [], []⟩ } }

/-- A host, a session and three batches: the last one repeats the class before. -/
def gamingRun : List TelemetryCall :=
  [.upsertHost ⟨"m", "host", "arch", none, "6.12", none, none, 1024, 0, none, none⟩ "now"
      fun _ => none,
    .openSession 1 "0.1.0" "hash" "start" none,
    .insertClassificationBatch (observedChange 1 .desktop),
    .insertClassificationBatch (observedChange 2 .gaming),
    .insertClassificationBatch (observedChange 3 .gaming)]

theorem workload_report_of_gamingRun :
    ((telemetryAfter gamingRun).latestWorkloadReport.toOption.map fun r =>
      (r.currentClass, r.lastChangeTimestampNs, r.gameProcesses)) =
        some (some .gaming, some 2, 1) ∧
    match (openings (telemetryTranscript gamingRun)).getLast? with
    | none => (telemetryAfter gamingRun).latestWorkloadReport =
        .error ⟨none, "database contains no sessions"⟩
    | some o =>
      if LastReadable (lastChange (transitionsOf (batches (telemetryTranscript gamingRun)) o.id))
      then
        ∃ report, (telemetryAfter gamingRun).latestWorkloadReport = .ok report ∧
          report = workloadReportOf o.id
            (lastChange (transitionsOf (batches (telemetryTranscript gamingRun)) o.id))
            (countsOf (batches (telemetryTranscript gamingRun))
              (retainedProcesses (telemetryTranscript gamingRun) o.id)) ∧
          report.currentClass =
            (transitionsOf (batches (telemetryTranscript gamingRun)) o.id).getLast?.map
              WorkloadTransition.newClass
      else (telemetryAfter gamingRun).latestWorkloadReport = .error explanationUnreadable :=
  ⟨by decide +kernel, workload_report_tells_history gamingRun (by
    simp [gamingRun, TransitionsGoForward, TransitionsInOrder, observedChange])⟩

/-- A change whose confidence is in range but whose evidence holds a number JSON cannot carry:
    it is stored, and the report on it fails. -/
example :
    (telemetryAfter (gamingRun ++ [.insertClassificationBatch
      { observedChange 4 .desktop with
        transition := some
          { timestampNs := 4
            previousClass := none
            newClass := .desktop
            confidence := .finite 1
            explanation :=
              ⟨"v1", "desktop", .finite 1, [⟨"game", "", "", none, .nan⟩], [], []⟩ } }])
      ).latestWorkloadReport.toOption = none := by
  decide +kernel

/-! ## §6 Reasons that can be read back -/

/-- A call that writes no reason but such as can be read back. -/
def WritesReadable : TelemetryCall → Prop
  | .insertClassificationBatch batch => LastReadable batch.transition
  | _ => True

/-- Every stored event has the name of a class and a reason that can be read back. -/
def EventsReadable (db : TelemetryDatabase) : Prop :=
  ∀ r ∈ db.workloadEvents.rows,
    (∃ c, r.2.newClass = workloadText c) ∧ WorkloadExplanation.Readable r.2.reason

theorem eventsReadable_fresh : EventsReadable .fresh := fun _ hr => (List.not_mem_nil hr).elim

namespace EventsReadable

variable {db db' : TelemetryDatabase}

/-- Only a batch writes events, and only the one of its transition. -/
theorem effect (h : EventsReadable db) {e : TelemetryEntry} (hcall : WritesReadable e.1)
    (heffect : db.Effect e db') : EventsReadable db' := by
  cases heffect with
  | failed call e => exact h
  | host hmachine hanswer => exact h
  | opened hid => exact h
  | closed hopen => exact h
  | sampled hrow hsession => exact h
  | retained => exact h
  | @batch call catalog n hbatch =>
    have hevents := batchTransaction_events hbatch
    intro r hr
    replace hr : r ∈ catalog.workloadEvents.rows := hr
    cases ht : call.transition with
    | none =>
      rw [ht] at hevents
      dsimp only at hevents
      rw [hevents] at hr
      exact h r hr
    | some t =>
      rw [ht] at hevents
      dsimp only at hevents
      split at hevents
      · rw [hevents] at hr
        exact h r hr
      · rw [hevents, Table.rows_insert] at hr
        rcases List.mem_append.1 hr with hr | hr
        · exact h r hr
        · rw [List.mem_singleton.1 hr]
          exact ⟨⟨t.newClass, rfl⟩, hcall t ht⟩

theorem answer (h : EventsReadable db) {call : TelemetryCall} (hcall : WritesReadable call) :
    EventsReadable (db.answer call).1 :=
  h.effect hcall (db.answer_effect call)

/-- Then there is a report as soon as a session was opened. -/
theorem report (h : EventsReadable db) {session : SessionRow}
    (hsession : db.lastSession = some session) :
    ∃ report, db.latestWorkloadReport = .ok report := by
  unfold TelemetryDatabase.latestWorkloadReport
  rw [hsession, okOr_some, ok_bind]
  cases hevent : db.latestEvent session.id with
  | none => exact ⟨_, rfl⟩
  | some event =>
    obtain ⟨id, hmem⟩ := Table.mem_of_latest hevent
    obtain ⟨⟨c, hclass⟩, hreason⟩ := h _ hmem
    dsimp only at hclass hreason ⊢
    rw [hclass, parseWorkloadClass_text, ok_bind, parseExplanation, if_pos hreason, ok_bind]
    exact ⟨_, rfl⟩

end EventsReadable

end Nemor.Storage
