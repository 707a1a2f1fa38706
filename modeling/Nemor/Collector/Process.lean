import Mathlib.Data.List.Sort
import Nemor.Collector.ProcessFields
import Nemor.Collector.ProcessStat
import Nemor.Collector.SmapsBudget
import Nemor.Lib.Latest
import Nemor.Lib.RoundingError

/-!
# Collecting processes

A pass goes over the processes that `/proc` lists and takes a sample of each that can be read. How
much of the processors a process has used is told from two passes: a tracker keeps, for each
process that the last pass has sampled, the ticks that were read last.

- §1: the tracker
- §2: a process
- §3: a pass
- §4: what a pass does to the tracker and what it reports
- §5: runs
- §6: what is reported
-/

namespace Nemor.Collector

open Fallible MachineNumbers Text

/-! ## §1 The tracker -/

/-- The counters at the previous sample of a process. -/
structure CpuBaseline where
  startTimeTicks : UInt64
  processTicks : UInt64
  systemTicks : UInt64
  deriving DecidableEq

/-- The share of the processors in percent, as binary64 operations compute it. -/
def cpuPercent (processDelta systemDelta : UInt64) (logicalCpus : UInt32) : F64 :=
  (((F64.ofU64 processDelta).quotient (F64.ofU64 systemDelta)).times (F64.ofU32 logicalCpus)).times
    (.finite 100)

/-- The previous counters of each process. -/
structure ProcessCpuTracker where
  previous : UInt32 → Option CpuBaseline

namespace ProcessCpuTracker

/-- No process has been sampled. -/
def default : ProcessCpuTracker := ⟨fun _ => none⟩

/-- What two readings of a process tell. -/
def compare (previous : Option CpuBaseline) (current : CpuBaseline) (logicalCpus : UInt32) :
    Option F64 := do
  let previous ← previous
  if previous.startTimeTicks ≠ current.startTimeTicks then none
  else
    let processDelta ← U64.sub current.processTicks previous.processTicks
    let systemDelta ← U64.sub current.systemTicks previous.systemTicks
    if systemDelta = 0 then none else some (cpuPercent processDelta systemDelta logicalCpus)

/-- The share of the CPU since the previous sample, if the counters are of the same process and have
    gone up. -/
def calculate (tracker : ProcessCpuTracker) (pid : UInt32)
    (startTimeTicks processTicks systemTicks : UInt64) (logicalCpus : UInt32) :
    Option F64 × ProcessCpuTracker :=
  let current := { startTimeTicks, processTicks, systemTicks : CpuBaseline }
  (compare (tracker.previous pid) current logicalCpus,
    ⟨Function.update tracker.previous pid (some current)⟩)

/-- Forget processes that are gone. -/
def retain (tracker : ProcessCpuTracker) (livePids : Finset UInt32) : ProcessCpuTracker :=
  ⟨fun pid => if pid ∈ livePids then tracker.previous pid else none⟩

theorem retain_previous (tracker : ProcessCpuTracker) (livePids : Finset UInt32) (pid : UInt32) :
    (tracker.retain livePids).previous pid =
      if pid ∈ livePids then tracker.previous pid else none := rfl

end ProcessCpuTracker

/-! ## §2 A process -/

/-- A sample of a process. -/
structure ProcessSample where
  timestampNs : Int64
  pid : UInt32
  executable : Option (List Char)
  executableName : Option (List Char)
  parentPid : Option UInt32
  processGroupId : Option Int32
  sessionId : Option Int32
  ttyNr : Option Int64
  foregroundProcessGroupId : Option Int32
  startTimeTicks : Option UInt64
  cgroupPath : Option (List Char)
  rssBytes : Option UInt64
  pssBytes : Option UInt64
  ussBytes : Option UInt64
  swapBytes : Option UInt64
  minorFaults : Option UInt64
  majorFaults : Option UInt64
  cpuPercent : Option F64
  ioReadBytes : Option UInt64
  ioWriteBytes : Option UInt64

/-- A file of a process. -/
def processPath (pid : UInt32) (name : String) : String :=
  "/proc/" ++ toString pid ++ "/" ++ name

/-- Read a file of a process. -/
def readProcessFile (source : TelemetrySource) (pid : UInt32) (name : String) :
    Except ProcessReadFailure (List Char) :=
  (source.readToString (processPath pid name)).mapError classifyProcessIo

/-- A file that need not be there, or need not be readable. -/
def optionalProcessFile (source : TelemetrySource) (pid : UInt32) (name : String) :
    Except ProcessReadFailure (Option (List Char)) :=
  match readProcessFile source pid name with
  | .ok text => .ok (some text)
  | .error .disappeared | .error .permissionDenied => .ok none
  | .error failure => .error failure

/-- The same, when each way of failing counts as nothing. -/
def anyProcessFile (source : TelemetrySource) (pid : UInt32) (name : String) :
    Option (List Char) :=
  match optionalProcessFile source pid name with
  | .ok text => text
  | .error _ => none

/-- What a process cannot be sampled without. -/
def readProcess (source : TelemetrySource) (pid : UInt32) :
    Except ProcessReadFailure (ParsedStat × StatusValues) := do
  let statText ← readProcessFile source pid "stat"
  let stat ← (parseStat statText).mapError fun _ => ProcessReadFailure.invalid
  refuse (stat.pid ≠ pid) ProcessReadFailure.invalid
  let statusText ← readProcessFile source pid "status"
  let status ← (parseStatus statusText).mapError fun _ => ProcessReadFailure.invalid
  return (stat, status)

/-- The page size. -/
def pageSizeBytes : UInt64 := 4096

/-- The resident pages in bytes, if their number is not negative and the bytes fit. -/
def rssFromStat (pages : Int64) : Option UInt64 :=
  if pages.toInt < 0 then none else U64.mul (.ofNat pages.toInt.toNat) pageSizeBytes

/-- Sample one process. A file that it cannot do without ends the sample. -/
def collectOne (source : TelemetrySource) (timestampNs : Int64) (pid : UInt32) (readSmaps : Bool)
    (systemCpu : Option (UInt64 × UInt32)) (tracker : ProcessCpuTracker) :
    Except ProcessReadFailure ProcessSample × ProcessCpuTracker :=
  match readProcess source pid with
  | .error failure => (.error failure, tracker)
  | .ok (stat, status) =>
    let io := (anyProcessFile source pid "io").bind fun text => (parseIo text).toOption
    let cgroupPath := (anyProcessFile source pid "cgroup").bind parseCgroup
    let smaps :=
      if readSmaps then
        (anyProcessFile source pid "smaps_rollup").bind fun text => (parseSmapsRollup text).toOption
      else none
    let (cpuPercent, tracker) :=
      match systemCpu with
      | none => (none, tracker)
      | some (systemTicks, logicalCpus) =>
        tracker.calculate pid stat.startTimeTicks stat.processTicks systemTicks logicalCpus
    (.ok
      { timestampNs
        pid
        executable := (source.readLink (processPath pid "exe")).toOption
        executableName := some stat.executableName
        parentPid := some stat.parentPid
        processGroupId := some stat.processGroupId
        sessionId := some stat.sessionId
        ttyNr := some stat.ttyNr
        foregroundProcessGroupId := some stat.foregroundProcessGroupId
        startTimeTicks := some stat.startTimeTicks
        cgroupPath
        rssBytes := status.rssBytes.or (rssFromStat stat.rssPages)
        pssBytes := smaps.map SmapsValues.pssBytes
        ussBytes := smaps.bind SmapsValues.ussBytes
        swapBytes := status.swapBytes
        minorFaults := some stat.minorFaults
        majorFaults := some stat.majorFaults
        cpuPercent
        ioReadBytes := io.bind IoValues.readBytes
        ioWriteBytes := io.bind IoValues.writeBytes }, tracker)

/-! ## §3 A pass -/

/-- How many processes were left out, by the reason. -/
structure ProcessCollectionStats where
  disappeared : ℕ
  permissionDenied : ℕ
  invalid : ℕ

/-- Count a process that is left out. -/
def ProcessCollectionStats.count (stats : ProcessCollectionStats) :
    ProcessReadFailure → ProcessCollectionStats
  | .disappeared => { stats with disappeared := stats.disappeared + 1 }
  | .permissionDenied => { stats with permissionDenied := stats.permissionDenied + 1 }
  | .invalid => { stats with invalid := stats.invalid + 1 }

/-- A pass over all processes. -/
structure ProcessCollection where
  samples : List ProcessSample
  stats : ProcessCollectionStats

/-- What a pass has at hand while it goes over the processes. -/
structure Visit where
  collection : ProcessCollection
  livePids : Finset UInt32
  tracker : ProcessCpuTracker

/-- What a pass is given. -/
structure PassInput where
  source : TelemetrySource
  timestampNs : Int64
  readSmaps : Bool
  smapsBudget : UInt64

/-- What is kept from pass to pass. -/
structure CollectorState where
  smapsCursor : UInt64
  cpuTracker : ProcessCpuTracker

/-- Before the first pass. -/
def CollectorState.initial : CollectorState := ⟨0, ProcessCpuTracker.default⟩

/-- The processes that are listed, in order. -/
def listedPids (names : List (List Char)) : List UInt32 :=
  (names.filterMap parseU32).insertionSort (· ≤ ·)

/-- The ticks and the number of processors, if they can be read. -/
def systemCpuOf (source : TelemetrySource) : Option (UInt64 × UInt32) :=
  match source.readToString "/proc/stat" with
  | .ok text => (parseSystemCpu text).toOption
  | .error _ => none

/-- Take up one process of the pass. -/
def visitPid (input : PassInput) (selected : Finset UInt32) (v : Visit) (pid : UInt32) : Visit :=
  match collectOne input.source input.timestampNs pid (pid ∈ selected) (systemCpuOf input.source)
      v.tracker with
  | (.ok sample, tracker) =>
    { collection := { v.collection with samples := v.collection.samples ++ [sample] }
      livePids := insert pid v.livePids
      tracker }
  | (.error failure, tracker) =>
    { v with
      collection := { v.collection with stats := v.collection.stats.count failure }
      tracker }

/-- One pass, over every number in `/proc`. -/
def collect (input : PassInput) (state : CollectorState) :
    Except CollectorError ProcessCollection × CollectorState :=
  match input.source.readDirNames "/proc" with
  | .error kind => (.error (.requiredRead "processes" "/proc" kind), state)
  | .ok names =>
    let pids := listedPids names
    let (selected, smapsCursor) :=
      selectSmaps pids input.readSmaps input.smapsBudget state.smapsCursor
    let visited := pids.foldl (visitPid input selected) ⟨⟨[], ⟨0, 0, 0⟩⟩, ∅, state.cpuTracker⟩
    (.ok visited.collection, ⟨smapsCursor, visited.tracker.retain visited.livePids⟩)

/-! ## §4 What a pass does to the tracker and what it reports -/

/-- What a pass reads of a process to tell its share: the ticks and the number of processors. -/
def readingOf (source : TelemetrySource) (pid : UInt32) : Option (CpuBaseline × UInt32) := do
  let (stat, _) ← (readProcess source pid).toOption
  let (systemTicks, logicalCpus) ← systemCpuOf source
  return (⟨stat.startTimeTicks, stat.processTicks, systemTicks⟩, logicalCpus)

/-- The process can be sampled. -/
def Sampleable (source : TelemetrySource) (pid : UInt32) : Prop :=
  ∃ files, readProcess source pid = .ok files

/-- A reading against the one before it. -/
def compareReading (previous : Option CpuBaseline) (reading : Option (CpuBaseline × UInt32)) :
    Option F64 :=
  reading.bind fun r => ProcessCpuTracker.compare previous r.1 r.2

/-- Some sample of the process has a share. -/
def Reported (samples : List ProcessSample) (pid : UInt32) (percent : F64) : Prop :=
  ∃ sample ∈ samples, sample.pid = pid ∧ sample.cpuPercent = some percent

section Visit

variable {input : PassInput} {selected : Finset UInt32} {v : Visit} {pid q : UInt32}
  {percent : F64}

/-- No ticks have passed between a reading and itself. -/
theorem compare_self (b : CpuBaseline) (cpus : UInt32) :
    ProcessCpuTracker.compare (some b) b cpus = none := by
  have hsub (n : UInt64) : U64.sub n n = some 0 := U64.sub_eq_some_iff.2 (by simp)
  simp [ProcessCpuTracker.compare, hsub]

variable (selected v) in
/-- A process that can be sampled. -/
theorem visitPid_of_sampleable (h : Sampleable input.source pid) :
    ∃ sample,
      (visitPid input selected v pid).collection.samples = v.collection.samples ++ [sample] ∧
      sample.pid = pid ∧
      sample.cpuPercent =
        compareReading (v.tracker.previous pid) (readingOf input.source pid) ∧
      (visitPid input selected v pid).livePids = insert pid v.livePids ∧
      ∀ q, (visitPid input selected v pid).tracker.previous q =
        if q = pid then ((readingOf input.source pid).map Prod.fst).or (v.tracker.previous pid)
        else v.tracker.previous q := by
  obtain ⟨⟨stat, status⟩, hread⟩ := h
  cases hcpu : systemCpuOf input.source with
  | none =>
    -- without the ticks the tracker is not asked, and what it keeps stays
    have hreading : readingOf input.source pid = none := by
      simp [readingOf, hread, hcpu, Except.toOption]
    simp only [visitPid, collectOne, hread, hcpu, hreading]
    refine ⟨_, rfl, rfl, rfl, trivial, fun q => ?_⟩
    by_cases hq : q = pid <;> simp [hq]
  | some cpu =>
    have hreading : readingOf input.source pid =
        some (⟨stat.startTimeTicks, stat.processTicks, cpu.1⟩, cpu.2) := by
      simp [readingOf, hread, hcpu, Except.toOption]
    simp only [visitPid, collectOne, hread, hcpu, hreading]
    refine ⟨_, rfl, rfl, rfl, trivial, fun q => ?_⟩
    by_cases hq : q = pid
    · simp [hq, ProcessCpuTracker.calculate]
    · simp [hq, ProcessCpuTracker.calculate]

/-- A process that cannot be sampled leaves the tracker alone. -/
theorem visitPid_of_not_sampleable (h : ¬ Sampleable input.source pid) :
    (visitPid input selected v pid).collection.samples = v.collection.samples ∧
      (visitPid input selected v pid).livePids = v.livePids ∧
      (visitPid input selected v pid).tracker = v.tracker := by
  cases hread : readProcess input.source pid with
  | ok files => exact absurd ⟨files, hread⟩ h
  | error failure => simp [visitPid, collectOne, hread]

/-- A reading is one of a process that can be sampled. -/
theorem sampleable_of_reading {source : TelemetrySource} {r : CpuBaseline × UInt32}
    (h : readingOf source pid = some r) : Sampleable source pid := by
  cases hread : readProcess source pid with
  | ok files => exact ⟨files, hread⟩
  | error failure => simp [readingOf, hread, Except.toOption] at h

variable (input selected v) in
theorem foldl_livePids (q : UInt32) (pids : List UInt32) :
    q ∈ (pids.foldl (visitPid input selected) v).livePids ↔
      q ∈ v.livePids ∨ q ∈ pids ∧ Sampleable input.source q := by
  induction pids generalizing v with
  | nil => simp
  | cons pid pids ih =>
    rw [List.foldl_cons, ih]
    by_cases hread : Sampleable input.source pid
    · obtain ⟨_, -, -, -, hlive, -⟩ := visitPid_of_sampleable selected v hread
      rw [hlive, Finset.mem_insert, List.mem_cons]
      constructor
      · rintro ((rfl | h) | ⟨hmem, h⟩)
        · exact .inr ⟨.inl rfl, hread⟩
        · exact .inl h
        · exact .inr ⟨.inr hmem, h⟩
      · rintro (h | ⟨rfl | hmem, h⟩)
        · exact .inl (.inr h)
        · exact .inl (.inl rfl)
        · exact .inr ⟨hmem, h⟩
    · rw [(visitPid_of_not_sampleable hread).2.1, List.mem_cons]
      refine or_congr_right (and_congr_left fun h => ?_)
      rw [or_iff_right]
      rintro rfl
      exact hread h

/-- What a visit leaves in the tracker. -/
theorem visitPid_previous :
    (visitPid input selected v pid).tracker.previous q =
      if q = pid then ((readingOf input.source q).map Prod.fst).or (v.tracker.previous q)
      else v.tracker.previous q := by
  by_cases hread : Sampleable input.source pid
  · obtain ⟨_, -, -, -, -, hprevious⟩ :=
      visitPid_of_sampleable selected v hread
    rw [hprevious]
    split_ifs with hq
    · rw [hq]
    · rfl
  · rw [(visitPid_of_not_sampleable hread).2.2]
    split_ifs with hq
    · have hnone : readingOf input.source q = none := by
        by_contra hsome
        obtain ⟨r, hr⟩ := Option.ne_none_iff_exists'.1 hsome
        exact hread (hq ▸ sampleable_of_reading hr)
      simp [hnone]
    · rfl

theorem visitPid_reported :
    Reported (visitPid input selected v pid).collection.samples q percent ↔
      Reported v.collection.samples q percent ∨
        q = pid ∧ compareReading (v.tracker.previous q) (readingOf input.source q) =
          some percent := by
  by_cases hread : Sampleable input.source pid
  · obtain ⟨sample, hsamples, hpid, hcpu, -, -⟩ :=
      visitPid_of_sampleable selected v hread
    simp only [Reported, hsamples, List.mem_append, List.mem_singleton, or_and_right, exists_or,
      exists_eq_left, hpid, hcpu]
    refine or_congr_right ⟨?_, ?_⟩
    · rintro ⟨rfl, h⟩
      exact ⟨rfl, h⟩
    · rintro ⟨rfl, h⟩
      exact ⟨rfl, h⟩
  · rw [(visitPid_of_not_sampleable hread).1]
    refine (or_iff_left ?_).symm
    rintro ⟨rfl, h⟩
    obtain ⟨r, hr, -⟩ := Option.bind_eq_some_iff.1 h
    exact hread (sampleable_of_reading hr)

/-- A second visit in a pass tells nothing: it compares a reading with itself. -/
theorem compareReading_again (previous : Option CpuBaseline)
    (reading : Option (CpuBaseline × UInt32)) :
    compareReading ((reading.map Prod.fst).or previous) reading = none := by
  cases reading with
  | none => rfl
  | some r => exact compare_self r.1 r.2

theorem foldl_previous (pids : List UInt32) :
    (pids.foldl (visitPid input selected) v).tracker.previous q =
      if q ∈ pids then ((readingOf input.source q).map Prod.fst).or (v.tracker.previous q)
      else v.tracker.previous q := by
  induction pids generalizing v with
  | nil => simp
  | cons pid pids ih =>
    rw [List.foldl_cons, ih, visitPid_previous]
    by_cases hq : q = pid
    · subst hq
      cases readingOf input.source q <;> simp
    · simp [hq]

/-- **What is reported while the processes are visited**, also if one is listed twice. -/
theorem foldl_reported (pids : List UInt32) :
    Reported (pids.foldl (visitPid input selected) v).collection.samples q percent ↔
      Reported v.collection.samples q percent ∨
        q ∈ pids ∧ compareReading (v.tracker.previous q) (readingOf input.source q) =
          some percent := by
  induction pids generalizing v with
  | nil => simp
  | cons pid pids ih =>
    rw [List.foldl_cons, ih, visitPid_reported, visitPid_previous, or_assoc, List.mem_cons]
    refine or_congr_right ?_
    by_cases hq : q = pid
    -- the process is visited now; if it is listed again, that visit reports nothing
    · simp [hq, compareReading_again]
    · simp [hq]

end Visit

/-! ## §5 Runs -/

/-- The listing of the processes is readable, so that the pass returns a collection. -/
def PassInput.completed (input : PassInput) : Bool :=
  match input.source.readDirNames "/proc" with
  | .ok _ => true
  | .error _ => false

/-- The process is listed and can be sampled. -/
def PassInput.sampled (input : PassInput) (pid : UInt32) : Bool :=
  match input.source.readDirNames "/proc" with
  | .ok names => decide (pid ∈ listedPids names) && (readProcess input.source pid).isOk
  | .error _ => false

/-- What the pass reads of a process that it samples. -/
def PassInput.reading (input : PassInput) (pid : UInt32) : Option (CpuBaseline × UInt32) :=
  if input.sampled pid = true then readingOf input.source pid else none

theorem isOk_iff_sampleable {source : TelemetrySource} {pid : UInt32} :
    (readProcess source pid).isOk = true ↔ Sampleable source pid := by
  unfold Sampleable
  cases readProcess source pid with
  | ok files => simp [Except.isOk, Except.toBool]
  | error failure => simp [Except.isOk, Except.toBool]

/-- The live processes are those of the samples. -/
theorem foldl_live_eq (input : PassInput) (selected : Finset UInt32) (v : Visit)
    (pids : List UInt32)
    (h : v.livePids = (v.collection.samples.map ProcessSample.pid).toFinset) :
    (pids.foldl (visitPid input selected) v).livePids =
      ((pids.foldl (visitPid input selected) v).collection.samples.map
        ProcessSample.pid).toFinset := by
  induction pids generalizing v with
  | nil => exact h
  | cons pid pids ih =>
    refine ih _ ?_
    by_cases hread : Sampleable input.source pid
    · obtain ⟨sample, hsamples, hpid, -, hlive, -⟩ :=
        visitPid_of_sampleable selected v hread
      rw [hsamples, hlive, h, List.map_append, List.toFinset_append, List.map_singleton, hpid]
      ext q
      simp
    · obtain ⟨hsamples, hlive, -⟩ := visitPid_of_not_sampleable hread
      rw [hsamples, hlive, h]

section Pass

variable {input : PassInput} {state : CollectorState} {q : UInt32} {percent : F64}

/-- A pass that returns a collection has gone over the listed processes. -/
theorem collect_of_listed (state : CollectorState) {names : List (List Char)}
    (h : input.source.readDirNames "/proc" = .ok names) :
    ∃ selected visited, visited = (listedPids names).foldl (visitPid input selected)
        ⟨⟨[], ⟨0, 0, 0⟩⟩, ∅, state.cpuTracker⟩ ∧
      (collect input state).1 = .ok visited.collection ∧
      (collect input state).2.cpuTracker = visited.tracker.retain visited.livePids := by
  simp only [collect, h]
  exact ⟨_, _, rfl, rfl, rfl⟩

theorem sampled_iff {names : List (List Char)}
    (h : input.source.readDirNames "/proc" = .ok names) :
    input.sampled q = true ↔ q ∈ listedPids names ∧ Sampleable input.source q := by
  simp [PassInput.sampled, h, isOk_iff_sampleable]

theorem sampleable_of_sampled (h : input.sampled q = true) : Sampleable input.source q := by
  cases hnames : input.source.readDirNames "/proc" with
  | error kind => simp [PassInput.sampled, hnames] at h
  | ok names => exact ((sampled_iff hnames).1 h).2

/-- A process is sampled when the collection has a sample of it. -/
theorem sampled_iff_mem :
    input.sampled q = true ↔ ∃ collection, (collect input state).1 = .ok collection ∧
      ∃ sample ∈ collection.samples, sample.pid = q := by
  cases hnames : input.source.readDirNames "/proc" with
  | error kind => simp [PassInput.sampled, collect, hnames]
  | ok names =>
    obtain ⟨selected, visited, hvisited, hresult, -⟩ := collect_of_listed state hnames
    have hlive := foldl_livePids input selected ⟨⟨[], ⟨0, 0, 0⟩⟩, ∅, state.cpuTracker⟩ q
      (listedPids names)
    have hsamples := foldl_live_eq input selected ⟨⟨[], ⟨0, 0, 0⟩⟩, ∅, state.cpuTracker⟩
      (listedPids names) rfl
    rw [← hvisited] at hlive hsamples
    rw [hsamples] at hlive
    simp only [sampled_iff hnames, hresult, Except.ok.injEq, exists_eq_left']
    simpa [eq_comm] using hlive.symm

/-- **What a pass reports** is what its reading tells against the one that is kept. -/
theorem collect_reported :
    (∃ collection, (collect input state).1 = .ok collection ∧
        Reported collection.samples q percent) ↔
      compareReading (state.cpuTracker.previous q) (input.reading q) = some percent := by
  cases hnames : input.source.readDirNames "/proc" with
  | error kind => simp [PassInput.reading, PassInput.sampled, collect, hnames, compareReading]
  | ok names =>
    obtain ⟨selected, visited, rfl, hresult, -⟩ := collect_of_listed state hnames
    simp only [hresult, Except.ok.injEq, exists_eq_left', foldl_reported, PassInput.reading]
    have hempty : ¬ Reported [] q percent := by simp [Reported]
    rw [or_iff_right hempty]
    by_cases hsampled : input.sampled q = true
    · rw [if_pos hsampled, and_iff_right ((sampled_iff hnames).1 hsampled).1]
    · rw [if_neg hsampled]
      refine iff_of_false (fun h => ?_) (by simp [compareReading])
      obtain ⟨r, hr, -⟩ := Option.bind_eq_some_iff.1 h.2
      exact hsampled ((sampled_iff hnames).2 ⟨h.1, sampleable_of_reading hr⟩)

/-- **What a pass leaves in the tracker**: its own reading, or that of an earlier pass if it has
sampled the process without one. -/
theorem collect_previous (h : input.completed = true) :
    (collect input state).2.cpuTracker.previous q =
      Latest.remember (fun p => (PassInput.reading p q).map Prod.fst) (fun p => p.sampled q)
        (state.cpuTracker.previous q) input := by
  cases hnames : input.source.readDirNames "/proc" with
  | error kind => simp [PassInput.completed, hnames] at h
  | ok names =>
    obtain ⟨selected, visited, rfl, -, htracker⟩ := collect_of_listed state hnames
    have hsampled := sampled_iff (q := q) hnames
    rw [htracker, ProcessCpuTracker.retain_previous, foldl_previous, Latest.remember,
      PassInput.reading]
    simp only [foldl_livePids, Finset.notMem_empty, false_or, ← hsampled]
    -- what is not sampled is not live, and the tracker drops it
    by_cases hq : input.sampled q = true
    · simp only [hq, if_true, if_pos (hsampled.1 hq).1]
      cases readingOf input.source q <;> simp
    · simp [hq]

/-- A pass that returns no collection leaves everything as it is. -/
theorem collect_of_not_completed (h : input.completed = false) :
    (collect input state).2 = state := by
  cases hnames : input.source.readDirNames "/proc" with
  | error kind => simp [collect, hnames]
  | ok names => simp [PassInput.completed, hnames] at h

end Pass

/-- The state after passes one after the other. -/
def runPasses (passes : List PassInput) (state : CollectorState) : CollectorState :=
  passes.foldl (fun state input => (collect input state).2) state

theorem runPasses_cons (input : PassInput) (history : List PassInput) (state : CollectorState) :
    runPasses (input :: history) state = runPasses history (collect input state).2 := rfl

/-- **What is kept of a process is the latest reading that still counts.** -/
theorem runPasses_previous_iff {history : List PassInput} {q : UInt32} {b : CpuBaseline} :
    (runPasses history .initial).cpuTracker.previous q = some b ↔
      Latest.Since (fun p => (PassInput.reading p q).map Prod.fst) (fun p => p.sampled q)
        (history.filter PassInput.completed) b := by
  have hrun (state : CollectorState) : (runPasses history state).cpuTracker.previous q =
      (history.filter PassInput.completed).foldl
        (Latest.remember (fun p => (PassInput.reading p q).map Prod.fst) fun p => p.sampled q)
        (state.cpuTracker.previous q) := by
    induction history generalizing state with
    | nil => rfl
    | cons input history ih =>
      rw [runPasses_cons, ih]
      cases hcompleted : input.completed with
      | false =>
        rw [collect_of_not_completed hcompleted, List.filter_cons_of_neg (by simp [hcompleted])]
      | true =>
        rw [collect_previous hcompleted, List.filter_cons_of_pos hcompleted, List.foldl_cons]
  rw [hrun, ← Latest.foldl_remember_iff]
  rfl

/-! ## §6 What is reported -/

/-- The share in percent, in exact arithmetic. -/
def exactPercent (processDelta systemDelta : UInt64) (logicalCpus : UInt32) : ℚ :=
  100 * logicalCpus.toNat * (processDelta.toNat / systemDelta.toNat)

/-- Both readings are of one process, and the second one is later. -/
structure CpuBaseline.Precedes (previous current : CpuBaseline) : Prop where
  startTimeTicks : previous.startTimeTicks = current.startTimeTicks
  processTicks : previous.processTicks ≤ current.processTicks
  systemTicks : previous.systemTicks < current.systemTicks

/-- Between two readings of which one is later, the difference is not zero. -/
theorem sub_ne_zero_iff {earlier later : UInt64} (h : earlier ≤ later) :
    later - earlier ≠ 0 ↔ earlier < later := by
  rw [UInt64.lt_iff_toNat_lt, Ne, ← UInt64.toNat_inj, UInt64.toNat_sub_of_le _ _ h]
  have : earlier.toNat ≤ later.toNat := h
  simp only [UInt64.toNat_zero]
  omega

theorem CpuBaseline.Precedes.moved {previous current : CpuBaseline}
    (h : previous.Precedes current) : current.systemTicks - previous.systemTicks ≠ 0 :=
  (sub_ne_zero_iff (Nat.le_of_lt h.systemTicks)).2 h.systemTicks

/-- What two readings tell is told when the first one precedes the second one. -/
theorem compare_eq_some_iff {previous current : CpuBaseline} {cpus : UInt32} {percent : F64} :
    ProcessCpuTracker.compare (some previous) current cpus = some percent ↔
      previous.Precedes current ∧
        percent = cpuPercent (current.processTicks - previous.processTicks)
          (current.systemTicks - previous.systemTicks) cpus := by
  simp only [ProcessCpuTracker.compare, Option.bind_eq_bind, Option.bind_some, Ne, ite_not,
    Option.ite_none_right_eq_some, Option.bind_eq_some_iff, U64.sub_eq_some_iff_le,
    Option.ite_none_left_eq_some, Option.some.injEq]
  constructor
  · rintro ⟨hstart, _, ⟨hprocess, rfl⟩, _, ⟨hsystem, rfl⟩, hzero, rfl⟩
    exact ⟨⟨hstart, hprocess, (sub_ne_zero_iff hsystem).1 hzero⟩, rfl⟩
  · rintro ⟨h, rfl⟩
    exact ⟨h.startTimeTicks, _, ⟨h.processTicks, rfl⟩, _, ⟨Nat.le_of_lt h.systemTicks, rfl⟩,
      h.moved, rfl⟩

open F64 in
/-- **Five roundings**: of both numbers of ticks, of their quotient and of both products. -/
theorem cpuPercent_within {processDelta systemDelta : UInt64} (cpus : UInt32)
    (h : systemDelta ≠ 0) :
    ∃ q, cpuPercent processDelta systemDelta cpus = .finite q ∧
      Within 5 q (exactPercent processDelta systemDelta cpus) := by
  have hpositive : 1 ≤ systemDelta.toNat := by
    rw [Nat.one_le_iff_ne_zero]
    exact fun hzero => h (UInt64.toNat_inj.1 hzero)
  have hp : InRange 0 64 processDelta.toNat := inRange_natCast processDelta.toNat_lt.le
  have hs : InRange 0 64 systemDelta.toNat := inRange_natCast systemDelta.toNat_lt.le
  -- the exponents of the operands, from which nothing underflows or overflows
  have hcpus : cpus.toNat ≤ 2 ^ 32 := cpus.toNat_lt.le
  have hdivisorPos := hs.nearest_pos (by decide) (by exact_mod_cast hpositive)
  have hdivisor := (hs.nearest (by decide)).resolve_left hdivisorPos.ne'
  have hquotient := (hp.nearest (by decide)).div hdivisor.1 hdivisor.2
  have hproduct := (hquotient.nearest (by decide)).mul_natCast hcpus
  have hpercent := (hproduct.nearest (by decide)).mul_natCast (show 100 ≤ 2 ^ 7 by decide)
  have hvalue : cpuPercent processDelta systemDelta cpus = .finite (nearest (nearest (nearest
      (nearest processDelta.toNat / nearest systemDelta.toNat) * cpus.toNat) * 100)) := by
    rw [cpuPercent, ofU64_eq, ofU64_eq, ofU32, quotient, if_neg hdivisorPos.ne',
      hquotient.ofRat_eq (by decide), times, hproduct.ofRat_eq (by decide), times]
    exact_mod_cast hpercent.ofRat_eq (by decide)
  refine ⟨_, hvalue, ?_⟩
  -- the roundings, from the inside out
  have h₂ := (within_nearest hp (by decide)).div (within_nearest hs (by decide))
    (hp.nearest (by decide)).nonneg hp.nonneg hdivisorPos (by exact_mod_cast hpositive)
  have h₃ := (within_nearest hquotient (by decide)).trans h₂
  have h₄ := (within_nearest hproduct (by decide)).trans
    (h₃.mul_right (Nat.cast_nonneg cpus.toNat))
  have h₅ := (within_nearest hpercent (by decide)).trans
    (h₄.mul_right (show (0 : ℚ) ≤ (100 : ℕ) by norm_num))
  have hexact : exactPercent processDelta systemDelta cpus =
      processDelta.toNat / systemDelta.toNat * cpus.toNat * (100 : ℕ) := by
    rw [exactPercent]
    push_cast
    ring
  rw [hexact]
  exact_mod_cast h₅

/-- In a pass that samples the process, only the ticks of the processors can be missing. -/
theorem reading_eq_none_iff {input : PassInput} {pid : UInt32} (h : input.sampled pid = true) :
    input.reading pid = none ↔ systemCpuOf input.source = none := by
  obtain ⟨files, hread⟩ := sampleable_of_sampled h
  rw [PassInput.reading, if_pos h]
  cases hcpu : systemCpuOf input.source with
  | none => simp [readingOf, hread, hcpu, Except.toOption]
  | some cpu => simp [readingOf, hread, hcpu, Except.toOption]

theorem compareReading_eq_some_iff {kept : Option CpuBaseline}
    {reading : Option (CpuBaseline × UInt32)} {percent : F64} :
    compareReading kept reading = some percent ↔
      ∃ latest current cpus, kept = some latest ∧ reading = some (current, cpus) ∧
        latest.Precedes current ∧
        percent = cpuPercent (current.processTicks - latest.processTicks)
          (current.systemTicks - latest.systemTicks) cpus := by
  rw [compareReading, Option.bind_eq_some_iff]
  constructor
  · rintro ⟨⟨current, cpus⟩, hreading, hcompare⟩
    cases kept with
    | none => simp [ProcessCpuTracker.compare] at hcompare
    | some latest => exact ⟨latest, current, cpus, rfl, hreading, compare_eq_some_iff.1 hcompare⟩
  · rintro ⟨latest, current, cpus, rfl, hreading, hcompare⟩
    exact ⟨_, hreading, compare_eq_some_iff.2 hcompare⟩

/-- **When a share of the processors is reported, and which one**: after any passes, a pass that
reads the ticks reports a share of a process it samples if the latest pass before it that has read
them for the process was followed only by passes that have sampled the process without, and if its
reading precedes the new one. Passes that return no collection count for nothing. The value is
that of the binary64 operations, five roundings from the exact one. -/
theorem cpu_reported_iff (history : List PassInput) (input : PassInput) (pid : UInt32)
    (percent : F64) :
    (∃ collection, (collect input (runPasses history .initial)).1 = .ok collection ∧
        Reported collection.samples pid percent) ↔
      ∃ current cpus, input.reading pid = some (current, cpus) ∧
        ∃ before pass after latest,
          history.filter PassInput.completed = before ++ pass :: after ∧
          (∃ c, pass.reading pid = some (latest, c)) ∧
          (∀ p ∈ after, p.sampled pid = true ∧ systemCpuOf p.source = none) ∧
          latest.Precedes current ∧
          percent = cpuPercent (current.processTicks - latest.processTicks)
            (current.systemTicks - latest.systemTicks) cpus ∧
          ∃ q, percent = .finite q ∧
            F64.Within 5 q (exactPercent (current.processTicks - latest.processTicks)
              (current.systemTicks - latest.systemTicks) cpus) := by
  -- the tracker keeps the last reading of a process that was sampled all along
  rw [collect_reported, compareReading_eq_some_iff]
  constructor
  · rintro ⟨latest, current, cpus, hkept, hreading, hprecedes, rfl⟩
    obtain ⟨before, pass, after, hsplit, hpass, hafter⟩ := runPasses_previous_iff.1 hkept
    obtain ⟨⟨_, c⟩, hread, rfl⟩ := Option.map_eq_some_iff.1 hpass
    refine ⟨current, cpus, hreading, before, pass, after, _, hsplit, ⟨c, hread⟩, ?_, hprecedes,
      rfl, cpuPercent_within cpus hprecedes.moved⟩
    intro p hp
    obtain ⟨hnone, hsampled⟩ := hafter p hp
    exact ⟨hsampled, (reading_eq_none_iff hsampled).1 (Option.map_eq_none_iff.1 hnone)⟩
  · rintro ⟨current, cpus, hreading, before, pass, after, latest, hsplit, ⟨c, hpass⟩, hafter,
      hprecedes, rfl, -⟩
    refine ⟨latest, current, cpus, runPasses_previous_iff.2 ?_, hreading, hprecedes, rfl⟩
    refine ⟨before, pass, after, hsplit, Option.map_eq_some_iff.2 ⟨_, hpass, rfl⟩, ?_⟩
    intro p hp
    obtain ⟨hsampled, hnone⟩ := hafter p hp
    exact ⟨Option.map_eq_none_iff.2 ((reading_eq_none_iff hsampled).2 hnone), hsampled⟩

/-- A pass over one process, which has used that many ticks of those that have passed. -/
def loneProcess (used passed : ℕ) : PassInput where
  source :=
    { readToString := fun path =>
        if path = "/proc/stat" then
          .ok ("cpu  ".toList ++ decimal passed ++ "\ncpu0 ".toList ++ decimal passed)
        else if path = "/proc/1/stat" then
          .ok ("1 (sh) S 0 1 1 0 0 0 0 0 0 0 ".toList ++ decimal used ++
            " 0 0 0 20 0 1 0 10 0 2".toList)
        else if path = "/proc/1/status" then .ok []
        else .error .notFound
      readDirNames := fun _ => .ok ["1".toList]
      readLink := fun _ => .error .notFound }
  timestampNs := 0
  readSmaps := false
  smapsBudget := 0

/-- One tick of three, in two passes: what is reported is not the exact share, neither of two
processors nor of one. -/
theorem third_of_a_processor_rounded :
    (loneProcess 10 1000).reading 1 = some (⟨10, 10, 1000⟩, 2) ∧
      (loneProcess 11 1003).reading 1 = some (⟨10, 11, 1003⟩, 2) ∧
      ∃ q, (∃ collection, (collect (loneProcess 11 1003)
          (runPasses [loneProcess 10 1000] .initial)).1 = .ok collection ∧
          Reported collection.samples 1 (.finite q)) ∧
        q ≠ exactPercent 1 3 1 ∧ q ≠ exactPercent 1 3 2 := by
  refine ⟨by decide +kernel, by decide +kernel, 2345624805922133 / 35184372088832, ?_, ?_, ?_⟩
  · rw [collect_reported]
    decide +kernel
  · decide +kernel
  · decide +kernel

end Nemor.Collector
