import Mathlib.Data.List.Chain
import Nemor.Lib.Binary64
import Nemor.Lib.KeyedTable
import Nemor.Lib.Procedure
import Nemor.Pressure.Experiment

/-!
# The store of a pressure experiment

Every call of `persist` writes all that is known of an experiment: a report, a file for each run,
and a database with a row for each level and for each progress record. A row is found by the
experiment, the run and the level, a progress record also by its stage and its time, and a row
takes the place of any other under the same key.

The time of a progress record is read from `/proc/uptime`, which has two decimals.

- §1: keys and rows
- §2: the store
- §3: what one call writes
- §4: calls one after the other
- §5: two samples in one tick of the clock
-/

namespace Nemor.Pressure

open Capacity MachineNumbers Procedure

/-! ## §1 Keys and rows -/

/-- Seconds since the start of the system, in nanoseconds; 0 when they cannot be read. -/
def timestampNs (uptime : Option F64) : UInt64 :=
  match uptime.filter fun seconds => seconds.isFinite && (F64.finite 0).le seconds with
  | none => 0
  | some seconds =>
    match seconds.times (.finite 1000000000) with
    -- `as u64` cuts the fraction off and saturates
    | .finite ns => .ofNat (min ns.floor.toNat (2 ^ 64 - 1))
    | .posInf => .ofNat (2 ^ 64 - 1)
    | .negInf | .nan => 0

/-- The name of the stage, as `Debug` prints it. -/
def PressureLevelProgressStage.debug : PressureLevelProgressStage → String
  | .transitionStarting => "TransitionStarting"
  | .transitionTimeout => "TransitionTimeout"
  | .transitionIpcFailure => "TransitionIpcFailure"
  | .levelAcknowledged => "LevelAcknowledged"
  | .stabilizationStarting => "StabilizationStarting"
  | .holdStarting => "HoldStarting"
  | .sampling => "Sampling"
  | .completed => "Completed"

/-- `as i64`, as an integer column keeps it. -/
def asI64 (n : UInt64) : ℤ := n.toInt64.toInt

/-- The primary key of `pressure_level`. -/
structure LevelKey where
  experimentId : String
  runOrder : ℤ
  levelIndex : ℤ
  deriving DecidableEq

/-- The primary key of `pressure_level_progress`. -/
structure ProgressKey where
  experimentId : String
  runOrder : ℤ
  levelIndex : ℤ
  stage : String
  monotonicNs : ℤ
  deriving DecidableEq

/-- What `serde_json` does with the records that have a row of their own. -/
structure EvidenceJson where
  level : LevelEvidence → String
  progress : PressureLevelProgress → String
  readLevel : String → Option LevelEvidence
  readProgress : String → Option PressureLevelProgress

/-- The key of a level. -/
def levelKey (experimentId : String) (order : ℕ) (level : LevelEvidence) : LevelKey where
  experimentId := experimentId
  runOrder := order
  levelIndex := asI64 level.levelIndex

/-- The key of a progress record. -/
def progressKey (experimentId : String) (order : ℕ) (progress : PressureLevelProgress) :
    ProgressKey where
  experimentId := experimentId
  runOrder := order
  levelIndex := asI64 progress.levelIndex
  stage := progress.stage.debug
  monotonicNs := asI64 progress.monotonicNs

/-! ## §2 The store -/

/-- The files and the tables of an experiment. A file holds the record that was written to it, or
    nothing that can be read. -/
structure StoreHost where
  temporary : Option PressureExecutionEvidence
  report : Option PressureExecutionEvidence
  runFiles : ℕ → Option PressureRunRecord
  experiments : KeyedTable String (String × PressureExecutionEvidence)
  levels : KeyedTable LevelKey String
  progress : KeyedTable ProgressKey String
  -- the operations that were tried so far
  operations : ℕ

/-- What `create` leaves: the tables are new, and it fails where there are any. -/
def StoreHost.created : StoreHost where
  temporary := none
  report := none
  runFiles := fun _ => none
  experiments := .empty
  levels := .empty
  progress := .empty
  operations := 0

/-- A procedure on the database and the report file. -/
abbrev Storing := EStateM String StoreHost

section Store

-- the error of the nth operation, if it fails
variable (json : EvidenceJson) (faults : ℕ → Option String)

/-- One operation of the host, with what it does when it fails. -/
def operate (done failed : StoreHost → StoreHost) : Storing Unit := fun h =>
  let next := { h with operations := h.operations + 1 }
  match faults h.operations with
  | none => .ok () (done next)
  | some e => .error e (failed next)

/-- A statement of the database. One that fails changes nothing. -/
def execute (statement : StoreHost → StoreHost) : Storing Unit := operate faults statement id

/-- The rows of one run. -/
def persistRun (experimentId : String) (order : ℕ) (run : PressureRunRecord) : Storing Unit := do
  operate faults (fun h => { h with runFiles := Function.update h.runFiles order (some run) })
    (fun h => { h with runFiles := Function.update h.runFiles order none })
  run.levels.forM fun level =>
    execute faults fun h =>
      { h with levels := h.levels.replace (levelKey experimentId order level, json.level level) }
  run.levelProgress.forM fun progress =>
    execute faults fun h =>
      { h with
        progress := h.progress.replace
          (progressKey experimentId order progress, json.progress progress) }

/-- `IncrementalPressureStore::persist`. -/
def persistEvidence (evidence : PressureExecutionEvidence) : Storing Unit := do
  operate faults (fun h => { h with temporary := some evidence })
    (fun h => { h with temporary := none })
  operate faults (fun h => { h with report := h.temporary, temporary := none }) id
  -- the connection
  operate faults id id
  execute faults fun h =>
    { h with
      experiments := h.experiments.upsert
        (evidence.experimentId, evidence.state.debug, evidence) }
  evidence.runs.zipIdx.forM fun (run, order) =>
    persistRun json faults evidence.experimentId order run

/-- The store that an experiment is executed with. -/
def incrementalPressureStore : PressureStore StoreHost where
  persist h evidence :=
    let r := (persistEvidence json faults evidence).run h
    (result r, final r)

end Store

/-! ## §3 What one call writes -/

/-- The rows that are written for levels. -/
def levelRows (json : EvidenceJson) (e : PressureExecutionEvidence) : List (LevelKey × String) :=
  e.runs.zipIdx.flatMap fun (run, order) =>
    run.levels.map fun level => (levelKey e.experimentId order level, json.level level)

/-- The rows that are written for progress records. -/
def progressRows (json : EvidenceJson) (e : PressureExecutionEvidence) :
    List (ProgressKey × String) :=
  e.runs.zipIdx.flatMap fun (run, order) =>
    run.levelProgress.map fun progress =>
      (progressKey e.experimentId order progress, json.progress progress)

/-- A procedure writes these rows, or some of them if it fails. -/
def Writes {α : Type} (x : Storing α) (levels : List (LevelKey × String))
    (progress : List (ProgressKey × String)) : Prop :=
  ∀ h, ∃ l ⊆ levels, ∃ p ⊆ progress,
    (final (x.run h)).levels = h.levels.replaceAll l ∧
    (final (x.run h)).progress = h.progress.replaceAll p ∧
    ((result (x.run h)).isOk = true → l = levels ∧ p = progress)

section WritesRules

variable {α β : Type} {json : EvidenceJson} {faults : ℕ → Option String} {x : Storing α}
  {f : α → Storing β} {L L' : List (LevelKey × String)} {P P' : List (ProgressKey × String)}

theorem writes_pure (a : α) : Writes (pure a : Storing α) [] [] := by
  intro h
  exact ⟨[], List.nil_subset _, [], List.nil_subset _, rfl, rfl, fun _ => ⟨rfl, rfl⟩⟩

theorem writes_bind (hx : Writes x L P) (hf : ∀ a, Writes (f a) L' P') :
    Writes (x >>= f) (L ++ L') (P ++ P') := by
  intro h
  obtain ⟨l, hl, p, hp, hlevels, hprogress, hall⟩ := hx h
  cases hrun : x.run h with
  | error e h' =>
    -- what follows is not run
    rw [bind_error hrun]
    rw [hrun] at hlevels hprogress
    exact ⟨l, fun r hr => List.mem_append_left _ (hl hr), p,
      fun r hr => List.mem_append_left _ (hp hr), hlevels, hprogress, fun hok => by cases hok⟩
  | ok a h' =>
    rw [hrun] at hlevels hprogress hall
    obtain ⟨rfl, rfl⟩ := hall rfl
    obtain ⟨l', hl', p', hp', hlevels', hprogress', hall'⟩ := hf a h'
    rw [bind_ok hrun]
    have hsubset {γ : Type} (first : List γ) {some all : List γ} (h : some ⊆ all) :
        first ++ some ⊆ first ++ all :=
      List.append_subset.2 ⟨List.subset_append_left _ _, fun r hr => List.mem_append_right _ (h hr)⟩
    refine ⟨l ++ l', hsubset l hl', p ++ p', hsubset p hp', ?_, ?_, ?_⟩
    · rw [hlevels', KeyedTable.replaceAll_append, ← hlevels, final_ok]
    · rw [hprogress', KeyedTable.replaceAll_append, ← hprogress, final_ok]
    · intro hok
      obtain ⟨rfl, rfl⟩ := hall' hok
      exact ⟨rfl, rfl⟩

/-- What is written for a list is written for one item after the other. -/
theorem writes_forM {γ : Type} {xs : List γ} {g : γ → Storing Unit}
    {L : γ → List (LevelKey × String)} {P : γ → List (ProgressKey × String)}
    (hg : ∀ a, Writes (g a) (L a) (P a)) : Writes (xs.forM g) (xs.flatMap L) (xs.flatMap P) := by
  induction xs with
  | nil => exact writes_pure ()
  | cons a xs ih =>
    rw [List.flatMap_cons, List.flatMap_cons]
    exact writes_bind (hg a) fun _ => ih

/-- An operation writes what it does to the tables; one that fails must not touch them. -/
theorem writes_operate {done failed : StoreHost → StoreHost}
    (hdone : ∀ h, (done h).levels = h.levels.replaceAll L ∧
      (done h).progress = h.progress.replaceAll P)
    (hfailed : ∀ h, (failed h).levels = h.levels ∧ (failed h).progress = h.progress) :
    Writes (operate faults done failed) L P := by
  intro h
  cases hfault : faults h.operations with
  | none =>
    have hrun : (operate faults done failed).run h =
        .ok () (done { h with operations := h.operations + 1 }) := by
      show operate faults done failed h = _
      unfold operate
      rw [hfault]
    obtain ⟨hlevels, hprogress⟩ := hdone { h with operations := h.operations + 1 }
    rw [hrun]
    exact ⟨L, fun _ hr => hr, P, fun _ hr => hr, hlevels, hprogress, fun _ => ⟨rfl, rfl⟩⟩
  | some e =>
    have hrun : (operate faults done failed).run h =
        .error e (failed { h with operations := h.operations + 1 }) := by
      show operate faults done failed h = _
      unfold operate
      rw [hfault]
    obtain ⟨hlevels, hprogress⟩ := hfailed { h with operations := h.operations + 1 }
    rw [hrun]
    exact ⟨[], List.nil_subset _, [], List.nil_subset _, hlevels, hprogress,
      fun hok => by cases hok⟩

/-- An operation on a file or on the connection writes no row. -/
theorem writes_file_bind {done failed : StoreHost → StoreHost} {g : Unit → Storing β}
    (hdone : ∀ h, (done h).levels = h.levels ∧ (done h).progress = h.progress)
    (hfailed : ∀ h, (failed h).levels = h.levels ∧ (failed h).progress = h.progress)
    (hg : Writes (g ()) L P) : Writes (operate faults done failed >>= g) L P :=
  writes_bind (writes_operate hdone hfailed : Writes _ [] []) fun _ => hg

theorem writes_persistRun {experimentId : String} {order : ℕ} {run : PressureRunRecord} :
    Writes (persistRun json faults experimentId order run)
      (run.levels.map fun level => (levelKey experimentId order level, json.level level))
      (run.levelProgress.map fun progress =>
        (progressKey experimentId order progress, json.progress progress)) := by
  have hlevels : Writes (run.levels.forM fun level => execute faults fun h =>
      { h with levels := h.levels.replace (levelKey experimentId order level, json.level level) })
      (run.levels.flatMap fun level => [(levelKey experimentId order level, json.level level)])
      (run.levels.flatMap fun _ => []) :=
    writes_forM fun _ => writes_operate (fun _ => ⟨rfl, rfl⟩) (fun _ => ⟨rfl, rfl⟩)
  have hprogress : Writes (run.levelProgress.forM fun progress => execute faults fun h =>
      { h with
        progress := h.progress.replace
          (progressKey experimentId order progress, json.progress progress) })
      (run.levelProgress.flatMap fun _ => [])
      (run.levelProgress.flatMap fun progress =>
        [(progressKey experimentId order progress, json.progress progress)]) :=
    writes_forM fun _ => writes_operate (fun _ => ⟨rfl, rfl⟩) (fun _ => ⟨rfl, rfl⟩)
  have hrows := writes_bind hlevels fun _ => hprogress
  have hnone {γ δ : Type} (xs : List γ) : (xs.flatMap fun _ => ([] : List δ)) = [] := by simp
  rw [hnone, hnone, List.append_nil, List.nil_append, ← List.map_eq_flatMap,
    ← List.map_eq_flatMap] at hrows
  exact writes_file_bind (fun _ => ⟨rfl, rfl⟩) (fun _ => ⟨rfl, rfl⟩) hrows

/-- **One call.** It writes the rows of its evidence, or some of them if it fails. -/
theorem writes_persistEvidence (e : PressureExecutionEvidence) :
    Writes (persistEvidence json faults e) (levelRows json e) (progressRows json e) := by
  have hruns : Writes (e.runs.zipIdx.forM fun x => persistRun json faults e.experimentId x.2 x.1)
      (levelRows json e) (progressRows json e) :=
    writes_forM fun x => writes_persistRun
  unfold persistEvidence execute
  refine writes_file_bind (fun _ => ⟨rfl, rfl⟩) (fun _ => ⟨rfl, rfl⟩) ?_
  refine writes_file_bind (fun _ => ⟨rfl, rfl⟩) (fun _ => ⟨rfl, rfl⟩) ?_
  refine writes_file_bind (fun _ => ⟨rfl, rfl⟩) (fun _ => ⟨rfl, rfl⟩) ?_
  exact writes_file_bind (fun _ => ⟨rfl, rfl⟩) (fun _ => ⟨rfl, rfl⟩) hruns

end WritesRules

/-! ## §4 Calls one after the other -/

/-- The evidence goes on from `e`: nothing that was recorded is taken back. -/
structure Extends (e e' : PressureExecutionEvidence) : Prop where
  experimentId : e'.experimentId = e.experimentId
  runs : ∀ (order : ℕ) (run : PressureRunRecord), e.runs[order]? = some run →
    ∃ run' : PressureRunRecord, e'.runs[order]? = some run' ∧
      run.levels <+: run'.levels ∧ run.levelProgress <+: run'.levelProgress

/-- The keys of all levels of an experiment. -/
def levelKeys (e : PressureExecutionEvidence) : List LevelKey :=
  e.runs.zipIdx.flatMap fun (run, order) => run.levels.map (levelKey e.experimentId order)

/-- The keys of all its progress records. -/
def progressKeys (e : PressureExecutionEvidence) : List ProgressKey :=
  e.runs.zipIdx.flatMap fun (run, order) => run.levelProgress.map (progressKey e.experimentId order)

/-- Keyed records of numbered lists, and the list that a key comes from. -/
theorem mem_numbered {α β κ : Type} {items : α → List β} {key : ℕ → β → κ} {xs : List α} {k : κ} :
    k ∈ (xs.zipIdx.flatMap fun (x, i) => (items x).map (key i)) ↔
      ∃ i x, xs[i]? = some x ∧ ∃ b ∈ items x, key i b = k := by
  simp only [List.mem_flatMap, List.mem_map, Prod.exists, List.mk_mem_zipIdx_iff_getElem?]
  exact exists_comm

section Calls

variable {json : EvidenceJson} {faults : ℕ → Option String} {h : StoreHost}
  {e e' : PressureExecutionEvidence}

theorem map_fst_levelRows : (levelRows json e).map Prod.fst = levelKeys e := by
  simp [levelRows, levelKeys, List.map_flatMap, Function.comp_def]

theorem map_fst_progressRows : (progressRows json e).map Prod.fst = progressKeys e := by
  simp [progressRows, progressKeys, List.map_flatMap, Function.comp_def]

theorem Extends.levelKeys_subset (hext : Extends e e') : levelKeys e ⊆ levelKeys e' := by
  intro k hk
  obtain ⟨order, run, hrun, level, hlevel, rfl⟩ := mem_numbered.1 hk
  obtain ⟨run', hrun', hlevels, -⟩ := hext.runs order run hrun
  apply mem_numbered.2
  rw [hext.experimentId]
  exact ⟨order, run', hrun', level, hlevels.subset hlevel, rfl⟩

theorem Extends.progressKeys_subset (hext : Extends e e') : progressKeys e ⊆ progressKeys e' := by
  intro k hk
  obtain ⟨order, run, hrun, progress, hprogress, rfl⟩ := mem_numbered.1 hk
  obtain ⟨run', hrun', -, hall⟩ := hext.runs order run hrun
  apply mem_numbered.2
  rw [hext.experimentId]
  exact ⟨order, run', hrun', progress, hall.subset hprogress, rfl⟩

/-- Whatever the tables hold is under a key of this evidence. -/
structure Known (h : StoreHost) (e : PressureExecutionEvidence) : Prop where
  levels : ∀ row ∈ h.levels.rows, row.1 ∈ levelKeys e
  progress : ∀ row ∈ h.progress.rows, row.1 ∈ progressKeys e

theorem Known.extends (hknown : Known h e) (hext : Extends e e') : Known h e' :=
  ⟨fun row hrow => hext.levelKeys_subset (hknown.levels row hrow),
    fun row hrow => hext.progressKeys_subset (hknown.progress row hrow)⟩

/-- A call adds rows of its evidence only, also when it fails. -/
theorem Known.persist (hknown : Known h e) :
    Known ((incrementalPressureStore json faults).persist h e).2 e := by
  obtain ⟨l, hl, p, hp, hlevels, hprogress, -⟩ := @writes_persistEvidence json faults e h
  constructor
  · show ∀ row ∈ (final ((persistEvidence json faults e).run h)).levels.rows, _
    rw [hlevels]
    refine KeyedTable.keys_replaceAll hknown.levels fun row hrow => ?_
    rw [← map_fst_levelRows]
    exact List.mem_map_of_mem (hl hrow)
  · show ∀ row ∈ (final ((persistEvidence json faults e).run h)).progress.rows, _
    rw [hprogress]
    refine KeyedTable.keys_replaceAll hknown.progress fun row hrow => ?_
    rw [← map_fst_progressRows]
    exact List.mem_map_of_mem (hp hrow)

/-- In each run the levels have indices of their own, and the progress records differ in level,
    stage or time. -/
structure DistinctKeys (e : PressureExecutionEvidence) : Prop where
  levels : ∀ run ∈ e.runs, (run.levels.map LevelEvidence.levelIndex).Nodup
  progress : ∀ run ∈ e.runs,
    (run.levelProgress.map fun p => (p.levelIndex, p.stage, p.monotonicNs)).Nodup

/-- The texts of these records are read back as they were. -/
structure EvidenceJson.Reads (json : EvidenceJson) (e : PressureExecutionEvidence) : Prop where
  level : ∀ run ∈ e.runs, ∀ level ∈ run.levels,
    json.readLevel (json.level level) = some level
  progress : ∀ run ∈ e.runs, ∀ progress ∈ run.levelProgress,
    json.readProgress (json.progress progress) = some progress

end Calls

/-! ## §5 Two samples in one tick of the clock -/

section NoFaults

variable {α β : Type} {json : EvidenceJson} {x : Storing α} {f : α → Storing β}

/-- The procedure succeeds from every state. -/
def Succeeds (x : Storing α) : Prop := ∀ h, ∃ a h', x.run h = .ok a h'

theorem succeeds_bind (hx : Succeeds x) (hf : ∀ a, Succeeds (f a)) : Succeeds (x >>= f) := by
  intro h
  obtain ⟨a, h', hrun⟩ := hx h
  rw [bind_ok hrun]
  exact hf a h'

theorem succeeds_operate {done failed : StoreHost → StoreHost} :
    Succeeds (operate (fun _ => none) done failed) :=
  fun _ => ⟨_, _, rfl⟩

theorem succeeds_forM {γ : Type} {xs : List γ} {g : γ → Storing Unit} (hg : ∀ a, Succeeds (g a)) :
    Succeeds (xs.forM g) := by
  induction xs with
  | nil => exact fun _ => ⟨_, _, rfl⟩
  | cons a xs ih => exact succeeds_bind (hg a) fun _ => ih

/-- Without faults every call succeeds. -/
theorem persist_ok (h : StoreHost) (e : PressureExecutionEvidence) :
    ((incrementalPressureStore json fun _ => none).persist h e).1 = .ok () := by
  have hrows (id : String) (order : ℕ) (run : PressureRunRecord) :
      Succeeds (persistRun json (fun _ => none) id order run) :=
    succeeds_bind succeeds_operate fun _ =>
      succeeds_bind (succeeds_forM fun _ => succeeds_operate) fun _ =>
        succeeds_forM fun _ => succeeds_operate
  have hcall : Succeeds (persistEvidence json (fun _ => none) e) :=
    succeeds_bind succeeds_operate fun _ => succeeds_bind succeeds_operate fun _ =>
      succeeds_bind succeeds_operate fun _ => succeeds_bind succeeds_operate fun _ =>
        succeeds_forM fun _ => hrows _ _ _
  obtain ⟨_, h', hrun⟩ := hcall h
  show result ((persistEvidence json (fun _ => none) e).run h) = _
  rw [hrun]
  rfl

end NoFaults

end Nemor.Pressure
