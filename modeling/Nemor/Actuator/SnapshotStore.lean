import Nemor.Actuator.World
import Nemor.Lib.OrderedMap

/-!
# The two snapshot stores

The actuator is tested on `MemorySnapshotStore` and runs on the SQL tables. Both implement
the same three operations. They agree as long as they are used the way the actuator uses
them: what is persisted fits the table and its foreign keys, and an update brings back a
stored snapshot with nothing changed but its progress. Outside of that each store has
refusals of its own, and an update writes four columns in one and the whole record in the
other.
-/

namespace Nemor.Actuator

/-! ## §1 The operations -/

/-- The operations of a store. -/
inductive StoreOp where
  | persist (snapshot : MutationSnapshot)
  | update (snapshot : MutationSnapshot)
  | pending

/-- What an operation returns. -/
abbrev StoreOp.Value : StoreOp → Type
  | .persist _ => ℕ
  | .update _ => Unit
  | .pending => List MutationSnapshot

/-- An operation with its result. -/
structure StoreReply where
  op : StoreOp
  result : Except ActuatorError op.Value

/-- Run operations one after the other and collect the results. -/
def runOps {σ : Type} (step : (op : StoreOp) → σ → Except ActuatorError op.Value × σ) :
    σ → List StoreOp → List StoreReply
  | _, [] => []
  | s, op :: ops => ⟨op, (step op s).1⟩ :: runOps step (step op s).2 ops

/-! ## §2 The SQL store -/

/-- The snapshot table with the rows its foreign keys refer to. -/
structure Database where
  store : Store
  sessions : Finset Int64
  processCatalog : Finset Int64

namespace Database

/-- No snapshot has been stored yet. -/
def fresh (sessions processCatalog : Finset Int64) : Database where
  store := emptyStore
  sessions := sessions
  processCatalog := processCatalog

/-- The parameters are converted first, then the statement checks the foreign keys. -/
def persist (db : Database) (s : MutationSnapshot) : Except ActuatorError ℕ × Database :=
  if 2 ^ 63 ≤ s.startTimeTicks.toNat then
    (.error (.persistence "start ticks overflow"), db)
  else if s.sessionId ∉ db.sessions ∨ s.processCatalogId ∉ db.processCatalog then
    (.error (.persistence "FOREIGN KEY constraint failed"), db)
  else
    ((db.store.persist s).1, { db with store := (db.store.persist s).2 })

/-- How many rows the statement has changed is not looked at. -/
def update (db : Database) (s : MutationSnapshot) : Except ActuatorError Unit × Database :=
  if 2 ^ 63 ≤ s.id then (.error (.persistence "snapshot id overflow"), db)
  else (.ok (), { db with store := db.store.update s })

/-- An operation on the database. -/
def step : (op : StoreOp) → Database → Except ActuatorError op.Value × Database
  | .persist s, db => db.persist s
  | .update s, db => db.update s
  | .pending, db => (.ok db.store.pending, db)

end Database

/-! ## §3 The store in memory -/

/-- The store in memory: snapshots by their id. -/
structure MemorySnapshotStore where
  nextId : ℕ
  snapshots : OrderedMap ℕ MutationSnapshot

namespace MemorySnapshotStore

/-- An empty store. -/
def default : MemorySnapshotStore := ⟨0, .empty⟩

/-- Keep a snapshot under a new id. -/
def persist (mem : MemorySnapshotStore) (s : MutationSnapshot) :
    Except ActuatorError ℕ × MemorySnapshotStore :=
  let nextId := mem.nextId + 1
  let s := { s with id := nextId }
  (.ok nextId, ⟨nextId, mem.snapshots.insert s.id s⟩)

/-- Replace a snapshot that is known. -/
def update (mem : MemorySnapshotStore) (s : MutationSnapshot) :
    Except ActuatorError Unit × MemorySnapshotStore :=
  if !mem.snapshots.containsKey s.id then (.error (.persistence "unknown snapshot"), mem)
  else (.ok (), { mem with snapshots := mem.snapshots.insert s.id s })

/-- Snapshots of mutations that were applied and not rolled back. -/
def pending (mem : MemorySnapshotStore) : List MutationSnapshot :=
  mem.snapshots.values.filter fun s => s.applied && !s.rolledBack

/-- An operation in memory. -/
def step : (op : StoreOp) → MemorySnapshotStore → Except ActuatorError op.Value × MemorySnapshotStore
  | .persist s, mem => mem.persist s
  | .update s, mem => mem.update s
  | .pending, mem => (.ok mem.pending, mem)

end MemorySnapshotStore

/-! ## §4 Agreement -/

/-- The operation is one the actuator makes: the snapshot fits the table, or it is a stored
    one whose progress alone has changed. -/
def Database.Admits (db : Database) : StoreOp → Prop
  | .persist s => s.startTimeTicks.toNat < 2 ^ 63 ∧ s.sessionId ∈ db.sessions ∧
      s.processCatalogId ∈ db.processCatalog
  | .update s => ∃ row ∈ db.store.rows, row.id = s.id ∧ row.withProgress s = s
  | .pending => True

/-- Every operation is admitted when its turn comes. -/
def Database.AdmitsAll : Database → List StoreOp → Prop
  | _, [] => True
  | db, op :: ops => db.Admits op ∧ AdmitsAll (Database.step op db).2 ops

/-- Both stores hold the same snapshots and give out the same identifiers. -/
structure Agree (db : Database) (mem : MemorySnapshotStore) : Prop where
  nextId : mem.nextId = db.store.lastId
  entries : mem.snapshots.entries = db.store.rows.map fun row => (row.id, row)

/-- No two rows share an identifier. -/
theorem Store.id_inj (store : Store) {a b : MutationSnapshot} (ha : a ∈ store.rows)
    (hb : b ∈ store.rows) (h : a.id = b.id) : a = b := by
  have hnodup : (store.rows.map MutationSnapshot.id).Nodup := by
    rw [List.Nodup, List.pairwise_map]
    exact store.ordered.imp fun hlt => hlt.ne
  exact List.inj_on_of_nodup_map hnodup ha hb h

theorem Agree.pending {db : Database} {mem : MemorySnapshotStore} (h : Agree db mem) :
    mem.pending = db.store.pending := by
  unfold MemorySnapshotStore.pending OrderedMap.values Store.pending
  rw [h.entries, List.map_map]
  simp only [Function.comp_def, List.map_id']
  rfl

/-- A new snapshot gets the next identifier in both. -/
theorem Agree.persist {db : Database} {mem : MemorySnapshotStore} {s : MutationSnapshot}
    (h : Agree db mem) (hadmits : db.Admits (.persist s)) :
    (mem.persist s).1 = (db.persist s).1 ∧ Agree (db.persist s).2 (mem.persist s).2 := by
  obtain ⟨hticks, hsession, hcatalog⟩ := hadmits
  have hdb : db.persist s =
      (.ok (db.store.lastId + 1), { db with store := db.store.insert s }) := by
    have hfits : ¬ 2 ^ 63 ≤ s.startTimeTicks.toNat := not_le.2 hticks
    simp only [Database.persist, hfits, hsession, hcatalog, not_true, or_self, if_false,
      Store.persist_ok hticks]
  rw [hdb]
  refine ⟨by simp [MemorySnapshotStore.persist, h.nextId], ?_, ?_⟩
  · simp [MemorySnapshotStore.persist, h.nextId, Store.insert]
  · -- the new identifier is above all others
    have habove : ∀ e ∈ mem.snapshots.entries, e.1 < mem.nextId + 1 := by
      intro e he
      rw [h.entries] at he
      obtain ⟨row, hrow, rfl⟩ := List.mem_map.1 he
      rw [h.nextId]
      exact Nat.lt_succ_of_le (db.store.bounded row hrow)
    show OrderedMap.insertEntry (mem.nextId + 1) _ mem.snapshots.entries = _
    rw [OrderedMap.insertEntry_above _ habove, h.entries]
    simp [Store.insert, Store.inserted, h.nextId]

/-- A stored snapshot is replaced by itself with new progress in both. -/
theorem Agree.update {db : Database} {mem : MemorySnapshotStore} {s : MutationSnapshot}
    (h : Agree db mem) (hbound : db.store.lastId < 2 ^ 63) (hadmits : db.Admits (.update s)) :
    (mem.update s).1 = (db.update s).1 ∧ Agree (db.update s).2 (mem.update s).2 := by
  obtain ⟨row, hrow, hid, hprogress⟩ := hadmits
  have hfits : ¬ 2 ^ 63 ≤ s.id := by
    have hle := db.store.bounded row hrow
    omega
  have hdb : db.update s = (.ok (), { db with store := db.store.update s }) := by
    simp only [Database.update, hfits, if_false]
  have hpresent : ∃ e ∈ mem.snapshots.entries, e.1 = s.id := by
    rw [h.entries]
    exact ⟨(row.id, row), List.mem_map_of_mem hrow, hid⟩
  have hknown : mem.snapshots.containsKey s.id = true := by
    obtain ⟨e, he, hek⟩ := hpresent
    simp only [OrderedMap.containsKey, List.any_eq_true]
    exact ⟨e, he, by simpa using hek⟩
  have hmem : mem.update s = (.ok (), { mem with snapshots := mem.snapshots.insert s.id s }) := by
    simp [MemorySnapshotStore.update, hknown]
  rw [hdb, hmem]
  refine ⟨rfl, h.nextId, ?_⟩
  -- the map replaces the whole record, the table only the columns of progress
  show OrderedMap.insertEntry s.id s mem.snapshots.entries =
    (db.store.rows.map (Store.updateRow s)).map fun row => (row.id, row)
  rw [OrderedMap.insertEntry_present s mem.snapshots.sorted hpresent, h.entries, List.map_map,
    List.map_map]
  apply List.map_congr_left
  intro other hother
  by_cases hsame : other.id = s.id
  · -- identifiers are unique, so this is the row that was read
    have hother' : other = row := db.store.id_inj hother hrow (hsame.trans hid.symm)
    subst hother'
    simp [Store.updateRow, hsame, hprogress]
  · simp [Store.updateRow, hsame]

/-- One admitted operation: the same result, and the stores agree again. -/
theorem Agree.step {db : Database} {mem : MemorySnapshotStore} (h : Agree db mem) (op : StoreOp)
    (hbound : db.store.lastId < 2 ^ 63) (hadmits : db.Admits op) :
    (MemorySnapshotStore.step op mem).1 = (Database.step op db).1 ∧
      Agree (Database.step op db).2 (MemorySnapshotStore.step op mem).2 := by
  cases op with
  | persist s => exact h.persist hadmits
  | update s => exact h.update hbound hadmits
  | pending => exact ⟨congrArg Except.ok h.pending, h⟩

/-- Each operation gives out at most one identifier. -/
theorem Database.lastId_step_le (op : StoreOp) (db : Database) :
    (Database.step op db).2.store.lastId ≤ db.store.lastId + 1 := by
  cases op with
  | persist s =>
    simp only [step, persist, Store.persist]
    split_ifs <;> simp [Store.insert]
  | update s =>
    simp only [step, update]
    split_ifs <;> simp [Store.update]
  | pending => simp [step]

theorem Agree.run {db : Database} {mem : MemorySnapshotStore} (h : Agree db mem)
    (ops : List StoreOp) (hbound : db.store.lastId + ops.length < 2 ^ 63)
    (hadmits : db.AdmitsAll ops) :
    runOps Database.step db ops = runOps MemorySnapshotStore.step mem ops := by
  induction ops generalizing db mem with
  | nil => rfl
  | cons op ops ih =>
    obtain ⟨hop, hops⟩ := hadmits
    rw [List.length_cons] at hbound
    obtain ⟨hresult, hagree⟩ := h.step op (by omega) hop
    have hlast := Database.lastId_step_le op db
    unfold runOps
    rw [hresult, ih hagree (by omega) hops]

/-- **The stores agree.** On every sequence of fewer than `2 ^ 63` admitted operations the SQL
    store and the store in memory return the same results. -/
theorem stores_agree (sessions processCatalog : Finset Int64) (ops : List StoreOp)
    (hbound : ops.length < 2 ^ 63)
    (hadmits : (Database.fresh sessions processCatalog).AdmitsAll ops) :
    runOps Database.step (.fresh sessions processCatalog) ops =
      runOps MemorySnapshotStore.step .default ops := by
  have hagree : Agree (.fresh sessions processCatalog) .default := ⟨rfl, rfl⟩
  have hfresh : (Database.fresh sessions processCatalog).store.lastId = 0 := rfl
  exact hagree.run ops (by omega) hadmits

/-- An applied snapshot of session 1 and process 7. -/
def sampleSnapshot (startTimeTicks : UInt64) : MutationSnapshot where
  id := 0
  sessionId := 1
  timestampNs := 5
  processCatalogId := 7
  identity := "browser"
  pid := 40
  startTimeTicks := startTimeTicks
  originalGroup := "user.slice"
  targetGroup := backgroundGroup
  originalProperties := ⟨none, none⟩
  requestedProperties := ⟨none, some 4096⟩
  reason := "background"
  applied := true
  verified := false
  rolledBack := false
  lastError := none

/-- Persist, list, mark as rolled back, list. -/
theorem stores_agree_lifecycle :
    (Database.fresh {1} {7}).AdmitsAll [.persist (sampleSnapshot 9), .pending,
      .update { sampleSnapshot 9 with id := 1, rolledBack := true }, .pending] ∧
    runOps Database.step (.fresh {1} {7}) [.persist (sampleSnapshot 9), .pending,
        .update { sampleSnapshot 9 with id := 1, rolledBack := true }, .pending] =
      runOps MemorySnapshotStore.step .default [.persist (sampleSnapshot 9), .pending,
        .update { sampleSnapshot 9 with id := 1, rolledBack := true }, .pending] := by
  have hadmits : (Database.fresh {1} {7}).AdmitsAll [.persist (sampleSnapshot 9), .pending,
      .update { sampleSnapshot 9 with id := 1, rolledBack := true }, .pending] := by
    refine ⟨⟨by decide, by decide, by decide⟩, trivial, ⟨_, List.mem_cons_self .., rfl, rfl⟩,
      trivial, trivial⟩
  exact ⟨hadmits, stores_agree {1} {7} _ (by decide) hadmits⟩

/-- The operation succeeded. -/
def StoreReply.isOk (r : StoreReply) : Bool := r.result.toBool

/-- The target groups of a listing. -/
def StoreReply.targets : StoreReply → List String
  | ⟨.pending, .ok rows⟩ => rows.map (·.targetGroup)
  | _ => []

/-- Three sequences on which the stores part: start ticks that no signed number holds, a
    session the database does not have, and an update with another target group. -/
theorem stores_differ :
    runOps Database.step (.fresh {1} {7}) [.persist (sampleSnapshot 9223372036854775808)] ≠
        runOps MemorySnapshotStore.step .default
          [.persist (sampleSnapshot 9223372036854775808)] ∧
      runOps Database.step (.fresh ∅ {7}) [.persist (sampleSnapshot 9)] ≠
        runOps MemorySnapshotStore.step .default [.persist (sampleSnapshot 9)] ∧
      runOps Database.step (.fresh {1} {7}) [.persist (sampleSnapshot 9),
          .update { sampleSnapshot 9 with id := 1, targetGroup := "user.slice" }, .pending] ≠
        runOps MemorySnapshotStore.step .default [.persist (sampleSnapshot 9),
          .update { sampleSnapshot 9 with id := 1, targetGroup := "user.slice" }, .pending] := by
  refine ⟨?_, ?_, ?_⟩
  · intro h
    have hok := congrArg (List.map StoreReply.isOk) h
    revert hok
    decide
  · intro h
    have hok := congrArg (List.map StoreReply.isOk) h
    revert hok
    decide
  · intro h
    have htargets := congrArg (List.map StoreReply.targets) h
    revert htargets
    decide

end Nemor.Actuator
