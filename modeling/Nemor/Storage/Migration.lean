import Nemor.Lib.Interleaving
import Nemor.Storage.Schema

/-!
# Migrating the database

Opening the storage brings its schema up to date: `migrate` looks at each migration in turn,
checks the checksum of one that is recorded and executes one that is not, in a transaction that
also records it. Several processes may open one file at the same time, also processes of
different builds, and any of them may fail or be killed between two statements.

§1 is the code, once as it is written and once cut at its statements, §2 what holds in every
interleaving, §3 what an undisturbed opening does to what it finds.
-/

namespace Nemor.Storage.Migration

/-! ## §1 Applying migrations -/

/-- The schema and the rows of `schema_migrations`: version and checksum. -/
structure Database where
  schema : Schema
  records : List (ℕ × String)
  deriving DecidableEq

namespace Database

/-- A file without tables. -/
def empty : Database := ⟨Schema.empty, []⟩

/-- `SELECT EXISTS(SELECT 1 FROM sqlite_master …)` -/
def schemaTableExists (db : Database) : Bool := db.schema.hasTable migrationsTable

/-- `SELECT checksum FROM schema_migrations WHERE version = ?1`, which fails when the columns are
    not there. -/
def selectChecksum (db : Database) (version : ℕ) : Option (Option String) :=
  match db.schema.table? migrationsTable with
  | none => none
  | some t =>
    if t.columns.contains "version" && t.columns.contains "checksum" then
      some ((db.records.find? (·.1 == version)).map Prod.snd)
    else none

/-- `INSERT INTO schema_migrations(version, checksum) VALUES (?1, ?2)`: a primary key is
    unique. -/
def insertRecord (db : Database) (version : ℕ) (checksum : String) : Option Database :=
  match db.schema.table? migrationsTable with
  | none => none
  | some t =>
    if !(t.columns.contains "version" && t.columns.contains "checksum") then none
    else if t.primaryKey == some "version" && db.records.any (·.1 == version) then none
    else some { db with records := db.records ++ [(version, checksum)] }

end Database

/-- Where the transaction of a migration fails. -/
inductive Stage where
  | begin
  | ddl
  | record
  | commit
  deriving DecidableEq

/-- Why an opening fails. -/
inductive MigrationError where
  | inspect
  | read (version : ℕ)
  | mismatch (version : ℕ) (stored expected : String)
  | notRecorded (version : ℕ)
  | required (version : ℕ)
  | beforeFirst (version : ℕ)
  | transaction (stage : Stage) (version : ℕ)
  deriving DecidableEq

/-- The text of the error. -/
def MigrationError.text : MigrationError → String
  | .inspect => "cannot inspect schema_migrations table"
  | .read version => s!"cannot read migration version {version}"
  | .mismatch version stored expected =>
    s!"migration version {version} checksum mismatch: stored {stored}, expected {expected}"
  | .notRecorded version =>
    s!"schema_migrations exists but required migration version {version} is not recorded"
  | .required version => s!"required migration version {version} is not recorded"
  | .beforeFirst version => s!"cannot apply migration version {version} before migration version 1"
  | .transaction .begin version => s!"cannot begin migration version {version} transaction"
  | .transaction .ddl version => s!"cannot apply migration version {version} DDL"
  | .transaction .record version => s!"cannot record migration version {version}"
  | .transaction .commit version => s!"cannot commit migration version {version}"

-- the SHA-256 digest of a source in hexadecimal, and the statements SQLite reads in it
variable (migrationChecksum : String → String) (statements : String → Option (List Ddl))

/-- The immediate transaction of a migration: it is committed as a whole or not at all. -/
def transaction (db : Database) (version : ℕ) (source : String) : Except Stage Database :=
  match (statements source).bind (executeBatch · db.schema) with
  | none => .error .ddl
  | some schema =>
    match ({ db with schema } : Database).insertRecord version (migrationChecksum source) with
    | none => .error .record
    | some db => .ok db

/-- Execute a migration and record it, or check the record. -/
def applyMigration (db : Database) (version : ℕ) (source : String) (createsTable : Bool) :
    Except MigrationError Unit × Database :=
  let execute : Except MigrationError Unit × Database :=
    match transaction migrationChecksum statements db version source with
    | .error stage => (.error (.transaction stage version), db)
    | .ok db => (.ok (), db)
  if db.schemaTableExists then
    match db.selectChecksum version with
    | none => (.error (.read version), db)
    | some (some stored) =>
      let expected := migrationChecksum source
      if stored = expected then (.ok (), db)
      else (.error (.mismatch version stored expected), db)
    | some none =>
      if createsTable then (.error (.notRecorded version), db) else execute
  else if createsTable then execute
  else (.error (.beforeFirst version), db)

/-- `verify_migration_source`, which `migrate_source` calls for the first version. -/
def verifyMigrationSource (db : Database) (version : ℕ) (source : String) :
    Except MigrationError Unit :=
  match db.selectChecksum version with
  | none => .error (.read version)
  | some (some stored) =>
    let checksum := migrationChecksum source
    if stored = checksum then .ok () else .error (.mismatch version stored checksum)
  | some none => .error (.required version)

/-- The migrations of a build in order, from one version on; only the first creates the table
    that records them. -/
def migrateFrom (db : Database) (version : ℕ) : List String → Except MigrationError Unit × Database
  | [] => (.ok (), db)
  | source :: rest =>
    match applyMigration migrationChecksum statements db version source (version == 1) with
    | (.error e, db) => (.error e, db)
    | (.ok (), db) => migrateFrom db (version + 1) rest

/-- All migrations in their order. -/
def migrate (db : Database) (sources : List String) : Except MigrationError Unit × Database :=
  migrateFrom migrationChecksum statements db 1 sources

/-- A process that opens the storage, between two of its statements: the migrations it is through
    with, the one it looks at, and those that follow. -/
inductive Opener where
  | idle
  | inspecting (done : List String) (source : String) (rest : List String)
  | reading (done : List String) (source : String) (rest : List String)
  | applying (done : List String) (source : String) (rest : List String)
  | opened (sources : List String)
  | failed (error : MigrationError)
  deriving DecidableEq

/-- On to the next migration. -/
def Opener.next (done : List String) : List String → Opener
  | [] => .opened done
  | source :: rest => .inspecting done source rest

/-- The next statement of the process runs. -/
def proceed (db : Database) : Opener → Database × Opener
  | .inspecting done source rest =>
    if db.schemaTableExists then (db, .reading done source rest)
    else if done = [] then (db, .applying done source rest)
    else (db, .failed (.beforeFirst (done.length + 1)))
  | .reading done source rest =>
    match db.selectChecksum (done.length + 1) with
    | none => (db, .failed (.read (done.length + 1)))
    | some (some stored) =>
      if stored = migrationChecksum source then (db, .next (done ++ [source]) rest)
      else (db, .failed (.mismatch (done.length + 1) stored (migrationChecksum source)))
    | some none =>
      if done = [] then (db, .failed (.notRecorded (done.length + 1)))
      else (db, .applying done source rest)
  | .applying done source rest =>
    match transaction migrationChecksum statements db (done.length + 1) source with
    | .error stage => (db, .failed (.transaction stage (done.length + 1)))
    | .ok db => (db, .next (done ++ [source]) rest)
  | p => (db, p)

/-- The next statement fails for a reason of its own, such as a lock held by another process. -/
def Opener.fault (stage : Stage) : Opener → Opener
  | .inspecting _ _ _ => .failed .inspect
  | .reading done _ _ => .failed (.read (done.length + 1))
  | .applying done _ _ => .failed (.transaction stage (done.length + 1))
  | p => p

/-- What may happen to a process. -/
inductive Event where
  /-- It begins to open the storage, with the migrations of its build. -/
  | start (sources : List String)
  | proceed
  | fault (stage : Stage)
  /-- It is killed before its next statement, or right after that has taken effect. -/
  | killed (after : Bool)

/-- A step of one process. -/
def move : Event → Database → Opener → Database × Opener
  | .start sources, db, _ => (db, .next [] sources)
  | .proceed, db, p => proceed migrationChecksum statements db p
  | .fault stage, db, p => (db, p.fault stage)
  | .killed false, db, _ => (db, .idle)
  | .killed true, db, p => ((proceed migrationChecksum statements db p).1, .idle)

/-! ## §2 Every interleaving -/

/-- A migration whose statements do not spoil how versions are recorded. -/
def SourceRecordsVersions (source : String) : Prop :=
  ∀ batch, statements source = some batch → ∀ d ∈ batch, d.RecordsVersions

/-- The schema after migrations in this order. -/
def migrated (applied : List String) : Option Schema :=
  applied.foldlM (fun s source => (statements source).bind (executeBatch · s)) Schema.empty

/-- The records of migrations in this order. -/
def recordsOf (applied : List String) : List (ℕ × String) :=
  (applied.zipIdx 1).map fun p => (p.2, migrationChecksum p.1)

/-- The database is what some migrations in a row have made of an empty one: their statements made
    its schema, and each is recorded once, under its version. -/
structure Consistent (db : Database) (applied : List String) : Prop where
  schema : migrated statements applied = some db.schema
  records : db.records = recordsOf migrationChecksum applied
  table : db.schemaTableExists = true ↔ applied ≠ []
  versions : db.schema.RecordsVersions

theorem consistent_empty : Consistent migrationChecksum statements .empty [] where
  schema := rfl
  records := rfl
  table := by simp [Database.schemaTableExists, Database.empty, Schema.empty, Schema.hasTable]
  versions := by simp [Schema.RecordsVersions, Database.empty, Schema.empty]

section Records

variable {migrationChecksum : String → String}

theorem find?_zipIdx (l : List String) (k i : ℕ) :
    ((l.zipIdx k).map fun p => (p.2, migrationChecksum p.1)).find? (·.1 == k + i) =
      l[i]?.map fun source => (k + i, migrationChecksum source) := by
  induction l generalizing k i with
  | nil => rfl
  | cons source l ih =>
    cases i with
    | zero => simp
    | succ i =>
      have hne : (k == k + (i + 1)) = false := by simp
      rw [List.zipIdx_cons, List.map_cons, List.find?_cons, hne, List.getElem?_cons_succ,
        show k + (i + 1) = k + 1 + i by omega]
      exact ih (k + 1) i

theorem find?_recordsOf (applied : List String) (i : ℕ) :
    (recordsOf migrationChecksum applied).find? (·.1 == i + 1) =
      applied[i]?.map fun source => (i + 1, migrationChecksum source) := by
  rw [Nat.add_comm i 1]
  exact find?_zipIdx applied 1 i

/-- A version is recorded when a migration has it. -/
theorem any_recordsOf (applied : List String) (i : ℕ) :
    (recordsOf migrationChecksum applied).any (·.1 == i + 1) = decide (i < applied.length) := by
  rw [Bool.eq_iff_iff, List.any_eq_true, ← List.find?_isSome, find?_recordsOf]
  simp

theorem recordsOf_snoc (applied : List String) (source : String) :
    recordsOf migrationChecksum (applied ++ [source]) =
      recordsOf migrationChecksum applied ++
        [(applied.length + 1, migrationChecksum source)] := by
  simp [recordsOf, List.zipIdx_append, Nat.add_comm]

theorem map_snd_recordsOf (applied : List String) :
    (recordsOf migrationChecksum applied).map Prod.snd = applied.map migrationChecksum := by
  unfold recordsOf
  rw [List.map_map]
  conv_rhs => rw [← List.zipIdx_map_fst 1 applied, List.map_map]
  rfl

end Records

section Steps

variable {migrationChecksum : String → String} {statements : String → Option (List Ddl)}
  {db : Database} {applied : List String}

theorem Database.table?_of_exists (h : db.schemaTableExists = true) :
    ∃ t ∈ db.schema.tables, t.name = migrationsTable ∧
      db.schema.table? migrationsTable = some t := by
  obtain ⟨t, ht, hname⟩ := Schema.hasTable_iff.1 h
  cases hfind : db.schema.table? migrationsTable with
  | none =>
    have hnot := List.find?_eq_none.1 hfind t ht
    simp [hname] at hnot
  | some u => exact ⟨u, List.mem_of_find?_eq_some hfind, by simpa using List.find?_some hfind, rfl⟩

/-- What is read of a version that some migrations have reached or not. -/
theorem Consistent.selectChecksum (h : Consistent migrationChecksum statements db applied)
    (hexists : db.schemaTableExists = true) (i : ℕ) :
    db.selectChecksum (i + 1) = some (applied[i]?.map migrationChecksum) := by
  obtain ⟨t, ht, hname, htable⟩ := Database.table?_of_exists hexists
  obtain ⟨-, hversion, hchecksum⟩ := h.versions t ht hname
  have hreadable : (t.columns.contains "version" && t.columns.contains "checksum") = true := by
    simp [hversion, hchecksum]
  simp only [Database.selectChecksum, htable, hreadable, if_true, h.records, find?_recordsOf]
  cases applied[i]? <;> rfl

/-- A version is inserted where it is not yet recorded. -/
theorem insertRecord_eq_some {version : ℕ} {checksum : String} {db' : Database}
    (hversions : db.schema.RecordsVersions)
    (h : db.insertRecord version checksum = some db') :
    db.schemaTableExists = true ∧ db.records.any (·.1 == version) = false ∧
      db' = { db with records := db.records ++ [(version, checksum)] } := by
  unfold Database.insertRecord at h
  split at h
  · cases h
  · rename_i t htable
    have hmem := List.mem_of_find?_eq_some htable
    have hname : t.name = migrationsTable := by simpa using List.find?_some htable
    have hkey := (hversions t hmem hname).key
    split at h
    · cases h
    · split at h
      · cases h
      · rename_i hnew
        refine ⟨Schema.hasTable_iff.2 ⟨t, hmem, hname⟩, ?_, (Option.some.inj h).symm⟩
        simpa only [hkey, beq_self_eq_true, Bool.true_and, Bool.not_eq_true] using hnew

/-- A committed transaction has executed the statements on what it found and has added one
    record, of a version that had none. -/
theorem transaction_eq_ok {version : ℕ} {source : String} {db' : Database}
    (hversions : db.schema.RecordsVersions)
    (hsource : SourceRecordsVersions statements source)
    (h : transaction migrationChecksum statements db version source = .ok db') :
    ∃ schema, (statements source).bind (executeBatch · db.schema) = some schema ∧
      schema.RecordsVersions ∧ db.records.any (·.1 == version) = false ∧
      db'.schemaTableExists = true ∧
      db' = ⟨schema, db.records ++ [(version, migrationChecksum source)]⟩ := by
  unfold transaction at h
  split at h
  · cases h
  · rename_i schema hschema
    split at h
    · cases h
    · rename_i new hinsert
      cases h
      obtain ⟨batch, hbatch, hrun⟩ := Option.bind_eq_some_iff.1 hschema
      have hkept : schema.RecordsVersions :=
        executeBatch_induction
          (fun d hd _ _ hexec hs => d.recordsVersions_execute (hsource batch hbatch d hd) hexec hs)
          hrun hversions
      obtain ⟨hexists, hnew, rfl⟩ := insertRecord_eq_some hkept hinsert
      exact ⟨schema, hschema, hkept, hnew, hexists, rfl⟩

/-- A transaction that reaches its end finds exactly the migrations before its own: the primary
    key refuses it when another process was faster. -/
theorem Consistent.commit {done : List String} {source : String} {db' : Database}
    (h : Consistent migrationChecksum statements db applied)
    (hdone : done.length ≤ applied.length)
    (hsource : SourceRecordsVersions statements source)
    (ht : transaction migrationChecksum statements db (done.length + 1) source = .ok db') :
    done.length = applied.length ∧
      Consistent migrationChecksum statements db' (applied ++ [source]) := by
  obtain ⟨schema, hschema, hversions, hnew, hexists, rfl⟩ := transaction_eq_ok h.versions hsource ht
  rw [h.records, any_recordsOf, decide_eq_false_iff_not, not_lt] at hnew
  have hlength : done.length = applied.length := le_antisymm hdone hnew
  refine ⟨hlength, ?_, ?_, ?_, hversions⟩
  · rw [migrated, List.foldlM_append, ← migrated, h.schema]
    simpa using hschema
  · rw [h.records, hlength, recordsOf_snoc]
  · exact iff_of_true hexists (by simp)

end Steps

/-! ### What each process knows -/

/-- The migrations of a list have the checksums recorded under their versions. -/
def RecordedAs (db : Database) (sources : List String) : Prop :=
  sources.map migrationChecksum <+: db.records.map Prod.snd

/-- Every migration of a list is one that its version may have. -/
def Each (P : ℕ → String → Prop) (sources : List String) : Prop :=
  ∀ i (h : i < sources.length), P (i + 1) sources[i]

/-- What a process knows about the database when it is about to run a statement. -/
def Knows (P : ℕ → String → Prop) (db : Database) : Opener → Prop
  | .idle => True
  | .inspecting done source rest =>
    RecordedAs migrationChecksum db done ∧ Each P (done ++ source :: rest)
  | .reading done source rest =>
    RecordedAs migrationChecksum db done ∧ Each P (done ++ source :: rest) ∧
      db.schemaTableExists = true
  | .applying done source rest =>
    RecordedAs migrationChecksum db done ∧ Each P (done ++ source :: rest)
  | .opened sources => RecordedAs migrationChecksum db sources ∧ Each P sources
  | .failed error =>
    (∀ version, error ≠ .notRecorded version) ∧ ∀ version, error ≠ .beforeFirst version

/-- The database is consistent, with migrations that their versions may have. -/
def Sound (P : ℕ → String → Prop) (db : Database) : Prop :=
  ∃ applied, Consistent migrationChecksum statements db applied ∧ Each P applied

/-- Records are only added, and a table that is there stays. -/
def Extends (db db' : Database) : Prop :=
  db.records <+: db'.records ∧ (db.schemaTableExists = true → db'.schemaTableExists = true)

/-- A build starts with migrations that their versions may have. -/
def Event.Allowed (P : ℕ → String → Prop) : Event → Prop
  | .start sources => Each P sources
  | _ => True

variable {migrationChecksum : String → String} {statements : String → Option (List Ddl)}
  {P : ℕ → String → Prop} {db db' : Database} {applied : List String}

theorem Extends.refl (db : Database) : Extends db db := ⟨List.prefix_refl _, id⟩

theorem Extends.trans {db'' : Database} (h : Extends db db') (h' : Extends db' db'') :
    Extends db db'' := ⟨h.1.trans h'.1, h'.2 ∘ h.2⟩

theorem RecordedAs.extends {sources : List String} (h : RecordedAs migrationChecksum db sources)
    (hext : Extends db db') : RecordedAs migrationChecksum db' sources :=
  h.trans (hext.1.map Prod.snd)

theorem recordedAs_nil (db : Database) : RecordedAs migrationChecksum db [] := List.nil_prefix

theorem Consistent.recordedAs_iff (h : Consistent migrationChecksum statements db applied)
    {sources : List String} : RecordedAs migrationChecksum db sources ↔
      sources.map migrationChecksum <+: applied.map migrationChecksum := by
  rw [RecordedAs, h.records, map_snd_recordsOf]

theorem Consistent.recordedAs_length_le (h : Consistent migrationChecksum statements db applied)
    {sources : List String} (hs : RecordedAs migrationChecksum db sources) :
    sources.length ≤ applied.length := by
  simpa using (h.recordedAs_iff.1 hs).length_le

/-- One more migration is recorded when its checksum is the next. -/
theorem Consistent.recordedAs_snoc (h : Consistent migrationChecksum statements db applied)
    {done : List String} {source : String} (hdone : RecordedAs migrationChecksum db done)
    (hnext : applied[done.length]?.map migrationChecksum = some (migrationChecksum source)) :
    RecordedAs migrationChecksum db (done ++ [source]) := by
  rw [h.recordedAs_iff] at hdone ⊢
  obtain ⟨rest, hrest⟩ := hdone
  have hhead : rest[0]? = some (migrationChecksum source) := by
    have hget := congrArg (fun l : List String => l[done.length]?) hrest
    simpa [List.getElem?_append, hnext] using hget
  cases rest with
  | nil => simp at hhead
  | cons c rest =>
    obtain rfl : c = migrationChecksum source := by simpa using hhead
    exact ⟨rest, by simpa using hrest⟩

theorem knows_next {done rest : List String} (hdone : RecordedAs migrationChecksum db done)
    (heach : Each P (done ++ rest)) : Knows migrationChecksum P db (.next done rest) := by
  cases rest with
  | nil => exact ⟨hdone, by simpa using heach⟩
  | cons source rest => exact ⟨hdone, heach⟩

theorem Knows.extends {p : Opener} (h : Knows migrationChecksum P db p) (hext : Extends db db') :
    Knows migrationChecksum P db' p := by
  cases p with
  | idle => trivial
  | inspecting done source rest => exact ⟨h.1.extends hext, h.2⟩
  | reading done source rest => exact ⟨h.1.extends hext, h.2.1, hext.2 h.2.2⟩
  | applying done source rest => exact ⟨h.1.extends hext, h.2⟩
  | opened sources => exact ⟨h.1.extends hext, h.2⟩
  | failed error => exact h

theorem Each.head {done rest : List String} {source : String}
    (h : Each P (done ++ source :: rest)) : P (done.length + 1) source := by
  simpa using h done.length (by simp)

theorem each_snoc {source : String} (h : Each P applied) (hs : P (applied.length + 1) source) :
    Each P (applied ++ [source]) := by
  intro i hi
  rw [List.length_append, List.length_singleton] at hi
  rcases Nat.lt_succ_iff_lt_or_eq.1 hi with hlt | rfl
  · rw [List.getElem_append_left hlt]
    exact h i hlt
  · simpa using hs

/-- A statement of one process keeps the database sound, adds records only and leaves the process
    with what it knows at its next statement. -/
theorem proceed_spec
    (hP : ∀ version source, P version source → SourceRecordsVersions statements source)
    {p : Opener} (hdb : Sound migrationChecksum statements P db)
    (hp : Knows migrationChecksum P db p) :
    Sound migrationChecksum statements P (proceed migrationChecksum statements db p).1 ∧
      Extends db (proceed migrationChecksum statements db p).1 ∧
      Knows migrationChecksum P (proceed migrationChecksum statements db p).1
        (proceed migrationChecksum statements db p).2 := by
  obtain ⟨applied, hcons, heach⟩ := hdb
  have hsame : Sound migrationChecksum statements P db ∧ Extends db db :=
    ⟨⟨applied, hcons, heach⟩, Extends.refl db⟩
  cases p with
  | idle => exact ⟨hsame.1, hsame.2, trivial⟩
  | opened sources => exact ⟨hsame.1, hsame.2, hp⟩
  | failed error => exact ⟨hsame.1, hsame.2, hp⟩
  | inspecting done source rest =>
    obtain ⟨hdone, hrest⟩ := hp
    simp only [proceed]
    split
    · rename_i hexists
      exact ⟨hsame.1, hsame.2, hdone, hrest, hexists⟩
    · rename_i hmissing
      -- without the table nothing is recorded, so this is the first migration
      have hempty : applied = [] := by
        by_contra hne
        exact hmissing (hcons.table.2 hne)
      have hfirst : done = [] := by
        have hle := hcons.recordedAs_length_le hdone
        rw [hempty] at hle
        exact List.length_eq_zero_iff.1 (Nat.le_zero.1 hle)
      rw [if_pos hfirst]
      exact ⟨hsame.1, hsame.2, hdone, hrest⟩
  | reading done source rest =>
    obtain ⟨hdone, hrest, hexists⟩ := hp
    simp only [proceed, hcons.selectChecksum hexists done.length]
    cases hnext : applied[done.length]?.map migrationChecksum with
    | some stored =>
      dsimp only
      split
      · rename_i hsum
        subst hsum
        exact ⟨hsame.1, hsame.2,
          knows_next (hcons.recordedAs_snoc hdone hnext) (by simpa using hrest)⟩
      · exact ⟨hsame.1, hsame.2, by simp [Knows]⟩
    | none =>
      dsimp only
      split
      · -- the table is there, so the first version is recorded
        rename_i hfirst
        have hne := hcons.table.1 hexists
        rw [hfirst] at hnext
        simp [List.length_pos_of_ne_nil hne] at hnext
      · exact ⟨hsame.1, hsame.2, hdone, hrest⟩
  | applying done source rest =>
    obtain ⟨hdone, hrest⟩ := hp
    simp only [proceed]
    cases ht : transaction migrationChecksum statements db (done.length + 1) source with
    | error stage => exact ⟨hsame.1, hsame.2, by simp [Knows]⟩
    | ok db' =>
      dsimp only
      have hsource := hP _ _ hrest.head
      obtain ⟨hlength, hcons'⟩ := hcons.commit (hcons.recordedAs_length_le hdone) hsource ht
      obtain ⟨schema, -, -, -, hexists, rfl⟩ := transaction_eq_ok hcons.versions hsource ht
      have hext : Extends db _ := ⟨List.prefix_append _ _, fun _ => hexists⟩
      have hsound : Each P (applied ++ [source]) := each_snoc heach (hlength ▸ hrest.head)
      refine ⟨⟨_, hcons', hsound⟩, hext, knows_next ?_ (by simpa using hrest)⟩
      refine hcons'.recordedAs_snoc (hdone.extends hext) ?_
      simp [hlength]

variable (migrationChecksum) in
/-- The invariant of the database, what its processes may rely on and what each knows fit
    together. -/
theorem discipline
    (hP : ∀ version source, P version source → SourceRecordsVersions statements source) :
    Interleaving.Discipline (move migrationChecksum statements) (Event.Allowed P)
      (Sound migrationChecksum statements P) Extends (Knows migrationChecksum P) where
  keeps := by
    rintro (sources | _ | stage | after) db p he hdb hp
    · exact hdb
    · exact (proceed_spec hP hdb hp).1
    · exact hdb
    · -- a kill before the statement leaves the database, one after it is like the step
      cases after with
      | false => exact hdb
      | true => exact (proceed_spec hP hdb hp).1
  guarantees := by
    rintro (sources | _ | stage | after) db p he hdb hp
    · exact Extends.refl db
    · exact (proceed_spec hP hdb hp).2.1
    · exact Extends.refl db
    · cases after with
      | false => exact Extends.refl db
      | true => exact (proceed_spec hP hdb hp).2.1
  reaches := by
    rintro (sources | _ | stage | after) db p he hdb hp
    · exact knows_next (recordedAs_nil db) he
    · exact (proceed_spec hP hdb hp).2.2
    · cases p with
      | idle => trivial
      | inspecting done source rest => exact ⟨by simp, by simp⟩
      | reading done source rest => exact ⟨by simp, by simp⟩
      | applying done source rest => exact ⟨by simp, by simp⟩
      | opened sources => exact hp
      | failed error => exact hp
    · cases after <;> trivial
  stable := fun _ hext hp => hp.extends hext

/-- Nothing has been opened yet. -/
def start (ι : Type) : Interleaving.Config Database ι Opener := ⟨.empty, fun _ => .idle⟩

theorem sound_start (ι : Type) :
    Interleaving.Sound (Sound migrationChecksum statements P) (Knows migrationChecksum P)
      (start ι) :=
  ⟨⟨[], consistent_empty _ _, fun i hi => absurd hi (Nat.not_lt_zero i)⟩, fun _ => trivial⟩

/-- The migration that a history has for a version. -/
def MigrationOf (history : List String) (version : ℕ) (source : String) : Prop :=
  history[version - 1]? = some source

theorem each_migrationOf {history sources : List String} :
    Each (MigrationOf history) sources ↔ sources <+: history := by
  rw [List.prefix_iff_getElem?]
  rfl

/-- Sources in which SQLite reads these migrations do not spoil how versions are recorded. -/
theorem recordsVersions_of_nemorMigrations {current : List String}
    (h : current.map statements = nemorMigrations.map some) :
    ∀ source ∈ current, SourceRecordsVersions statements source := by
  intro source hsource batch hbatch
  have hmem : some batch ∈ nemorMigrations.map some := h ▸ hbatch ▸ List.mem_map_of_mem hsource
  exact nemorMigrations_execute.2.2 batch (by simpa using hmem)

theorem migrationOf_recordsVersions {current : List String}
    (h : current.map statements = nemorMigrations.map some) (version : ℕ) (source : String)
    (hsource : MigrationOf current version source) : SourceRecordsVersions statements source :=
  recordsVersions_of_nemorMigrations h source (List.mem_of_getElem? hsource)

/-- Two processes find an empty database. The first, of an older build, is through with the
    initial migration before the second tries the same one, fails and tries again. -/
def race : List (ℕ × Event) :=
  [(0, .start (migrationHeads.take 1)), (1, .start migrationHeads), (0, .proceed), (1, .proceed),
   (0, .proceed), (1, .proceed)]

/-- The second process starts and goes on. -/
def secondAttempt : List (ℕ × Event) :=
  (1, .start (migrationHeads.take 2)) :: List.replicate 5 (1, .proceed)

theorem race_allowed : ∀ m ∈ race ++ secondAttempt, m.2.Allowed (MigrationOf migrationHeads) := by
  have htake (n : ℕ) : Each (MigrationOf migrationHeads) (migrationHeads.take n) :=
    each_migrationOf.2 (List.take_prefix n migrationHeads)
  have hall : Each (MigrationOf migrationHeads) migrationHeads :=
    each_migrationOf.2 (List.prefix_refl migrationHeads)
  simp [race, secondAttempt, Event.Allowed, htake, hall]

section Runs

variable {ι : Type} [DecidableEq ι] {moves : List (ι × Event)}

/-- In every interleaving of openings the schema is what migrations in a row make of an empty
    database, each recorded once under its version, and a process that has opened the storage has
    found or recorded the checksum of each of its own migrations. -/
theorem openings_consistent
    (hP : ∀ version source, P version source → SourceRecordsVersions statements source)
    (hmoves : ∀ m ∈ moves, m.2.Allowed P) :
    let c := Interleaving.run (move migrationChecksum statements) (start ι) moves
    ∃ applied, Each P applied ∧ migrated statements applied = some c.store.schema ∧
      c.store.records = recordsOf migrationChecksum applied ∧
      (∀ i sources, c.process i = .opened sources →
        sources.map migrationChecksum <+: applied.map migrationChecksum) ∧
      ∀ i version, c.process i ≠ .failed (.notRecorded version) ∧
        c.process i ≠ .failed (.beforeFirst version) := by
  intro c
  have hsound := (discipline migrationChecksum hP).sound_run hmoves (sound_start ι)
  obtain ⟨applied, hcons, heach⟩ := hsound.store
  refine ⟨applied, heach, hcons.schema, hcons.records, ?_, ?_⟩
  · intro i sources hopened
    have hknows := hsound.process i
    rw [hopened] at hknows
    exact hcons.recordedAs_iff.1 hknows.1
  · intro i version
    have hknows := hsound.process i
    constructor
    · intro hfailed
      rw [hfailed] at hknows
      exact hknows.1 version rfl
    · intro hfailed
      rw [hfailed] at hknows
      exact hknows.2 version rfl

theorem openings_consistent_race :
    let c := Interleaving.run (move shippedChecksum shippedStatements) (start ℕ)
      (race ++ secondAttempt)
    ∃ applied, Each (MigrationOf migrationHeads) applied ∧
      migrated shippedStatements applied = some c.store.schema ∧
      c.store.records = recordsOf shippedChecksum applied ∧
      (∀ i sources, c.process i = .opened sources →
        sources.map shippedChecksum <+: applied.map shippedChecksum) ∧
      ∀ i version, c.process i ≠ .failed (.notRecorded version) ∧
        c.process i ≠ .failed (.beforeFirst version) :=
  openings_consistent (migrationOf_recordsVersions shippedStatements_heads) race_allowed

/-- Of two processes that have opened the storage, at one time or one later than the other, the
    one has all the migrations of the other, as far as checksums tell. -/
theorem openings_agree
    (hP : ∀ version source, P version source → SourceRecordsVersions statements source)
    {later : List (ι × Event)} (hmoves : ∀ m ∈ moves ++ later, m.2.Allowed P) {i j : ι}
    {first second : List String}
    (hfirst : (Interleaving.run (move migrationChecksum statements) (start ι) moves).process i =
      .opened first)
    (hsecond :
      (Interleaving.run (move migrationChecksum statements) (start ι) (moves ++ later)).process j =
        .opened second) :
    first.map migrationChecksum <+: second.map migrationChecksum ∨
      second.map migrationChecksum <+: first.map migrationChecksum := by
  obtain ⟨hbefore, hafter⟩ := List.forall_mem_append.1 hmoves
  have hsound := (discipline migrationChecksum hP).sound_run hbefore (sound_start ι)
  have hext := (discipline migrationChecksum hP).guarantee_run Extends.refl Extends.trans hafter
    hsound
  have hlast := (discipline migrationChecksum hP).sound_run hmoves (sound_start ι)
  -- both lists are recorded in the end: records are only added
  have hi := hsound.process i
  rw [hfirst] at hi
  have hj := hlast.process j
  rw [hsecond] at hj
  rw [← Interleaving.run_append] at hext
  exact List.prefix_or_prefix_of_prefix (hi.1.extends hext) hj.1

theorem openings_agree_race :
    (migrationHeads.take 1).map shippedChecksum <+:
        (migrationHeads.take 2).map shippedChecksum ∨
      (migrationHeads.take 2).map shippedChecksum <+:
        (migrationHeads.take 1).map shippedChecksum := by
  have hfirst : (Interleaving.run (move shippedChecksum shippedStatements) (start ℕ)
      race).process 0 = .opened (migrationHeads.take 1) := by decide +kernel
  have hsecond : (Interleaving.run (move shippedChecksum shippedStatements) (start ℕ)
      (race ++ secondAttempt)).process 1 = .opened (migrationHeads.take 2) := by decide +kernel
  exact openings_agree (migrationOf_recordsVersions shippedStatements_heads) race_allowed hfirst
    hsecond

end Runs

/-! ## §3 An undisturbed opening -/

section Alone

variable (migrationChecksum statements)

/-- How a process stands after it has looked at a migration, when nothing disturbed it. -/
def Opener.after (done : List String) (rest : List String) :
    Except MigrationError Unit × Database → Database × Opener
  | (.error e, db) => (db, .failed e)
  | (.ok (), db) => (db, .next done rest)

/-- The statements of one process in a row are `apply_migration`. -/
theorem alone_applyMigration (db : Database) (done : List String) (source : String)
    (rest : List String) :
    ∃ n, Interleaving.solo (move migrationChecksum statements) db (.inspecting done source rest)
        (List.replicate n .proceed) =
      Opener.after (done ++ [source]) rest (applyMigration migrationChecksum statements db
        (done.length + 1) source (done.length + 1 == 1)) := by
  have hfirst : (done.length + 1 == 1) = decide (done = []) := by cases done <;> simp
  -- the transaction itself is one step; the checks before it take up to two
  have happly : ∃ n, Interleaving.solo (move migrationChecksum statements) db
        (.applying done source rest) (List.replicate n .proceed) =
      Opener.after (done ++ [source]) rest
        (match transaction migrationChecksum statements db (done.length + 1) source with
          | .error stage => (.error (.transaction stage (done.length + 1)), db)
          | .ok db => (.ok (), db)) := by
    refine ⟨1, ?_⟩
    simp only [List.replicate_succ, List.replicate_zero, Interleaving.solo_cons,
      Interleaving.solo_nil, move, proceed]
    cases transaction migrationChecksum statements db (done.length + 1) source <;> rfl
  obtain ⟨n, happly⟩ := happly
  unfold applyMigration
  rw [hfirst]
  by_cases hexists : db.schemaTableExists = true
  · rw [if_pos hexists]
    cases hread : db.selectChecksum (done.length + 1) with
    | none => exact ⟨2, by simp [List.replicate_succ, move, proceed, hexists, hread, Opener.after]⟩
    | some stored =>
      cases stored with
      -- a checksum is recorded: it is compared, and nothing is applied
      | some stored =>
        refine ⟨2, ?_⟩
        by_cases hsum : stored = migrationChecksum source
        · simp [List.replicate_succ, move, proceed, hexists, hread, hsum, Opener.after]
        · simp [List.replicate_succ, move, proceed, hexists, hread, hsum, Opener.after]
      | none =>
        by_cases hdone : done = []
        · subst hdone
          have hread : db.selectChecksum 1 = some none := hread
          exact ⟨2, by simp [List.replicate_succ, move, proceed, hexists, hread, Opener.after]⟩
        · -- nothing is recorded for this version
          refine ⟨n + 2, ?_⟩
          simpa [List.replicate_succ, move, proceed, hexists, hread, hdone] using happly
  · rw [if_neg hexists]
    by_cases hdone : done = []
    · refine ⟨n + 1, ?_⟩
      simpa [List.replicate_succ, move, proceed, hexists, hdone] using happly
    · exact ⟨1, by simp [List.replicate_succ, move, proceed, hexists, hdone, Opener.after]⟩

/-- The statements of one process in a row are `migrate`. -/
theorem alone_migrateFrom (db : Database) (done rest : List String) :
    ∃ n, Interleaving.solo (move migrationChecksum statements) db (.next done rest)
        (List.replicate n .proceed) =
      Opener.after (done ++ rest) []
        (migrateFrom migrationChecksum statements db (done.length + 1) rest) := by
  induction rest generalizing db done with
  | nil => exact ⟨0, by simp [Opener.next, migrateFrom, Opener.after]⟩
  | cons source rest ih =>
    obtain ⟨n, hn⟩ := alone_applyMigration migrationChecksum statements db done source rest
    rw [migrateFrom]
    cases happly : applyMigration migrationChecksum statements db (done.length + 1) source
        (done.length + 1 == 1) with
    | mk result db' =>
      rw [happly] at hn
      cases result with
      | error e => exact ⟨n, hn⟩
      | ok _ =>
        -- this migration is through, and the rest follows from where it left the database
        obtain ⟨m, hm⟩ := ih db' (done ++ [source])
        refine ⟨n + m, ?_⟩
        have hn : Interleaving.solo (move migrationChecksum statements) db
            (.next done (source :: rest)) (List.replicate n .proceed) =
              (db', .next (done ++ [source]) rest) := hn
        rw [List.replicate_add, Interleaving.solo_append, hn]
        simpa using hm

/-- A process that opens the storage undisturbed does what `migrate` does. -/
theorem alone_migrate (db : Database) (p : Opener) (sources : List String) :
    ∃ n, Interleaving.solo (move migrationChecksum statements) db p
        (.start sources :: List.replicate n .proceed) =
      Opener.after sources [] (migrate migrationChecksum statements db sources) :=
  alone_migrateFrom migrationChecksum statements db [] sources

end Alone

/-! ### What `migrate` finds -/

theorem Consistent.exists_of_getElem? (h : Consistent migrationChecksum statements db applied)
    {k : ℕ} {stored : String} (hk : applied[k]?.map migrationChecksum = some stored) :
    db.schemaTableExists = true := by
  apply h.table.2
  rintro rfl
  simp at hk

/-- A recorded migration is only checked. -/
theorem Consistent.applyMigration_recorded (h : Consistent migrationChecksum statements db applied)
    {k : ℕ} {source stored : String} (hk : applied[k]?.map migrationChecksum = some stored)
    (createsTable : Bool) :
    applyMigration migrationChecksum statements db (k + 1) source createsTable =
      (if stored = migrationChecksum source then .ok ()
        else .error (.mismatch (k + 1) stored (migrationChecksum source)), db) := by
  have hexists := h.exists_of_getElem? hk
  simp only [applyMigration, hexists, if_true, h.selectChecksum hexists, hk]
  split <;> rfl

theorem insertRecord_of_new {version : ℕ} {checksum : String}
    (hversions : db.schema.RecordsVersions) (hexists : db.schemaTableExists = true)
    (hnew : db.records.any (·.1 == version) = false) :
    db.insertRecord version checksum =
      some { db with records := db.records ++ [(version, checksum)] } := by
  obtain ⟨t, ht, hname, htable⟩ := Database.table?_of_exists hexists
  obtain ⟨hkey, hversion, hchecksum⟩ := hversions t ht hname
  simp [Database.insertRecord, htable, hkey, hversion, hchecksum, hnew]

/-- A migration that follows the recorded ones is executed and recorded. -/
theorem Consistent.applyMigration_next (h : Consistent migrationChecksum statements db applied)
    {source : String} (hsource : SourceRecordsVersions statements source) {schema : Schema}
    (hschema : (statements source).bind (executeBatch · db.schema) = some schema)
    (htable : schema.hasTable migrationsTable = true) :
    applyMigration migrationChecksum statements db (applied.length + 1) source
        (applied.length + 1 == 1) =
      (.ok (), ⟨schema, recordsOf migrationChecksum (applied ++ [source])⟩) ∧
    Consistent migrationChecksum statements
      ⟨schema, recordsOf migrationChecksum (applied ++ [source])⟩ (applied ++ [source]) := by
  have hfirst : (applied.length + 1 == 1) = decide (applied = []) := by cases applied <;> simp
  obtain ⟨batch, hbatch, hrun⟩ := Option.bind_eq_some_iff.1 hschema
  have hkept : schema.RecordsVersions :=
    executeBatch_induction
      (fun d hd _ _ hexec hs => d.recordsVersions_execute (hsource batch hbatch d hd) hexec hs)
      hrun h.versions
  -- this version is not recorded yet, so the insertion goes through
  have hnew : db.records.any (·.1 == applied.length + 1) = false := by
    rw [h.records, any_recordsOf]
    simp
  have htransaction : transaction migrationChecksum statements db (applied.length + 1) source =
      .ok ⟨schema, recordsOf migrationChecksum (applied ++ [source])⟩ := by
    have hinsert : (⟨schema, db.records⟩ : Database).insertRecord (applied.length + 1)
        (migrationChecksum source) =
          some ⟨schema, db.records ++ [(applied.length + 1, migrationChecksum source)]⟩ :=
      insertRecord_of_new hkept htable hnew
    unfold transaction
    rw [hschema, recordsOf_snoc, ← h.records]
    dsimp only
    rw [hinsert]
  refine ⟨?_, (h.commit le_rfl hsource htransaction).2⟩
  unfold applyMigration
  rw [hfirst, htransaction]
  by_cases hempty : applied = []
  · have hmissing : db.schemaTableExists = false := by
      rw [← Bool.not_eq_true, h.table]
      exact not_not.2 hempty
    simp [hempty, hmissing]
  · have hexists := h.table.2 hempty
    simp [hempty, hexists, h.selectChecksum hexists]

/-- Migrations that are recorded are passed over. -/
theorem Consistent.migrateFrom_past (h : Consistent migrationChecksum statements db applied)
    {done : List String} (rest : List String) {k : ℕ}
    (hdone : done.map migrationChecksum <+: (applied.map migrationChecksum).drop k) :
    migrateFrom migrationChecksum statements db (k + 1) (done ++ rest) =
      migrateFrom migrationChecksum statements db (k + done.length + 1) rest := by
  induction done generalizing k with
  | nil => rfl
  | cons first done ih =>
    obtain ⟨tail, htail⟩ := hdone
    have hk : applied[k]?.map migrationChecksum = some (migrationChecksum first) := by
      have hget := congrArg (·[0]?) htail
      simpa using hget.symm
    have hnext : done.map migrationChecksum <+: (applied.map migrationChecksum).drop (k + 1) :=
      ⟨tail, by simpa [List.drop_drop] using congrArg (List.drop 1) htail⟩
    have hshift : k + (first :: done).length + 1 = k + 1 + done.length + 1 := by
      rw [List.length_cons]
      omega
    rw [List.cons_append, migrateFrom, h.applyMigration_recorded hk, if_pos rfl, hshift]
    exact ih hnext

/-- At the first migration whose checksum is not the recorded one the opening ends. -/
theorem Consistent.migrate_departs (h : Consistent migrationChecksum statements db applied)
    {done rest : List String} {source stored : String}
    (hdone : done.map migrationChecksum <+: applied.map migrationChecksum)
    (hstored : applied[done.length]?.map migrationChecksum = some stored)
    (hne : stored ≠ migrationChecksum source) :
    migrate migrationChecksum statements db (done ++ source :: rest) =
      (.error (.mismatch (done.length + 1) stored (migrationChecksum source)), db) := by
  unfold migrate
  rw [h.migrateFrom_past (k := 0) (source :: rest) (by simpa using hdone), migrateFrom,
    Nat.zero_add, h.applyMigration_recorded hstored, if_neg hne]

/-- Migrations that follow the recorded ones and whose statements all succeed are executed. -/
theorem Consistent.migrateFrom_next (h : Consistent migrationChecksum statements db applied)
    {rest : List String} (hversions : ∀ source ∈ rest, SourceRecordsVersions statements source)
    (hcreates : ∀ source, applied = [] → rest.head? = some source →
      ∀ s, (statements source).bind (executeBatch · Schema.empty) = some s →
        s.hasTable migrationsTable = true)
    {schema : Schema} (hschema : migrated statements (applied ++ rest) = some schema) :
    migrateFrom migrationChecksum statements db (applied.length + 1) rest =
      (.ok (), ⟨schema, recordsOf migrationChecksum (applied ++ rest)⟩) := by
  induction rest generalizing db applied with
  | nil =>
    rw [List.append_nil, h.schema] at hschema
    obtain rfl := Option.some.inj hschema
    rw [List.append_nil, ← h.records]
    rfl
  | cons source rest ih =>
    obtain ⟨hsource, hrest⟩ := List.forall_mem_cons.1 hversions
    -- the statements of this migration succeed on what is there
    have hsplit : migrated statements (applied ++ source :: rest) =
        (migrated statements applied).bind fun s =>
          ((statements source).bind (executeBatch · s)).bind fun s =>
            rest.foldlM (fun s source => (statements source).bind (executeBatch · s)) s := by
      simp [migrated, List.foldlM_append, Option.bind_eq_bind]
    have hsome := hschema
    rw [hsplit, h.schema, Option.bind_some] at hsome
    obtain ⟨s, hs, -⟩ := Option.bind_eq_some_iff.1 hsome
    have htable : s.hasTable migrationsTable = true := by
      by_cases hempty : applied = []
      · have hdb : Schema.empty = db.schema := by
          have hdb := h.schema
          rw [hempty] at hdb
          exact Option.some.inj hdb
        rw [← hdb] at hs
        exact hcreates source hempty rfl s hs
      · obtain ⟨batch, -, hrun⟩ := Option.bind_eq_some_iff.1 hs
        exact executeBatch_induction (fun d _ _ _ hexec ht => d.hasTable_execute hexec ht) hrun
          (h.table.2 hempty)
    obtain ⟨happly, hnext⟩ := h.applyMigration_next hsource hs htable
    have htail := ih hnext hrest (fun _ hnil => absurd hnil (by simp)) (by simpa using hschema)
    rw [migrateFrom, happly]
    simpa using htail

/-- Sources that can be executed one after the other on an empty database, the first of which
    creates the table of records. -/
structure History (statements : String → Option (List Ddl)) (history : List String) : Prop where
  executes : (migrated statements history).isSome = true
  versions : ∀ source ∈ history, SourceRecordsVersions statements source
  creates : ∀ source, history.head? = some source →
    ∀ s, (statements source).bind (executeBatch · Schema.empty) = some s →
      s.hasTable migrationsTable = true

theorem History.executes_prefix {history sources : List String} (h : History statements history)
    (hs : sources <+: history) : ∃ schema, migrated statements sources = some schema := by
  obtain ⟨rest, rfl⟩ := hs
  have hsome := h.executes
  rw [migrated, List.foldlM_append, ← migrated] at hsome
  cases hm : migrated statements sources with
  | none => simp [hm] at hsome
  | some schema => exact ⟨schema, rfl⟩

/-- On what a history has made of an empty database, an older or a newer build with a part of this
    history is through with all its migrations. -/
theorem Consistent.migrate_history (h : Consistent migrationChecksum statements db applied)
    {history sources : List String} (hhistory : History statements history)
    (happlied : applied <+: history) (hsources : sources <+: history) :
    ∃ schema, migrated statements (history.take (max applied.length sources.length)) =
        some schema ∧
      migrate migrationChecksum statements db sources = (.ok (), ⟨schema,
        recordsOf migrationChecksum (history.take (max applied.length sources.length))⟩) := by
  unfold migrate
  rcases le_total sources.length applied.length with hle | hle
  · -- an older build, or one of the same age: everything it has is recorded
    have hold : sources <+: applied := List.prefix_of_prefix_length_le hsources happlied hle
    have hpast := h.migrateFrom_past (k := 0) [] (hold.map migrationChecksum)
    rw [List.append_nil] at hpast
    rw [max_eq_left hle, ← List.prefix_iff_eq_take.1 happlied]
    refine ⟨db.schema, h.schema, ?_⟩
    rw [hpast, migrateFrom, ← h.records]
  · -- a newer build: what it has besides is executed
    obtain ⟨more, rfl⟩ : applied <+: sources :=
      List.prefix_of_prefix_length_le happlied hsources hle
    obtain ⟨schema, hschema⟩ := hhistory.executes_prefix hsources
    rw [max_eq_right hle, ← List.prefix_iff_eq_take.1 hsources]
    refine ⟨schema, hschema, ?_⟩
    rw [h.migrateFrom_past (k := 0) more (List.prefix_refl _), Nat.zero_add]
    refine h.migrateFrom_next ?_ ?_ hschema
    · intro source hsource
      exact hhistory.versions source (hsources.subset (List.mem_append_right _ hsource))
    · rintro source rfl hhead
      refine hhistory.creates source ?_
      obtain ⟨rest, rfl⟩ := hsources
      cases more with
      | nil => simp at hhead
      | cons first more => simpa using hhead

section Openings

variable (migrationChecksum statements)

/-- One process opens the storage and gets so many statements, while the others rest. -/
def openAlone {ι : Type} [DecidableEq ι] (c : Interleaving.Config Database ι Opener) (i : ι)
    (sources : List String) (n : ℕ) : Interleaving.Config Database ι Opener :=
  Interleaving.run (move migrationChecksum statements) c
    ((.start sources :: List.replicate n .proceed).map (i, ·))

/-- With enough statements that is `migrate`. -/
theorem openAlone_eq_migrate {ι : Type} [DecidableEq ι] (c : Interleaving.Config Database ι Opener)
    (i : ι) (sources : List String) :
    ∃ n, ((openAlone migrationChecksum statements c i sources n).store,
        (openAlone migrationChecksum statements c i sources n).process i) =
      Opener.after sources [] (migrate migrationChecksum statements c.store sources) := by
  obtain ⟨n, hn⟩ := alone_migrate migrationChecksum statements c.store (c.process i) sources
  obtain ⟨hstore, hprocess⟩ := Interleaving.run_alone (move migrationChecksum statements) c i
    (.start sources :: List.replicate n .proceed)
  rw [hn] at hstore hprocess
  exact ⟨n, Prod.ext hstore hprocess⟩

end Openings

/-- An undisturbed opening with a migration that is not the recorded one fails at that migration
    and leaves everything as it was. -/
theorem changed_migration_refused {ι : Type} [DecidableEq ι] {moves : List (ι × Event)}
    (hP : ∀ version source, P version source → SourceRecordsVersions statements source)
    (hmoves : ∀ m ∈ moves, m.2.Allowed P) {before : Interleaving.Config Database ι Opener}
    (hbefore : before = Interleaving.run (move migrationChecksum statements) (start ι) moves)
    {done rest : List String} {source stored : String} (i : ι)
    (hdone : RecordedAs migrationChecksum before.store done)
    (hstored : (before.store.records.map Prod.snd)[done.length]? = some stored)
    (hne : stored ≠ migrationChecksum source) :
    ∃ n, (openAlone migrationChecksum statements before i (done ++ source :: rest) n).store =
        before.store ∧
      (openAlone migrationChecksum statements before i (done ++ source :: rest) n).process i =
        .failed (.mismatch (done.length + 1) stored (migrationChecksum source)) := by
  have hsound := (discipline migrationChecksum hP).sound_run hmoves (sound_start ι)
  rw [← hbefore] at hsound
  obtain ⟨applied, hcons, -⟩ := hsound.store
  rw [hcons.records, map_snd_recordsOf, List.getElem?_map] at hstored
  obtain ⟨n, hn⟩ := openAlone_eq_migrate migrationChecksum statements before i
    (done ++ source :: rest)
  rw [hcons.migrate_departs (hcons.recordedAs_iff.1 hdone) hstored hne] at hn
  exact ⟨n, Prod.ext_iff.1 hn⟩

/-- After the race a build with another second migration is refused. -/
theorem changed_migration_refused_race :
    let before := Interleaving.run (move shippedChecksum shippedStatements) (start ℕ)
      (race ++ secondAttempt)
    ∃ n, (openAlone shippedChecksum shippedStatements before 2
          (migrationHeads.take 1 ++ [changedSecond]) n).store = before.store ∧
      (openAlone shippedChecksum shippedStatements before 2
          (migrationHeads.take 1 ++ [changedSecond]) n).process 2 =
        .failed (.mismatch 2 "90ac4847dfbcf816e1d41c768220befd78332e615cab02c525ffc7bc2ebbbe15"
          "8aa498e19e75806691bd684c7ad63dd9603ca29275a9df026d2b79a66654a07d") := by
  intro before
  have hrecords : before.store.records.map Prod.snd =
      (migrationHeads.take 2).map shippedChecksum := by decide +kernel
  have hdone : RecordedAs shippedChecksum before.store (migrationHeads.take 1) := by
    rw [RecordedAs, hrecords]
    exact (List.take_prefix_take_left (by decide)).map _
  have hstored : (before.store.records.map Prod.snd)[(migrationHeads.take 1).length]? =
      some "90ac4847dfbcf816e1d41c768220befd78332e615cab02c525ffc7bc2ebbbe15" := by
    rw [hrecords]
    decide +kernel
  have hexpected : shippedChecksum changedSecond =
      "8aa498e19e75806691bd684c7ad63dd9603ca29275a9df026d2b79a66654a07d" := by decide +kernel
  rw [← hexpected]
  exact changed_migration_refused (migrationOf_recordsVersions shippedStatements_heads) race_allowed
    rfl 2 hdone hstored (by rw [hexpected]; decide)

theorem migrated_eq_foldlM {sources : List String} {batches : List (List Ddl)}
    (h : sources.map statements = batches.map some) :
    migrated statements sources = batches.foldlM (fun s batch => executeBatch batch s)
      Schema.empty := by
  unfold migrated
  generalize Schema.empty = s
  induction batches generalizing sources s with
  | nil =>
    obtain rfl := List.map_eq_nil_iff.1 h
    rfl
  | cons batch batches ih =>
    obtain ⟨source, rest, rfl, hsource, hrest⟩ := List.map_eq_cons_iff.1 h
    simp only [List.foldlM_cons, hsource, Option.bind_some]
    cases executeBatch batch s with
    | none => rfl
    | some s => exact ih hrest s

/-- Sources in which SQLite reads these migrations are a history. -/
theorem History.of_nemorMigrations {current : List String}
    (h : current.map statements = nemorMigrations.map some) : History statements current := by
  obtain ⟨hexecutes, hcreates, -⟩ := nemorMigrations_execute
  refine ⟨?_, recordsVersions_of_nemorMigrations h, ?_⟩
  · rw [migrated_eq_foldlM h]
    exact hexecutes
  · intro source hhead s hs
    have hfirst : statements source = some initialMigration := by
      have hget := congrArg List.head? h
      simpa [hhead, nemorMigrations] using hget
    rw [hfirst, Option.bind_some] at hs
    rw [hs] at hcreates
    simpa using hcreates

/-- Whatever openings of this and older builds have been through, also killed and failed ones, the
    next process that is left alone opens the storage, with all versions there are so far. -/
theorem undisturbed_opening_succeeds {ι : Type} [DecidableEq ι] {moves : List (ι × Event)}
    {current : List String} (hcurrent : current.map statements = nemorMigrations.map some)
    (hmoves : ∀ m ∈ moves, m.2.Allowed (MigrationOf current))
    {before : Interleaving.Config Database ι Opener}
    (hbefore : before = Interleaving.run (move migrationChecksum statements) (start ι) moves)
    (i : ι) {sources : List String} (hsources : sources <+: current) {versions : ℕ}
    (hmax : versions = max before.store.records.length sources.length) :
    ∃ n, (openAlone migrationChecksum statements before i sources n).process i = .opened sources ∧
      (openAlone migrationChecksum statements before i sources n).store.records =
        recordsOf migrationChecksum (current.take versions) ∧
      migrated statements (current.take versions) =
        some (openAlone migrationChecksum statements before i sources n).store.schema := by
  have hhistory := History.of_nemorMigrations hcurrent
  have hP := migrationOf_recordsVersions hcurrent
  have hsound := (discipline migrationChecksum hP).sound_run hmoves (sound_start ι)
  rw [← hbefore] at hsound
  obtain ⟨applied, hcons, heach⟩ := hsound.store
  have hlength : before.store.records.length = applied.length := by
    rw [hcons.records]
    simp [recordsOf]
  rw [hlength] at hmax
  obtain ⟨schema, hschema, hmigrate⟩ :=
    hcons.migrate_history hhistory (each_migrationOf.1 heach) hsources
  obtain ⟨n, hn⟩ := openAlone_eq_migrate migrationChecksum statements before i sources
  rw [hmigrate, ← hmax, Opener.after] at hn
  obtain ⟨hstore, hprocess⟩ := Prod.mk.inj hn
  refine ⟨n, hprocess, ?_, ?_⟩
  · rw [hstore]
  · rw [hstore, hmax]
    exact hschema

/-- After the race the current build brings the database from the second to the ninth version. -/
theorem undisturbed_opening_succeeds_race :
    let before := Interleaving.run (move shippedChecksum shippedStatements) (start ℕ)
      (race ++ secondAttempt)
    ∃ n, (openAlone shippedChecksum shippedStatements before 2 migrationHeads n).process 2 =
        .opened migrationHeads ∧
      (openAlone shippedChecksum shippedStatements before 2 migrationHeads n).store.records =
        recordsOf shippedChecksum (migrationHeads.take 9) ∧
      migrated shippedStatements (migrationHeads.take 9) =
        some (openAlone shippedChecksum shippedStatements before 2 migrationHeads n).store.schema :=
  undisturbed_opening_succeeds shippedStatements_heads race_allowed rfl 2 (List.prefix_refl _)
    (by decide +kernel)

end Nemor.Storage.Migration
