import Mathlib.Data.List.Infix
import Mathlib.Tactic.Common

/-!
# The schema of the database

What SQLite does with the statements of the migrations, and the nine migrations of this
repository. Of a table only the names of its columns and its primary key matter here: they
decide which statements are refused.
-/

namespace Nemor.Storage.Migration

/-! ## §1 Statements -/

/-- The statements the migrations consist of. -/
inductive Ddl where
  | createTable (name : String) (columns : List String) (primaryKey : Option String)
  | createIndex (name table : String) (columns : List String)
  | addColumn (table column : String)
  deriving DecidableEq

/-- A table by its columns. -/
structure TableDef where
  name : String
  columns : List String
  primaryKey : Option String
  deriving DecidableEq

/-- An index and its table. -/
structure IndexDef where
  name : String
  table : String
  deriving DecidableEq

/-- The tables and the indexes of a file. -/
structure Schema where
  tables : List TableDef
  indexes : List IndexDef
  deriving DecidableEq

namespace Schema

/-- Nothing is defined. -/
def empty : Schema := ⟨[], []⟩

/-- The table of a name. -/
def table? (s : Schema) (name : String) : Option TableDef := s.tables.find? (·.name == name)

/-- There is such a table. -/
def hasTable (s : Schema) (name : String) : Bool := s.tables.any (·.name == name)

/-- Tables and indexes share their names. -/
def taken (s : Schema) (name : String) : Bool :=
  s.hasTable name || s.indexes.any (·.name == name)

end Schema

/-- One statement; nothing when SQLite refuses it. -/
def Ddl.execute : Ddl → Schema → Option Schema
  | .createTable name columns primaryKey, s =>
    if s.taken name || !decide columns.Nodup then none
    else some { s with tables := s.tables ++ [⟨name, columns, primaryKey⟩] }
  | .createIndex name table columns, s =>
    match s.table? table with
    | none => none
    | some t =>
      if s.taken name || !columns.all (t.columns.contains ·) then none
      else some { s with indexes := s.indexes ++ [⟨name, table⟩] }
  | .addColumn table column, s =>
    match s.table? table with
    | none => none
    | some t =>
      if t.columns.contains column then none
      else some { s with
        tables := s.tables.map fun t =>
          if t.name == table then { t with columns := t.columns ++ [column] } else t }

/-- The statements of a batch, up to the first that is refused. -/
def executeBatch (batch : List Ddl) (s : Schema) : Option Schema :=
  batch.foldlM (fun s d => d.execute s) s

/-- The table in which the migrations are recorded. -/
def migrationsTable : String := "schema_migrations"

theorem executeBatch_cons (d : Ddl) (batch : List Ddl) (s : Schema) :
    executeBatch (d :: batch) s = (d.execute s).bind (executeBatch batch ·) := rfl

/-- What every statement of a batch keeps is kept by the batch. -/
theorem executeBatch_induction {P : Schema → Prop} {batch : List Ddl} {s t : Schema}
    (hstep : ∀ d ∈ batch, ∀ s t, d.execute s = some t → P s → P t)
    (h : executeBatch batch s = some t) (hs : P s) : P t := by
  induction batch generalizing s with
  | nil =>
    obtain rfl : s = t := Option.some.inj h
    exact hs
  | cons d batch ih =>
    obtain ⟨hd, hrest⟩ := List.forall_mem_cons.1 hstep
    rw [executeBatch_cons] at h
    obtain ⟨u, hu, ht⟩ := Option.bind_eq_some_iff.1 h
    exact ih hrest ht (hd s u hu hs)

theorem Schema.hasTable_iff {s : Schema} {name : String} :
    s.hasTable name = true ↔ ∃ t ∈ s.tables, t.name = name := by
  simp [Schema.hasTable]

/-- The table records versions and checksums, under a key that admits each version once. -/
structure TableDef.RecordsVersions (t : TableDef) : Prop where
  key : t.primaryKey = some "version"
  version : "version" ∈ t.columns
  checksum : "checksum" ∈ t.columns

/-- Where a schema records its migrations, it records versions. -/
def Schema.RecordsVersions (s : Schema) : Prop :=
  ∀ t ∈ s.tables, t.name = migrationsTable → t.RecordsVersions

/-- A statement that does not spoil that. -/
def Ddl.RecordsVersions : Ddl → Prop
  | .createTable name columns primaryKey =>
    name = migrationsTable → (TableDef.mk name columns primaryKey).RecordsVersions
  | _ => True

/-- What a statement leaves of the tables that were there. -/
theorem Ddl.execute_tables {d : Ddl} {s t : Schema} (h : d.execute s = some t) :
    (∃ name columns primaryKey, d = .createTable name columns primaryKey ∧
      t.tables = s.tables ++ [⟨name, columns, primaryKey⟩]) ∨
    t.tables = s.tables ∨
    ∃ table column, t.tables = s.tables.map fun t =>
      if t.name == table then { t with columns := t.columns ++ [column] } else t := by
  cases d with
  | createTable name columns primaryKey =>
    rw [Ddl.execute] at h
    split at h
    · cases h
    · cases h
      exact .inl ⟨name, columns, primaryKey, rfl, rfl⟩
  | createIndex name table columns =>
    rw [Ddl.execute] at h
    split at h
    · cases h
    · split at h
      · cases h
      · cases h
        exact .inr (.inl rfl)
  | addColumn table column =>
    rw [Ddl.execute] at h
    split at h
    · cases h
    · split at h
      · cases h
      · cases h
        exact .inr (.inr ⟨table, column, rfl⟩)

/-- No statement takes a table away. -/
theorem Ddl.hasTable_execute {d : Ddl} {s t : Schema} {name : String} (h : d.execute s = some t)
    (hs : s.hasTable name = true) : t.hasTable name = true := by
  obtain ⟨old, hold, rfl⟩ := Schema.hasTable_iff.1 hs
  rw [Schema.hasTable_iff]
  rcases d.execute_tables h with ⟨name, columns, primaryKey, -, ht⟩ | ht | ⟨table, column, ht⟩
  · exact ⟨old, ht ▸ List.mem_append_left _ hold, rfl⟩
  · exact ⟨old, ht ▸ hold, rfl⟩
  · rw [ht]
    refine ⟨_, List.mem_map_of_mem hold, ?_⟩
    split <;> rfl

theorem Ddl.recordsVersions_execute {d : Ddl} {s t : Schema} (hd : d.RecordsVersions)
    (h : d.execute s = some t) (hs : s.RecordsVersions) : t.RecordsVersions := by
  unfold Schema.RecordsVersions
  rcases d.execute_tables h with ⟨name, columns, primaryKey, rfl, ht⟩ | ht | ⟨table, column, ht⟩
  · intro new hnew hname
    rw [ht] at hnew
    rcases List.mem_append.1 hnew with hold | hnew
    · exact hs new hold hname
    · obtain rfl := List.mem_singleton.1 hnew
      exact hd hname
  · intro new hnew hname
    exact hs new (ht ▸ hnew) hname
  · intro new hnew hname
    rw [ht] at hnew
    obtain ⟨old, hold, rfl⟩ := List.mem_map.1 hnew
    split at hname
    · -- a column more keeps the key and the columns that were there
      rename_i htable
      rw [if_pos htable]
      obtain ⟨hkey, hversion, hchecksum⟩ := hs old hold hname
      exact ⟨hkey, List.mem_append_left _ hversion, List.mem_append_left _ hchecksum⟩
    · rename_i htable
      rw [if_neg htable]
      exact hs old hold hname

instance (t : TableDef) : Decidable t.RecordsVersions :=
  decidable_of_iff
    (t.primaryKey = some "version" ∧ "version" ∈ t.columns ∧ "checksum" ∈ t.columns)
    ⟨fun h => ⟨h.1, h.2.1, h.2.2⟩, fun h => ⟨h.key, h.version, h.checksum⟩⟩

instance : DecidablePred Ddl.RecordsVersions
  | .createTable name _ _ =>
    inferInstanceAs (Decidable (name = migrationsTable → TableDef.RecordsVersions _))
  | .createIndex _ _ _ => isTrue trivial
  | .addColumn _ _ => isTrue trivial

/-! ## §2 The migrations of this repository -/

/-- The statements of the first migration. -/
def initialMigration : List Ddl :=
  [ .createTable "schema_migrations" ["version", "applied_at", "checksum"] (some "version")
  , .createTable "hosts"
      ["id", "machine_id", "hostname", "distro", "distro_version", "kernel_version", "cpu_model",
       "cpu_cores", "ram_total_bytes", "swap_total_bytes", "gpu_model", "storage_model",
       "created_at", "updated_at"]
      (some "id")
  , .createTable "sessions"
      ["id", "host_id", "mode", "daemon_version", "config_hash", "started_at", "ended_at",
       "clean_shutdown"]
      (some "id")
  , .createTable "process_catalog"
      ["id", "executable", "command_signature", "application_name", "category", "is_game",
       "is_critical", "default_priority"]
      (some "id")
  , .createTable "process_samples"
      ["id", "session_id", "process_catalog_id", "timestamp_ns", "pid", "cgroup_path",
       "rss_bytes", "pss_bytes", "uss_bytes", "swap_bytes", "minor_faults", "major_faults",
       "cpu_percent", "io_read_bytes", "io_write_bytes", "foreground"]
      (some "id")
  , .createIndex "idx_process_samples_session_time" "process_samples"
      ["session_id", "timestamp_ns"]
  , .createTable "system_samples"
      ["id", "session_id", "timestamp_ns", "mem_total_bytes", "mem_available_bytes",
       "anon_bytes", "file_cache_bytes", "slab_bytes", "swap_used_bytes", "swap_in_pages",
       "swap_out_pages", "major_faults", "minor_faults", "pgscan", "pgsteal",
       "workingset_refault", "psi_memory_some_avg10", "psi_memory_full_avg10",
       "psi_io_some_avg10", "cpu_total_percent", "load1", "zram_orig_bytes",
       "zram_compressed_bytes", "zswap_stored_pages", "zswap_pool_bytes", "ksm_pages_shared",
       "ksm_pages_sharing"]
      (some "id")
  , .createIndex "idx_system_samples_session_time" "system_samples" ["session_id", "timestamp_ns"]
  , .createTable "workload_events"
      ["id", "session_id", "timestamp_ns", "previous_class", "new_class", "confidence",
       "reason_json"]
      (some "id")
  , .createTable "policy_decisions"
      ["id", "session_id", "timestamp_ns", "pressure_state", "policy_name",
       "input_features_json", "actions_json", "expected_gain_bytes", "expected_cost_score",
       "model_version", "rule_version"]
      (some "id")
  , .createTable "action_results"
      ["id", "decision_id", "action_type", "target", "previous_value", "requested_value",
       "applied_value", "success", "error_code", "error_message", "duration_us", "reverted_at"]
      (some "id")
  , .createTable "benchmark_runs"
      ["id", "host_id", "name", "workload", "profile", "baseline", "started_at", "ended_at",
       "status", "parameters_json", "notes"]
      (some "id")
  , .createTable "benchmark_metrics"
      ["id", "benchmark_run_id", "metric_name", "metric_value", "unit", "percentile"]
      (some "id")
  , .createTable "model_registry"
      ["id", "version", "model_type", "feature_schema_version", "artifact_path", "checksum",
       "trained_at", "training_dataset_hash", "validation_metrics_json", "active"]
      (some "id")
  , .createTable "safety_events"
      ["id", "session_id", "timestamp_ns", "severity", "event_type", "message", "context_json"]
      (some "id")
  , .createTable "configuration_snapshots"
      ["id", "session_id", "created_at", "reason", "config_json", "system_values_json"]
      (some "id") ]

/-- Columns for more of the telemetry. -/
def telemetryMigration : List Ddl :=
  [ .addColumn "system_samples" "psi_cpu_some_avg10"
  , .addColumn "system_samples" "psi_cpu_full_avg10"
  , .addColumn "system_samples" "swap_configuration"
  , .addColumn "system_samples" "swap_entries_json"
  , .addColumn "system_samples" "zram_present"
  , .addColumn "system_samples" "zram_memory_used_bytes"
  , .addColumn "system_samples" "zram_devices_json"
  , .addColumn "system_samples" "zswap_present"
  , .addColumn "system_samples" "zswap_enabled"
  , .addColumn "system_samples" "capabilities_unavailable_json" ]

/-- What the classifier needs. -/
def classifierMigration : List Ddl :=
  [ .addColumn "process_samples" "foreground_state"
  , .createIndex "idx_workload_events_session_time" "workload_events"
      ["session_id", "timestamp_ns"] ]

/-- Snapshots and groups of the actuator. -/
def cgroupMigration : List Ddl :=
  [ .createTable "cgroup_snapshots"
      ["id", "session_id", "timestamp_ns", "process_catalog_id", "identity", "pid",
       "start_time_ticks", "original_group", "target_group", "original_properties_json",
       "requested_properties_json", "reason", "applied", "verified", "rolled_back", "last_error"]
      (some "id")
  , .createIndex "idx_cgroup_snapshots_recovery" "cgroup_snapshots"
      ["rolled_back", "applied", "session_id"]
  , .createTable "cgroup_managed_groups"
      ["name", "session_id", "backend", "owned_by_nemor", "state", "updated_at"]
      (some "name") ]

/-- Sessions of DAMON and what they have observed. -/
def damonMigration : List Ddl :=
  [ .createTable "damon_sessions"
      ["id", "host_session_id", "external_session", "source", "kernel", "operation_set",
       "attrs_json", "started_at", "ended_at", "clean_shutdown", "zero_damos", "dropped_samples"]
      (some "id")
  , .createTable "damon_region_samples"
      ["id", "damon_session_id", "timestamp_ns", "target_id", "pid", "stable_identity",
       "region_start", "region_end", "region_size", "nr_accesses", "age",
       "normalized_access_ratio", "observational_label", "sample_json"]
      (some "id")
  , .createTable "damon_overhead_samples"
      ["id", "damon_session_id", "timestamp_ns", "kdamond_cpu_percent", "capture_cpu_percent",
       "target_slowdown_percent", "events_per_second", "regions_per_second", "dropped_samples"]
      (some "id")
  , .createIndex "idx_damon_sessions_host_time" "damon_sessions" ["host_session_id", "started_at"]
  , .createIndex "idx_damon_regions_session_time" "damon_region_samples"
      ["damon_session_id", "timestamp_ns"]
  , .createIndex "idx_damon_overhead_session_time" "damon_overhead_samples"
      ["damon_session_id", "timestamp_ns"] ]

/-- Plans and results of DAMOS. -/
def damosMigration : List Ddl :=
  [ .createTable "damos_action_plans"
      ["id", "decision_id", "plan_id", "session_id", "scheme_id", "target_identity",
       "pressure_state", "disposition", "reason_codes_json", "plan_json", "created_at"]
      (some "id")
  , .createTable "damos_action_results"
      ["id", "plan_id", "action_id", "session_id", "scheme_id", "outcome", "stats_json",
       "reclaim_json", "interrupted", "recovered", "created_at"]
      (some "id")
  , .createTable "damos_refault_blacklist"
      ["id", "stable_identity", "region_signature", "reason", "source_action_id",
       "evidence_json", "created_at_ns", "expires_at_ns"]
      (some "id")
  , .createIndex "idx_damos_plans_created" "damos_action_plans" ["created_at"]
  , .createIndex "idx_damos_results_plan" "damos_action_results" ["plan_id", "created_at"]
  , .createIndex "idx_damos_blacklist_active" "damos_refault_blacklist"
      ["expires_at_ns", "stable_identity"] ]

/-- Samples and decisions about merging. -/
def ksmMigration : List Ddl :=
  [ .createTable "ksm_system_samples"
      ["id", "session_id", "timestamp_ns", "metrics_json"]
      (some "id")
  , .createIndex "idx_ksm_system_samples_session_time" "ksm_system_samples"
      ["session_id", "timestamp_ns"]
  , .createTable "ksm_process_samples"
      ["id", "session_id", "timestamp_ns", "stable_identity", "profile", "metrics_json"]
      (some "id")
  , .createIndex "idx_ksm_process_samples_session_time" "ksm_process_samples"
      ["session_id", "timestamp_ns"]
  , .createTable "ksm_evaluations"
      ["id", "session_id", "timestamp_ns", "decision_id", "plan_id", "transaction_id", "profile",
       "controller_state", "profit_json", "reason_json", "dry_run"]
      (some "id")
  , .createIndex "idx_ksm_evaluations_session_time" "ksm_evaluations"
      ["session_id", "timestamp_ns"] ]

/-- Experiments with their runs. -/
def benchmarkMigration : List Ddl :=
  [ .createTable "benchmark_experiments"
      ["id", "scenario_id", "scenario_version", "seed", "repetition_count",
       "host_fingerprint_hash", "nemor_commit", "config_hash", "evidence_kind",
       "source_state_id", "binary_sha256", "development_build", "performance_claim_eligible",
       "created_at_ns", "status"]
      (some "id")
  , .createIndex "idx_benchmark_experiments_scenario" "benchmark_experiments"
      ["scenario_id", "created_at_ns"]
  , .createTable "benchmark_run_manifests"
      ["id", "experiment_id", "variant", "repetition", "run_order", "status", "valid",
       "invalid_reason", "logical_workload_bytes", "physical_memory_bytes", "requested_variant",
       "resolved_variant_state", "effective_state_hash", "variant_diff_summary",
       "cgroup_ownership_json", "restore_evidence_json", "started_monotonic_ns",
       "ended_monotonic_ns", "manifest_json"]
      (some "id")
  , .createIndex "idx_benchmark_run_manifests_experiment" "benchmark_run_manifests"
      ["experiment_id", "run_order"]
  , .createTable "benchmark_samples"
      ["id", "run_id", "sequence", "timestamp_monotonic_ns", "phase", "metric", "value", "unit",
       "scope", "source", "available", "unavailable_reason"]
      (some "id")
  , .createIndex "idx_benchmark_samples_run_time" "benchmark_samples"
      ["run_id", "timestamp_monotonic_ns"]
  , .createTable "benchmark_events"
      ["id", "run_id", "timestamp_monotonic_ns", "event_type", "value_json"]
      (some "id")
  , .createIndex "idx_benchmark_events_run_time" "benchmark_events"
      ["run_id", "timestamp_monotonic_ns"]
  , .createTable "benchmark_summaries"
      ["id", "run_id", "metric", "unit", "scope", "summary_json"]
      (some "id")
  , .createTable "benchmark_comparisons"
      ["id", "experiment_id", "baseline_variant", "candidate_variant", "comparable",
       "invalid_reason", "comparison_json", "acceptance_json", "created_at_ns"]
      (some "id")
  , .createIndex "idx_benchmark_comparisons_experiment" "benchmark_comparisons"
      ["experiment_id", "created_at_ns"] ]

/-- Columns for comparisons of performance. -/
def benchmarkPerformanceMigration : List Ddl :=
  [ .addColumn "benchmark_experiments" "comparison_purpose"
  , .addColumn "benchmark_experiments" "manifest_json"
  , .addColumn "benchmark_experiments" "ended_at_ns"
  , .addColumn "benchmark_experiments" "valid"
  , .addColumn "benchmark_run_manifests" "run_seed"
  , .addColumn "benchmark_run_manifests" "benchmark_binary_sha256"
  , .addColumn "benchmark_run_manifests" "observer_binary_sha256"
  , .addColumn "benchmark_run_manifests" "config_hash"
  , .addColumn "benchmark_comparisons" "comparison_purpose" ]

/-- In the order in which `migrate` applies them. -/
def nemorMigrations : List (List Ddl) :=
  [initialMigration, telemetryMigration, classifierMigration, cgroupMigration, damonMigration,
   damosMigration, ksmMigration, benchmarkMigration, benchmarkPerformanceMigration]

/-- They succeed one after the other on an empty database, the first creates the table of records
    and none spoils it. -/
theorem nemorMigrations_execute :
    (nemorMigrations.foldlM (fun s batch => executeBatch batch s) Schema.empty).isSome = true ∧
      ((executeBatch initialMigration Schema.empty).all (·.hasTable migrationsTable)) = true ∧
      (∀ batch ∈ nemorMigrations, ∀ d ∈ batch, d.RecordsVersions) := by
  decide +kernel

/-- The first line of each migration. In examples it stands for the text. -/
def migrationHeads : List String :=
  ["CREATE TABLE schema_migrations (",
   "ALTER TABLE system_samples ADD COLUMN psi_cpu_some_avg10 REAL;",
   "ALTER TABLE process_samples ADD COLUMN foreground_state TEXT;",
   "CREATE TABLE cgroup_snapshots (",
   "CREATE TABLE damon_sessions (",
   "CREATE TABLE damos_action_plans (",
   "CREATE TABLE ksm_system_samples (",
   "CREATE TABLE benchmark_experiments (",
   "ALTER TABLE benchmark_experiments ADD COLUMN comparison_purpose TEXT;"]

/-- The migrations with the SHA-256 digests of their files, told by their first lines. -/
def shippedMigrations : List (String × List Ddl × String) :=
  migrationHeads.zip (nemorMigrations.zip
    ["3ac5bf4bd1617bbcc25dd1bdf9a7b7a44e35640ce3e36752f521d791d1bf7dc3",
     "90ac4847dfbcf816e1d41c768220befd78332e615cab02c525ffc7bc2ebbbe15",
     "0665aaad4f386161ab2d0ed4fa1f4cec342ce4c3ae470fe65eae7f11da02c856",
     "742ccc3e910955dafec048c25a0bff3c1de86848eb8c75aff6a1f6545b22e994",
     "94a444c66a4030837396d81fb124bc058dda1f93d849c4c9f8ddc9cbe66fb525",
     "07033cd17295b5b4321c0d61971cd9512eda9ae103021ac614854f0fe29d72eb",
     "1204872912927fabfe6cdba414a0f60b634453eac7990a1a5bf6029d39ebb933",
     "c7375a40d28345dd685742a2135ab352f5affe1eae93bd82689ef2da9fe1cce3",
     "55f79c2a9b0a76731a20cc68fd4f91f5e948094451ea0dd1c8c031f2151a298a"])

/-- What SQLite reads in a shipped migration. -/
def shippedStatements (source : String) : Option (List Ddl) :=
  (shippedMigrations.lookup source).map Prod.fst

/-- Another second migration: the first column has another type. -/
def changedSecond : String :=
  "ALTER TABLE system_samples ADD COLUMN psi_cpu_some_avg10 INTEGER;"

/-- The checksum of a shipped migration, or of `changedSecond`. -/
def shippedChecksum (source : String) : String :=
  ((shippedMigrations.lookup source).map Prod.snd).getD
    "8aa498e19e75806691bd684c7ad63dd9603ca29275a9df026d2b79a66654a07d"

theorem shippedStatements_heads :
    migrationHeads.map shippedStatements = nemorMigrations.map some := by
  decide +kernel

end Nemor.Storage.Migration
