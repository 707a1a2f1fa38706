import Nemor.Common.Config
import Nemor.Lib.Replacing
import Mathlib.Data.List.TakeWhile

/-!
# The configuration of an inspection

An observer reads a copy of the configuration in which only the database is another one. The copy is
made by replacing a text, `database_path = "…"` with the path that was read from the base, and the
text has to occur once. It is then whatever the TOML reader makes of it.

- §1: loading a configuration
- §2: the copy
- §3: where the value stands
- §4: when the copy differs in the database only
- §5: a reader, and a copy that keeps the database
-/

namespace Nemor.Performance.InspectionConfig

open Common Fallible Text UnixPath

/-! ## §1 Loading a configuration -/

/-- What is read from a text: the settings that are checked, and the others. -/
structure Settings (Other : Type) where
  config : Config
  other : Other

/-- The settings with another database. -/
def Settings.withDatabase {Other : Type} (settings : Settings Other) (database : PathBuf) :
    Settings Other :=
  { settings with
    config := { settings.config with
      general := { settings.config.general with databasePath := database } } }

/-- The TOML reader: what a text is read as, and where the value of `general.database_path` stands
in it, as what is in front of it, its own text and what is behind it. -/
structure TomlReader (Other : Type) where
  fromStr : List Char → Except String (Settings Other)
  databaseValue : List Char → List Char × List Char × List Char

/-- Why a configuration is not loaded. -/
inductive LoadError where
  | parse (source : String)
  | validation (error : ConfigError)

/-- Settings with the digest of their text. -/
structure LoadedConfig (Other : Type) where
  settings : Settings Other
  sha256 : String

section Copy

variable {Other : Type} (reader : TomlReader Other) (sha256 : List Char → String)

/-- `load`: parse, validate, and take the digest. -/
def load (text : List Char) : Except LoadError (LoadedConfig Other) := do
  let settings ← (reader.fromStr text).mapError .parse
  settings.config.validate.mapError .validation
  return ⟨settings, sha256 text⟩

/-! ## §2 The copy -/

/-- Why no configuration is written. -/
inductive InspectionError where
  | load (error : LoadError)
  | ambiguous

/-- A string of TOML, if its characters stand for themselves. -/
def quoted (text : List Char) : List Char := '"' :: text ++ ['"']

/-- How the assignment of the path begins. -/
def key : List Char := "database_path = ".toList

/-- The text that is replaced, and the text that replaces it. -/
def assignment (database : PathBuf) : List Char := key ++ quoted database.text.toList

/-- The text of the copy and its hash. -/
def writeInspectionConfig (source : List Char) (database : PathBuf) :
    Except InspectionError (List Char × String) := do
  let loaded ← (load reader sha256 source).mapError .load
  let original := assignment loaded.settings.config.general.databasePath
  let replacement := assignment database
  refuse (matchCount original 0 source ≠ 1) .ambiguous
  let written := replaceFirst original replacement source
  let reloaded ← (load reader sha256 written).mapError .load
  return (written, reloaded.sha256)

end Copy

/-! ## §3 Where the value stands -/

/-- Characters that stand for themselves in a TOML string. -/
def Plain (text : List Char) : Prop :=
  ∀ c ∈ text, c ≠ '"' ∧ c ≠ '\\' ∧ (c = '\t' ∨ 32 ≤ c.toNat ∧ c.toNat ≠ 127)

/-- A path of letters, digits and the characters of ordinary names. -/
def Ordinary (text : List Char) : Prop :=
  text ≠ [] ∧ ∀ c ∈ text, c.isAlphanum = true ∨ c ∈ "/._-".toList

/-- What the TOML reader is relied on for. A key has the value that stands behind it, and no
other text has a say in it. -/
structure TomlReader.Documented {Other : Type} (reader : TomlReader Other) : Prop where
  /-- A string in the place of a value is the new value, and everything else stays. -/
  replaced : ∀ {text settings before value behind} (s : List Char),
    reader.fromStr text = .ok settings → reader.databaseValue text = (before, value, behind) →
    Plain s →
    reader.fromStr (before ++ quoted s ++ behind) = .ok (settings.withDatabase ⟨String.ofList s⟩)
  /-- A text that looks like the assignment and does not hold the value is in a comment or inside
  of another string. -/
  elsewhere : ∀ {before s s' behind settings settings'}, Ordinary s → Ordinary s' →
    reader.fromStr (before ++ (key ++ quoted s) ++ behind) = .ok settings →
    settings.config.general.databasePath = ⟨String.ofList s⟩ →
    reader.databaseValue (before ++ (key ++ quoted s) ++ behind) ≠
      (before ++ key, quoted s, behind) →
    reader.fromStr (before ++ (key ++ quoted s') ++ behind) = .ok settings' →
    settings'.config.general.databasePath = settings.config.general.databasePath

/-- The text that is replaced holds the value. -/
def AtValue {Other : Type} (reader : TomlReader Other) (source : List Char) (original : PathBuf) :
    Prop :=
  ∃ before behind, splitOnceAt (assignment original) source = some (before, behind) ∧
    reader.databaseValue source = (before ++ key, quoted original.text.toList, behind)

/-! ## §4 When the copy differs in the database only -/

section Copies

variable {Other : Type} {reader : TomlReader Other} {sha256 : List Char → String}
  {source written : List Char} {database : PathBuf} {hash : String}

theorem mapError_eq_ok {ε ε' α : Type} {x : Except ε α} {f : ε → ε'} {a : α} :
    x.mapError f = .ok a ↔ x = .ok a := by
  cases x <;> simp [Except.mapError]

theorem load_eq_ok {text : List Char} {loaded : LoadedConfig Other} :
    load reader sha256 text = .ok loaded ↔
      reader.fromStr text = .ok loaded.settings ∧ loaded.settings.config.validate = .ok () ∧
        loaded.sha256 = sha256 text := by
  unfold load
  simp only [bind_eq_ok, mapError_eq_ok]
  constructor
  · rintro ⟨settings, hread, _, hvalid, hloaded⟩
    obtain rfl := Except.ok.inj hloaded
    exact ⟨hread, hvalid, rfl⟩
  · rintro ⟨hread, hvalid, hhash⟩
    refine ⟨loaded.settings, hread, (), hvalid, ?_⟩
    rw [← hhash]
    rfl

theorem writeInspectionConfig_eq_ok
    (h : writeInspectionConfig reader sha256 source database = .ok (written, hash)) :
    ∃ base copy, load reader sha256 source = .ok base ∧ load reader sha256 written = .ok copy ∧
      ∃ before behind,
        splitOnceAt (assignment base.settings.config.general.databasePath) source =
          some (before, behind) ∧
        written = before ++ assignment database ++ behind := by
  unfold writeInspectionConfig at h
  obtain ⟨base, hbase, h⟩ := bind_eq_ok.1 h
  obtain ⟨hcount, h⟩ := refuse_bind_eq_ok.1 h
  obtain ⟨copy, hcopy, h⟩ := bind_eq_ok.1 h
  rw [mapError_eq_ok] at hbase hcopy
  obtain ⟨rfl, -⟩ := Prod.mk.inj (Except.ok.inj h)
  -- one occurrence is an occurrence
  obtain ⟨before, behind, hsplit⟩ := exists_of_matchCount (by rw [not_not.1 hcount]; decide)
  have hwritten : replaceFirst (assignment base.settings.config.general.databasePath)
      (assignment database) source = before ++ assignment database ++ behind := by
    rw [replaceFirst, hsplit]
  exact ⟨base, copy, hbase, hcopy, before, behind, hsplit, hwritten⟩

/-- The copy is read as the base is, except for the database. -/
def DiffersInDatabase (reader : TomlReader Other) (sha256 : List Char → String)
    (base : LoadedConfig Other) (written : List Char) (database : PathBuf) : Prop :=
  ∃ copy, load reader sha256 written = .ok copy ∧
    copy.settings = base.settings.withDatabase database

/-- Either the database stays the same, or the text that is replaced is the one that holds it, and
the characters of the new path stand for themselves. -/
def ReplacesValue (reader : TomlReader Other) (source : List Char) (original database : PathBuf) :
    Prop :=
  original = database ∨ AtValue reader source original ∧ Plain database.text.toList

theorem Ordinary.plain {text : List Char} (h : Ordinary text) : Plain text := by
  intro c hc
  rcases h.2 c hc with halnum | hother
  · have hrange : 48 ≤ c.toNat ∧ c.toNat ≤ 122 := by
      have hupper : c.isUpper = decide (65 ≤ c.val ∧ c.val ≤ 90) := rfl
      have hlower : c.isLower = (decide (97 ≤ c.val) && decide (c.val ≤ 122)) := rfl
      have halpha : c.isAlpha = (c.isUpper || c.isLower) := rfl
      simp only [Char.isAlphanum, halpha, hupper, hlower, Char.isDigit,
        Bool.or_eq_true, Bool.and_eq_true, decide_eq_true_eq, UInt32.le_iff_toNat_le] at halnum
      have hval : c.toNat = c.val.toNat := rfl
      simp at halnum
      omega
    refine ⟨?_, ?_, .inr ⟨by omega, by omega⟩⟩
    · rintro rfl
      cases halnum
    · rintro rfl
      cases halnum
  · have hcases : c = '/' ∨ c = '.' ∨ c = '_' ∨ c = '-' := by simpa using hother
    rcases hcases with rfl | rfl | rfl | rfl <;> decide

/-- **When the configuration of an inspection differs in the database only.** Where the two paths
are ordinary, the condition is exact. -/
theorem writeInspectionConfig_differs (hreader : reader.Documented)
    (h : writeInspectionConfig reader sha256 source database = .ok (written, hash))
    {base : LoadedConfig Other} (hbase : load reader sha256 source = .ok base) :
    (ReplacesValue reader source base.settings.config.general.databasePath database →
      DiffersInDatabase reader sha256 base written database) ∧
    (Ordinary base.settings.config.general.databasePath.text.toList →
      Ordinary database.text.toList →
      (DiffersInDatabase reader sha256 base written database ↔
        ReplacesValue reader source base.settings.config.general.databasePath database)) := by
  obtain ⟨base', copy, hbase', hcopy, before, behind, hsplit, hwritten⟩ :=
    writeInspectionConfig_eq_ok h
  obtain rfl := Except.ok.inj (hbase.symm.trans hbase')
  have hsource := splitOnceAt_eq_some hsplit
  have hread := (load_eq_ok.1 hbase).1
  have hreadCopy := (load_eq_ok.1 hcopy).1
  have henough : ReplacesValue reader source base.settings.config.general.databasePath database →
      DiffersInDatabase reader sha256 base written database := by
    rintro (hsame | ⟨⟨before', behind', hsplit', hvalue⟩, hplain⟩)
    · -- the text is replaced by itself
      rw [hsame] at hsource
      rw [← hwritten] at hsource
      rw [← hsource, ← hsame]
      exact ⟨base, hbase, rfl⟩
    · obtain ⟨rfl, rfl⟩ := Prod.mk.inj (Option.some.inj (hsplit.symm.trans hsplit'))
      have hreplaced := hreader.replaced database.text.toList hread hvalue hplain
      refine ⟨copy, hcopy, ?_⟩
      have htext : before ++ key ++ quoted database.text.toList ++ behind = written := by
        rw [hwritten, assignment, ← List.append_assoc]
      rw [htext, hreadCopy, String.ofList_toList] at hreplaced
      exact Except.ok.inj hreplaced
  refine ⟨henough, fun hordinary hordinary' => ⟨?_, henough⟩⟩
  rintro ⟨copy', hcopy', hsettings⟩
  obtain rfl := Except.ok.inj (hcopy.symm.trans hcopy')
  -- a replacement in another place leaves the value of the key as it was
  by_contra hnot
  obtain ⟨hne, hnot⟩ := not_or.1 hnot
  have helse : reader.databaseValue source ≠
      (before ++ key, quoted base.settings.config.general.databasePath.text.toList, behind) := by
    intro hvalue
    exact hnot ⟨⟨before, behind, hsplit, hvalue⟩, hordinary'.plain⟩
  rw [hsource] at hread helse
  rw [hwritten] at hreadCopy
  have hkept := hreader.elsewhere hordinary hordinary' hread (by simp) helse hreadCopy
  rw [hsettings] at hkept
  exact hne hkept.symm

end Copies

/-! ## §5 A reader, and a copy that keeps the database -/

/-- The shipped configuration without its database, and the section for that at the end. -/
@[irreducible] def shippedToml : String :=
  String.join [
    "[cgroups]\nenabled = false\ndry_run = true\nallow_move = false\nrollback_on_exit = true\n",
    "recover_unclean_session = true\nforeground_min_percent = 5\nforeground_max_percent = 40\n",
    "background_high_min_percent = 20\nbackground_high_max_percent = 80\n",
    "minimum_headroom_percent = 10\nallowed_identities = []\n\n[telemetry]\n",
    "process_sample_interval_ms = 5000\nsmaps_rollup_interval_ms = 60000\n",
    "smaps_rollup_budget = 32\nretention_days = 7\nretention_interval_ms = 3600000\n",
    "sqlite_batch_size = 512\n\n[classification]\ninterval_ms = 5000\n",
    "minimum_confidence = 0.65\nconfirmation_samples = 3\nbrowser_heavy_process_count = 8\n",
    "browser_heavy_memory_percent = 15.0\nvirtualization_memory_percent = 10.0\n",
    "gaming_background_memory_percent = 20.0\nprotected_executables = []\n",
    "critical_executables = []\ngame_executables = []\n\n[safety]\n",
    "max_cpu_overhead_percent = 5.0\nmax_io_write_mib_per_second = 100\n",
    "rollback_on_daemon_exit = true\nrollback_on_error = true\nprotect_foreground = true\n\n",
    "[pressure]\nwatch_available_percent = 20\npressure_available_percent = 12\n",
    "critical_available_percent = 7\nemergency_available_percent = 3\n",
    "psi_some_avg10_threshold = 10.0\npsi_full_avg10_threshold = 2.0\n",
    "emergency_psi_full_avg10_threshold = 10.0\nmajor_fault_rate_threshold = 100.0\n",
    "swap_in_rate_threshold = 128.0\nswap_out_rate_threshold = 128.0\nstate_hold_seconds = 10\n",
    "recovery_hold_seconds = 30\n\n[policy]\nenabled = true\nevaluation_interval_ms = 5000\n",
    "decision_heartbeat_seconds = 300\n\n[compression]\nbackend = \"detect\"\n",
    "preferred_low_latency = \"lz4\"\npreferred_capacity = \"zstd\"\nenabled = true\n",
    "active_profile = \"safe\"\ndry_run = true\nallow_runtime_reconfigure = false\n",
    "allow_persistent_reconfigure = false\nmax_zram_percent_ram = 100\n",
    "safe_headroom_percent = 15\nbenchmark_enabled = false\nbenchmark_max_bytes = 67108864\n",
    "max_cpu_overhead_percent = 2.0\nmin_capacity_gain_percent = 10.0\n\n[tiering]\n",
    "enabled = true\ndry_run = true\npreferred_backend = \"detect\"\n",
    "allow_runtime_reconfigure = false\nallow_persistent_reconfigure = false\n",
    "allow_swapfile_create = false\nsupported_storage_profiles = [\"nvme_ssd\", \"sata_ssd\"]\n",
    "max_swapfile_percent_disk = 10\nmin_free_disk_gib = 32\nmax_write_mib_per_second = 100\n",
    "daily_write_budget_gib = 64\nbenchmark_enabled = false\nbenchmark_max_bytes = 67108864\n",
    "zswap_pool_min_percent = 5\nzswap_pool_max_percent = 20\nallow_shrinker = false\n",
    "comparison_enabled = false\ncomparison_max_latency_regression_percent = 10\n",
    "comparison_min_useful_benefit_percent = 5\n",
    "comparison_accepted_confidence = \"bounded-physical-device-attributed\"\n\n[ksm]\n",
    "enabled = false\nlive_apply=false # Phase 9 plan-only\n",
    "profiles = [\"vm\", \"browser\", \"electron\"]\nmin_observation_seconds = 30\n",
    "min_mergeable_bytes = 33554432\nmax_cpu_overhead_percent = 0.8\n",
    "min_process_profit_bytes = 4096\nmin_system_profit_bytes = 4096\n",
    "max_cow_events_per_second = 64\ninefficiency_windows = 3\ncooldown_seconds = 300\n",
    "scanner_pages_to_scan_min = 50\nscanner_pages_to_scan_max = 1000\n",
    "scanner_sleep_millisecs_min = 10\nvalidation_max_seconds = 120\n",
    "validation_max_bytes = 268435456\n\n[damon]\nenabled = false\nmode = \"monitor_only\"\n",
    "allow_monitor_session = false\npreferred_operation = \"vaddr\"\nsample_us = 5000\n",
    "aggr_us = 100000\nupdate_us = 1000000\nmin_regions = 10\nmax_regions = 1000\n",
    "max_cpu_overhead_percent = 1.0\nmax_session_seconds = 120\n",
    "max_samples_per_session = 100000\nretention_days = 7\nexport_max_bytes = 67108864\n",
    "max_action_time_ms = 5\nmax_action_bytes = 268435456\n\n[damos]\nenabled = false\n",
    "live_apply = false\nmin_complete_cold_windows = 3\nrefault_window_seconds = 30\n",
    "blacklist_seconds = 300\nmax_total_applied_bytes = 268435456\napply_interval_us = 500000\n",
    "\n[gaming]\nauto_detect = true\nprotect_gamescope = true\nprotect_steam = true\n",
    "background_reclaim = true\n\n[general]\nmode = \"observe\"\nsample_interval_ms = 1000\n",
    "allow_automatic_actions = false\n"]

/-- What is in front of the comment on the database. All strings are literal ones here. -/
def preface : List Char := (shippedToml ++ "# ").toList.map fun c => if c = '"' then '\'' else c

/-- The shipped configuration with a comment and a value for the database. -/
def shippedText (comment value : List Char) : List Char :=
  preface ++ key ++ quoted comment ++ '\n' :: key ++ value

/-- The section `gaming`, which nothing here reads. -/
structure GamingConfig where
  autoDetect : Bool
  protectGamescope : Bool
  protectSteam : Bool
  backgroundReclaim : Bool

/-- The settings of the shipped file. -/
def shippedSettings : Settings GamingConfig := ⟨shippedConfig, ⟨true, true, true, true⟩⟩

/-- The comment and the value in a text of this kind. -/
def readSides (text : List Char) : Option (List Char × List Char) := do
  let rest ← stripPrefix (preface ++ key ++ ['"']) text
  let comment := rest.takeWhile (· ≠ '"')
  let value ← stripPrefix ('"' :: '\n' :: key) (rest.drop comment.length)
  return (comment, value)

/-- A literal string of TOML, without escapes. -/
def literal (text : List Char) : List Char := '\'' :: text ++ ['\'']

instance decidablePlain (text : List Char) : Decidable (Plain text) :=
  inferInstanceAs (Decidable (∀ c ∈ text, _))

/-- A basic or a literal string. -/
def readString (value : List Char) : Option (List Char) :=
  let text := value.tail.dropLast
  if Plain text ∧ (value = quoted text ∨ '\'' ∉ text ∧ value = literal text) then some text
  else none

/-- What a parser makes of the two places. -/
def readSettings (text : List Char) : Option (Settings GamingConfig) := do
  let (comment, value) ← readSides text
  let path ← readString value
  if Plain comment then some (shippedSettings.withDatabase ⟨String.ofList path⟩) else none

/-- Where the value stands in the text. -/
def placeOf : Option (List Char × List Char) → List Char × List Char × List Char
  | none => ([], [], [])
  | some (comment, value) => (preface ++ key ++ quoted comment ++ '\n' :: key, value, [])

/-- A parser for the texts below. -/
def shippedReader : TomlReader GamingConfig where
  fromStr text := okOr (readSettings text) "unsupported text"
  databaseValue text := placeOf (readSides text)

theorem not_mem_preface : '"' ∉ preface := by
  unfold preface
  intro hmem
  obtain ⟨c, -, hc⟩ := List.mem_map.1 hmem
  split_ifs at hc with hquote
  · cases hc
  · exact hquote hc

theorem not_mem_key : '"' ∉ key := by decide

theorem Plain.not_mem {text : List Char} (h : Plain text) : '"' ∉ text :=
  fun hmem => (h _ hmem).1 rfl

theorem stripPrefix_eq_some {start text rest : List Char} :
    stripPrefix start text = some rest ↔ text = start ++ rest := by
  unfold stripPrefix
  constructor
  · intro h
    split_ifs at h with hstart
    obtain ⟨tail, htail⟩ := List.isPrefixOf_iff_prefix.1 hstart
    rw [← htail, List.drop_left] at h
    rw [← htail, Option.some.inj h]
  · rintro rfl
    rw [if_pos (List.isPrefixOf_iff_prefix.2 (List.prefix_append _ _)), List.drop_left]

theorem shippedText_eq (comment value : List Char) :
    shippedText comment value =
      (preface ++ key) ++ '"' :: (comment ++ '"' :: ('\n' :: key ++ value)) := by
  simp only [shippedText, quoted, List.append_assoc, List.cons_append, List.nil_append]

theorem drop_takeWhile (p : Char → Bool) (text : List Char) :
    text.drop (text.takeWhile p).length = text.dropWhile p := by
  have htext : text.takeWhile p ++ text.dropWhile p = text := List.takeWhile_append_dropWhile
  calc text.drop (text.takeWhile p).length
      = (text.takeWhile p ++ text.dropWhile p).drop (text.takeWhile p).length := by rw [htext]
    _ = text.dropWhile p := List.drop_left

theorem readSides_eq_some_iff {text comment value : List Char} :
    readSides text = some (comment, value) ↔ '"' ∉ comment ∧ text = shippedText comment value := by
  unfold readSides
  simp only [Option.bind_eq_bind, Option.bind_eq_some_iff, stripPrefix_eq_some, drop_takeWhile]
  constructor
  · rintro ⟨rest, rfl, value', hrest, hsides⟩
    obtain ⟨rfl, rfl⟩ := Prod.mk.inj (Option.some.inj hsides)
    refine ⟨fun hmem => by simpa using List.mem_takeWhile_imp hmem, ?_⟩
    have htext : rest.takeWhile (· ≠ '"') ++ rest.dropWhile (· ≠ '"') = rest :=
      List.takeWhile_append_dropWhile
    rw [hrest] at htext
    rw [shippedText_eq, List.append_assoc (preface ++ key)]
    conv_lhs => rw [← htext]
    rfl
  · rintro ⟨hcomment, rfl⟩
    have htake : (comment ++ '"' :: ('\n' :: key ++ value)).takeWhile (· ≠ '"') = comment := by
      rw [List.takeWhile_append_of_pos, List.takeWhile_cons_of_neg (by simp), List.append_nil]
      intro c hc
      rw [decide_eq_true_eq]
      rintro rfl
      exact hcomment hc
    have hdrop : (comment ++ '"' :: ('\n' :: key ++ value)).dropWhile (· ≠ '"') =
        '"' :: '\n' :: key ++ value := by
      rw [← drop_takeWhile, htake, List.drop_left]
      rfl
    refine ⟨comment ++ '"' :: ('\n' :: key ++ value), ?_, value, hdrop, by rw [htake]; rfl⟩
    rw [shippedText_eq, List.append_assoc (preface ++ key)]
    rfl

/-- Where something that looks like the assignment can stand in such a text. -/
theorem shippedText_eq_append {comment value path before s behind : List Char}
    (hcomment : '"' ∉ comment) (hpath : Plain path)
    (hvalue : value = quoted path ∨ value = literal path)
    (hs : Ordinary s) (h : shippedText comment value = before ++ (key ++ quoted s) ++ behind) :
    (before = preface ∧ comment = s ∧ behind = '\n' :: key ++ value) ∨
      (before = preface ++ key ++ quoted comment ++ ['\n'] ∧ value = quoted s ∧ behind = []) := by
  have hlead : '"' ∉ preface ++ key := by simp [not_mem_preface, not_mem_key]
  have hmid : '"' ∉ '\n' :: key := by simp [not_mem_key]
  have hsplain := hs.plain.not_mem
  have htext : (preface ++ key) ++ '"' :: (comment ++ '"' :: ('\n' :: key ++ value)) =
      (before ++ key) ++ '"' :: (s ++ '"' :: behind) := by
    rw [← shippedText_eq, h]
    simp only [quoted, List.append_assoc, List.cons_append, List.nil_append]
  rcases append_cons_cases hlead htext with ⟨hbefore, hrest⟩ | ⟨d, hbefore, hrest⟩
  · -- in the comment
    rcases append_cons_cases hcomment hrest.symm with ⟨rfl, hbehind⟩ | ⟨d, rfl, -⟩
    · exact .inl ⟨List.append_cancel_right hbefore, rfl, hbehind⟩
    · exact absurd (by simp) hsplain
  · right
    rcases append_cons_cases hcomment hrest with ⟨rfl, hmiddle⟩ | ⟨d, rfl, hmiddle⟩
    · -- between the comment and the value there is a line break
      cases s with
      | nil => exact absurd rfl hs.1
      | cons c s =>
        obtain ⟨rfl, -⟩ := List.cons.inj hmiddle
        rcases hs.2 '\n' (by simp) with h | h
        · cases h
        · exact absurd h (by decide)
    · have hpathquote := hpath.not_mem
      rcases hvalue with rfl | rfl
      · -- in the value: its first quote is the one that opens the text
        rcases append_cons_cases hmid hmiddle with ⟨rfl, hlast⟩ | ⟨e, rfl, hlast⟩
        · rcases append_cons_cases hpathquote hlast.symm with ⟨rfl, rfl⟩ | ⟨e, rfl, -⟩
          · refine ⟨(List.append_left_inj key).1 ?_, rfl, rfl⟩
            rw [hbefore]
            simp only [quoted, List.append_assoc, List.cons_append, List.nil_append]
          · exact absurd (by simp) hsplain
        · rcases append_cons_cases hpathquote hlast with ⟨-, hnil⟩ | ⟨_, -, hnil⟩
          · simp at hnil
          · simp at hnil
      · -- a literal value has no double quote
        have hmem : '"' ∈ '\n' :: key ++ literal path := by
          rw [hmiddle]
          simp
        exact absurd hmem (by simp [literal, not_mem_key, hpathquote])

theorem readString_quoted {path : List Char} (h : Plain path) :
    readString (quoted path) = some path := by
  have hinner : (quoted path).tail.dropLast = path := by simp [quoted]
  simp [readString, hinner, h]

theorem readString_literal {path : List Char} (h : Plain path) (hquote : '\'' ∉ path) :
    readString (literal path) = some path := by
  have hinner : (literal path).tail.dropLast = path := by simp [literal]
  simp [readString, hinner, h, hquote]

theorem readString_eq_some {value path : List Char} (h : readString value = some path) :
    Plain path ∧ (value = quoted path ∨ value = literal path) := by
  unfold readString at h
  dsimp only at h
  split_ifs at h with hvalue
  obtain rfl := Option.some.inj h
  exact ⟨hvalue.1, hvalue.2.imp_right And.right⟩

theorem fromStr_eq_ok {text : List Char} {settings : Settings GamingConfig} :
    shippedReader.fromStr text = .ok settings ↔
      ∃ comment value path, Plain comment ∧ readString value = some path ∧
        text = shippedText comment value ∧
        settings = shippedSettings.withDatabase ⟨String.ofList path⟩ := by
  show okOr (readSettings text) _ = _ ↔ _
  rw [okOr_eq_ok]
  unfold readSettings
  simp only [Option.bind_eq_bind, Option.bind_eq_some_iff]
  constructor
  · rintro ⟨⟨comment, value⟩, hsides, path, hpath, hsettings⟩
    split_ifs at hsettings with hplain
    obtain ⟨-, rfl⟩ := readSides_eq_some_iff.1 hsides
    exact ⟨comment, value, path, hplain, hpath, rfl, (Option.some.inj hsettings).symm⟩
  · rintro ⟨comment, value, path, hplain, hpath, rfl, rfl⟩
    exact ⟨(comment, value), readSides_eq_some_iff.2 ⟨hplain.not_mem, rfl⟩, path, hpath,
      if_pos hplain⟩

theorem databaseValue_shippedText {comment : List Char} (h : Plain comment) (value : List Char) :
    shippedReader.databaseValue (shippedText comment value) =
      (preface ++ key ++ quoted comment ++ '\n' :: key, value, []) := by
  have hsides : readSides (shippedText comment value) = some (comment, value) :=
    readSides_eq_some_iff.2 ⟨h.not_mem, rfl⟩
  show placeOf (readSides (shippedText comment value)) = _
  rw [hsides]
  rfl

/-- The reader does what it is relied on for. -/
theorem shippedReader_documented : shippedReader.Documented where
  replaced := by
    intro text settings before value behind s hread hvalue hplain
    obtain ⟨comment, value', path, hcomment, -, rfl, rfl⟩ := fromStr_eq_ok.1 hread
    rw [databaseValue_shippedText hcomment] at hvalue
    obtain ⟨rfl, hrest⟩ := Prod.mk.inj hvalue
    obtain ⟨-, rfl⟩ := Prod.mk.inj hrest
    rw [fromStr_eq_ok]
    refine ⟨comment, quoted s, s, hcomment, readString_quoted hplain, ?_, rfl⟩
    rw [List.append_nil]
    rfl
  elsewhere := by
    intro before s s' behind settings settings' hs hs' hread hsame helse hread'
    obtain ⟨comment, value, path, hcomment, hpath, htext, rfl⟩ := fromStr_eq_ok.1 hread
    obtain ⟨comment', value', path', hcomment', hpath', htext', rfl⟩ := fromStr_eq_ok.1 hread'
    obtain ⟨hplain, hvalue⟩ := readString_eq_some hpath
    obtain ⟨hplain', hvalue'⟩ := readString_eq_some hpath'
    rcases shippedText_eq_append hcomment.not_mem hplain hvalue hs htext.symm with
      ⟨hbefore, -, hbehind⟩ | ⟨hbefore, rfl, rfl⟩
    · -- the comment was replaced, so the value is still the same
      rcases shippedText_eq_append hcomment'.not_mem hplain' hvalue' hs' htext'.symm with
        ⟨-, -, hbehind'⟩ | ⟨-, -, hnil⟩
      · rw [hbehind] at hbehind'
        obtain rfl := List.append_cancel_left hbehind'
        obtain rfl := Option.some.inj (hpath.symm.trans hpath')
        rfl
      · rw [hbehind] at hnil
        cases hnil
    · rw [htext, databaseValue_shippedText hcomment] at helse
      refine absurd ?_ helse
      rw [hbefore]
      simp only [List.append_assoc, List.cons_append, List.nil_append]

theorem assignment_ofList (path : List Char) :
    assignment ⟨String.ofList path⟩ = key ++ quoted path := by
  rw [assignment, String.toList_ofList]

theorem assignment_ne_nil (path : List Char) : key ++ quoted path ≠ [] := by simp [quoted]

/-- The assignment in front of a value that it holds. -/
theorem split_value {comment path : List Char} (hcomment : Plain comment) (hpath : Ordinary path)
    (hne : comment ≠ path) :
    splitOnceAt (key ++ quoted path) (shippedText comment (quoted path)) =
        some (preface ++ key ++ quoted comment ++ ['\n'], []) ∧
      matchCount (key ++ quoted path) 0 (shippedText comment (quoted path)) = 1 := by
  apply split_of_unique (assignment_ne_nil path)
  · simp only [shippedText, List.append_assoc, List.cons_append, List.nil_append, List.append_nil]
  · intro before behind htext
    rcases shippedText_eq_append hcomment.not_mem hpath.plain (.inl rfl) hpath htext with
      ⟨-, hsame, -⟩ | ⟨hbefore, -, -⟩
    · exact absurd hsame hne
    · exact hbefore

/-- The assignment in a comment, in front of a value that is written as a literal string. -/
theorem split_comment {path : List Char} (hpath : Ordinary path) :
    splitOnceAt (key ++ quoted path) (shippedText path (literal path)) =
        some (preface, '\n' :: key ++ literal path) ∧
      matchCount (key ++ quoted path) 0 (shippedText path (literal path)) = 1 := by
  apply split_of_unique (assignment_ne_nil path)
  · simp only [shippedText, List.append_assoc, List.cons_append]
  · intro before behind htext
    rcases shippedText_eq_append hpath.plain.not_mem hpath.plain (.inr rfl) hpath htext with
      ⟨hbefore, -, -⟩ | ⟨-, hvalue, -⟩
    · exact hbefore
    · simp [literal, quoted] at hvalue

/-- A copy is written where the assignment occurs once and both texts can be loaded. -/
theorem writeInspectionConfig_of_split {Other : Type} {reader : TomlReader Other}
    {sha256 : List Char → String} {source before behind : List Char} {database : PathBuf}
    {base copy : LoadedConfig Other} (hbase : load reader sha256 source = .ok base)
    (hsplit : splitOnceAt (assignment base.settings.config.general.databasePath) source =
        some (before, behind) ∧
      matchCount (assignment base.settings.config.general.databasePath) 0 source = 1)
    (hcopy : load reader sha256 (before ++ assignment database ++ behind) = .ok copy) :
    writeInspectionConfig reader sha256 source database =
      .ok (before ++ assignment database ++ behind, copy.sha256) := by
  have hwritten : replaceFirst (assignment base.settings.config.general.databasePath)
      (assignment database) source = before ++ assignment database ++ behind := by
    rw [replaceFirst, hsplit.1]
  unfold writeInspectionConfig
  refine bind_eq_ok.2 ⟨base, mapError_eq_ok.2 hbase, refuse_bind_eq_ok.2 ⟨by simp [hsplit.2], ?_⟩⟩
  rw [hwritten]
  exact bind_eq_ok.2 ⟨copy, mapError_eq_ok.2 hcopy, rfl⟩

theorem load_shippedText (sha256 : List Char → String) {comment value path : List Char}
    (hcomment : Plain comment) (hvalue : readString value = some path)
    (hvalid : (shippedSettings.withDatabase ⟨String.ofList path⟩).config.validate = .ok ()) :
    load shippedReader sha256 (shippedText comment value) =
      .ok ⟨shippedSettings.withDatabase ⟨String.ofList path⟩,
        sha256 (shippedText comment value)⟩ :=
  load_eq_ok.2 ⟨fromStr_eq_ok.2 ⟨comment, value, path, hcomment, hvalue, rfl, rfl⟩, hvalid, rfl⟩

/-- The path that stands in the shipped file. -/
def productionPath : List Char := "/var/lib/nemor/nemor.db".toList

/-- A path that an older file had. -/
def formerPath : List Char := "/var/lib/nemor/old.db".toList

/-- The path that an observer is to use. -/
def isolatedPath : List Char := "/run/nemor-benchmark-observer-1/nemor-observer.sqlite".toList

theorem ordinary_of_all {text : List Char} (hne : text ≠ [])
    (hall : (text.all fun c => c.isAlphanum || "/._-".toList.contains c) = true) :
    Ordinary text := by
  refine ⟨hne, fun c hc => ?_⟩
  have := List.all_eq_true.1 hall c hc
  simpa using this

theorem ordinary_paths :
    Ordinary productionPath ∧ Ordinary formerPath ∧ Ordinary isolatedPath :=
  ⟨ordinary_of_all (by decide) (by decide), ordinary_of_all (by decide) (by decide),
    ordinary_of_all (by decide) (by decide)⟩

theorem validate_production :
    (shippedSettings.withDatabase ⟨String.ofList productionPath⟩).config.validate = .ok () := by
  decide +kernel

theorem validate_isolated :
    (shippedSettings.withDatabase ⟨String.ofList isolatedPath⟩).config.validate = .ok () := by
  decide +kernel

/-- The shipped configuration with a comment on a former database. -/
theorem copy_of_shipped :
    ∃ written hash base,
      writeInspectionConfig shippedReader (fun _ => "0")
        (shippedText formerPath (quoted productionPath)) ⟨String.ofList isolatedPath⟩ =
          .ok (written, hash) ∧
      load shippedReader (fun _ => "0") (shippedText formerPath (quoted productionPath)) =
        .ok base ∧
      DiffersInDatabase shippedReader (fun _ => "0") base written ⟨String.ofList isolatedPath⟩ := by
  obtain ⟨hproduction, hformer, hisolated⟩ := ordinary_paths
  have hsplit := split_value hformer.plain hproduction (by decide)
  have hbase := load_shippedText (fun _ => "0") hformer.plain (readString_quoted hproduction.plain)
    validate_production
  have hcopy := load_shippedText (fun _ => "0") hformer.plain (readString_quoted hisolated.plain)
    validate_isolated
  have htext : preface ++ key ++ quoted formerPath ++ ['\n'] ++ (key ++ quoted isolatedPath) ++ [] =
      shippedText formerPath (quoted isolatedPath) := by
    simp only [shippedText, List.append_assoc, List.cons_append, List.nil_append, List.append_nil]
  rw [← htext, ← assignment_ofList] at hcopy
  rw [← assignment_ofList] at hsplit
  have hwrite := writeInspectionConfig_of_split hbase hsplit hcopy
  refine ⟨_, _, _, hwrite, hbase, ?_⟩
  apply (writeInspectionConfig_differs shippedReader_documented hwrite hbase).1
  refine .inr ⟨⟨_, _, hsplit.1, ?_⟩, ?_⟩
  · show shippedReader.databaseValue _ = (_, quoted (String.ofList productionPath).toList, [])
    rw [databaseValue_shippedText hformer.plain, String.toList_ofList]
    simp only [List.append_assoc, List.cons_append, List.nil_append]
  · rw [String.toList_ofList]
    exact hisolated.plain

/-- The database in a literal string, behind a comment with the former line: the comment is
replaced. -/
theorem copy_keeps_database :
    ∃ written hash base copy,
      writeInspectionConfig shippedReader (fun _ => "0")
        (shippedText productionPath (literal productionPath)) ⟨String.ofList isolatedPath⟩ =
          .ok (written, hash) ∧
      load shippedReader (fun _ => "0") (shippedText productionPath (literal productionPath)) =
        .ok base ∧
      load shippedReader (fun _ => "0") written = .ok copy ∧
      copy.settings.config.general.databasePath = ⟨String.ofList productionPath⟩ ∧
      ¬DiffersInDatabase shippedReader (fun _ => "0") base written
        ⟨String.ofList isolatedPath⟩ := by
  obtain ⟨hproduction, -, hisolated⟩ := ordinary_paths
  have hsplit := split_comment hproduction
  have hliteral := readString_literal hproduction.plain (by decide)
  have hbase := load_shippedText (fun _ => "0") hproduction.plain hliteral validate_production
  have hcopy := load_shippedText (fun _ => "0") hisolated.plain hliteral validate_production
  -- the key is found in the comment, so the copy changes only the comment
  have htext : preface ++ (key ++ quoted isolatedPath) ++ ('\n' :: key ++ literal productionPath) =
      shippedText isolatedPath (literal productionPath) := by
    simp only [shippedText, List.append_assoc, List.cons_append]
  rw [← htext, ← assignment_ofList] at hcopy
  rw [← assignment_ofList] at hsplit
  have hwrite := writeInspectionConfig_of_split hbase hsplit hcopy
  refine ⟨_, _, _, _, hwrite, hbase, hcopy, rfl, ?_⟩
  rintro ⟨copy, hcopy', hsettings⟩
  obtain rfl := Except.ok.inj (hcopy.symm.trans hcopy')
  have hpath := congrArg (fun settings => settings.config.general.databasePath.text) hsettings
  have hsame : productionPath = isolatedPath := String.ofList_inj.1 hpath
  exact absurd hsame (by decide)

end Nemor.Performance.InspectionConfig
