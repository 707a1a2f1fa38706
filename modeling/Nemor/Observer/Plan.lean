import Nemor.Lib.Fallible
import Nemor.Lib.UnixPath

/-!
# The plan of an observer service

An observer runs as a transient service from two files that are staged in `/run` for it alone, an
executable and a configuration. All names of one run carry the same suffix. A plan is used only
when its names are the generated ones; the removal of a staged file refuses everything else, and
for the names of a valid plan it refuses nothing.

- §1: names
- §2: plans
- §3: the names of a valid plan
-/

namespace Nemor.Observer

open UnixPath Fallible

/-! ## §1 Names -/

/-- The directory of runtime files. -/
def runtimeBase : PathBuf := ⟨"/run"⟩

/-- The database of the daemon, which an observer never opens. -/
def productionDatabase : PathBuf := ⟨"/var/lib/nemor/nemor.db"⟩

/-- `OBSERVER_PREFIX`. -/
def observerLead : String := "nemor-benchmark-observer-"

/-- `STAGED_BINARY_PREFIX`. -/
def stagedBinaryLead : String := "nemor-benchmark-observer-bin-"

/-- `STAGED_CONFIG_PREFIX`. -/
def stagedConfigLead : String := "nemor-benchmark-observer-config-"

/-- The length counts bytes, and all of them are ASCII. -/
def isSafeTransactionSuffix (suffix : List Char) : Bool :=
  !suffix.isEmpty && suffix.length ≤ 32 && suffix.all Char.isAlphanum

/-- The name is an observer's, short and of plain characters. -/
def validateObserverUnitName (name : String) : Except String Unit :=
  match (name.toList.dropPrefix? observerLead.toList).bind (·.dropSuffix? ".service".toList) with
  | none => .error "unit is outside the benchmark observer service prefix"
  | some suffix =>
    refuse (isSafeTransactionSuffix suffix = false) "malformed generated observer service name"

/-- A path that `remove_staged_input` is willing to remove, as far as its name goes. -/
def isStagedInput (path : PathBuf) (lead : String) : Bool :=
  path.parent == some runtimeBase.components &&
    ((path.fileName.bind (·.dropPrefix? lead.toList)).any fun suffix =>
      isSafeTransactionSuffix ((suffix.dropSuffix? ".toml".toList).getD suffix))

/-! ## §2 Plans -/

/-- The longest life of an observer that is validated. -/
def serviceRuntimeMaxUsec : UInt64 := 20000000

/-- The longest life of an observer that measures. -/
def performanceServiceRuntimeMaxUsec : UInt64 := 60000000

/-- How long a start or a stop may take. -/
def serviceTimeoutUsec : UInt64 := 5000000

/-- A transient service: what it runs, and what it may touch. -/
structure ObserverServicePlan where
  unitName : String
  binary : PathBuf
  serviceBinary : PathBuf
  config : PathBuf
  serviceConfig : PathBuf
  database : PathBuf
  runtimeDirectory : String
  runtimeMaxUsec : UInt64
  timeoutStartUsec : UInt64
  timeoutStopUsec : UInt64

/-- The suffix of a run, taken from its runtime directory. -/
def transactionSuffix (runtimeDirectory : String) : Except String (List Char) :=
  -- the suffix comes from the directory; the other names must be the ones generated from it
  match (runtimeDirectory.toList.dropPrefix? observerLead.toList).filter
      isSafeTransactionSuffix with
  | none => .error "invalid observer transaction suffix"
  | some suffix => .ok suffix

/-- A staged name with its suffix. -/
def stagedPath (lead : String) (suffix : List Char) (ending : String) : PathBuf :=
  runtimeBase.join (String.ofList (lead.toList ++ suffix ++ ending.toList))

namespace ObserverServicePlan

/-- The names of a plan are the ones generated from a suffix. -/
def hasGeneratedRoles (plan : ObserverServicePlan) (suffix : List Char) : Bool :=
  let expectedRuntime := observerLead ++ String.ofList suffix
  let expectedServiceDir := runtimeBase.join expectedRuntime
  plan.runtimeDirectory == expectedRuntime &&
    plan.unitName == expectedRuntime ++ ".service" &&
    plan.binary == stagedPath stagedBinaryLead suffix "" &&
    plan.config == stagedPath stagedConfigLead suffix ".toml" &&
    plan.serviceBinary == expectedServiceDir.join "nemord" &&
    plan.serviceConfig == expectedServiceDir.join "observer.toml" &&
    plan.database == expectedServiceDir.join "nemor-observer.sqlite"

/-- The paths, the names and the lifetime of the service are those of an observer. -/
def validate (plan : ObserverServicePlan) : Except String Unit := do
  validateObserverUnitName plan.unitName
  refuse (!plan.binary.isAbsolute || !plan.config.isAbsolute || !plan.serviceBinary.isAbsolute ||
      !plan.serviceConfig.isAbsolute)
    "observer binary and config paths must be absolute"
  refuse (!(plan.binary.parent == some runtimeBase.components &&
      ((plan.binary.fileName.bind (·.dropPrefix? stagedBinaryLead.toList)).any
        isSafeTransactionSuffix)))
    "observer bind source must be the fixed staged executable role"
  refuse (plan.runtimeDirectory.toList.contains '/' || contains plan.runtimeDirectory "..")
    "invalid observer RuntimeDirectory basename"
  let suffix ← transactionSuffix plan.runtimeDirectory
  refuse (!plan.hasGeneratedRoles suffix)
    "observer transaction paths do not match exact generated roles"
  refuse (plan.database == productionDatabase) "observer database is not transaction-isolated"
  refuse (plan.runtimeMaxUsec = 0 ∨ plan.runtimeMaxUsec > performanceServiceRuntimeMaxUsec ∨
      plan.timeoutStartUsec > serviceTimeoutUsec ∨ plan.timeoutStopUsec > serviceTimeoutUsec)
    "observer lifecycle bounds exceed Checkpoint 3A-P limits"

end ObserverServicePlan

/-! ## §3 The names of a valid plan -/

theorem all_isAlphanum_of_safe {suffix : List Char} (h : isSafeTransactionSuffix suffix = true) :
    ∀ c ∈ suffix, c.isAlphanum = true := by
  unfold isSafeTransactionSuffix at h
  rw [Bool.and_eq_true] at h
  exact List.all_eq_true.1 h.2

theorem not_mem_of_safe {suffix : List Char} (h : isSafeTransactionSuffix suffix = true) {c : Char}
    (hc : c.isAlphanum = false) : c ∉ suffix := by
  intro hmem
  rw [all_isAlphanum_of_safe h c hmem] at hc
  cases hc

/-- A staged name is a file of `/run`. -/
theorem components_stagedPath {suffix : List Char} (h : isSafeTransactionSuffix suffix = true)
    {lead ending : String} (hlead : '/' ∉ lead.toList) (hending : '/' ∉ ending.toList)
    (hlen : 2 < lead.toList.length) :
    (stagedPath lead suffix ending).components =
      [.rootDir, .normal "run".toList, .normal (lead.toList ++ suffix ++ ending.toList)] := by
  have hname : '/' ∉ lead.toList ++ suffix ++ ending.toList := by
    have := not_mem_of_safe h (c := '/') (by decide)
    simp [hlead, hending, this]
  have hlong : 2 < (lead.toList ++ suffix ++ ending.toList).length := by
    simp only [List.length_append]
    omega
  -- neither empty nor a dot or two: the name is longer than those
  have hne : ∀ short : List Char, short.length ≤ 2 →
      lead.toList ++ suffix ++ ending.toList ≠ short := by
    intro short hshort heq
    rw [heq] at hlong
    omega
  exact PathBuf.components_join "run".toList _ (by decide) (by decide) (by decide) (by decide) hname
    (hne _ (by decide)) (hne _ (by decide)) (hne _ (by decide))

theorem runtimeBase_components : runtimeBase.components = [.rootDir, .normal "run".toList] := by
  decide

/-- A staged name is one that the removal accepts. -/
theorem isStagedInput_of_components {path : PathBuf} {suffix : List Char} {lead ending : String}
    (h : isSafeTransactionSuffix suffix = true) (hending : ending = "" ∨ ending = ".toml")
    (hpath : path.components =
      [.rootDir, .normal "run".toList, .normal (lead.toList ++ suffix ++ ending.toList)]) :
    isStagedInput path lead = true := by
  have hname : path.fileName = some (lead.toList ++ suffix ++ ending.toList) := by
    simp [PathBuf.fileName, hpath]
  have hparent : path.parent = some runtimeBase.components := by
    simp [PathBuf.parent, hpath, runtimeBase_components]
  have hrest : (lead.toList ++ suffix ++ ending.toList).dropPrefix? lead.toList =
      some (suffix ++ ending.toList) := by
    rw [List.append_assoc]
    exact List.dropPrefix?_append_of_beq _ (beq_self_eq_true _)
  have hstrip : ((suffix ++ ending.toList).dropSuffix? ".toml".toList).getD
      (suffix ++ ending.toList) = suffix := by
    rcases hending with rfl | rfl
    · -- a safe suffix has no dot, so it does not end as a configuration does
      have hnone : suffix.dropSuffix? ".toml".toList = none := by
        rw [← Option.not_isSome_iff_eq_none, Option.isSome_iff_exists]
        rintro ⟨rest, hrest⟩
        obtain ⟨tail, htail, heq⟩ := List.dropSuffix?_eq_some_iff.1 hrest
        apply not_mem_of_safe h (c := '.') (by decide)
        rw [htail, beq_iff_eq.1 heq]
        simp
      show ((suffix ++ []).dropSuffix? ".toml".toList).getD (suffix ++ []) = suffix
      rw [List.append_nil, hnone]
      rfl
    · rw [List.dropSuffix?_eq_some_iff.2 ⟨_, rfl, beq_self_eq_true _⟩]
      rfl
  unfold isStagedInput
  rw [hparent, hname, Option.bind_some, hrest, Option.any_some, hstrip, h]
  simp only [beq_self_eq_true, Bool.and_self]

theorem ObserverServicePlan.exists_suffix_of_validate {plan : ObserverServicePlan}
    (h : plan.validate = .ok ()) :
    ∃ suffix, isSafeTransactionSuffix suffix = true ∧ plan.hasGeneratedRoles suffix = true := by
  unfold ObserverServicePlan.validate at h
  obtain ⟨_, -, h⟩ := bind_eq_ok.1 h
  obtain ⟨-, h⟩ := refuse_bind_eq_ok.1 h
  obtain ⟨-, h⟩ := refuse_bind_eq_ok.1 h
  obtain ⟨-, h⟩ := refuse_bind_eq_ok.1 h
  obtain ⟨suffix, hsuffix, h⟩ := bind_eq_ok.1 h
  obtain ⟨hroles, -⟩ := refuse_bind_eq_ok.1 h
  refine ⟨suffix, ?_, by simpa using hroles⟩
  unfold transactionSuffix at hsuffix
  split at hsuffix
  · cases hsuffix
  · rename_i hfilter
    obtain rfl := Except.ok.inj hsuffix
    exact (Option.filter_eq_some_iff.1 hfilter).2

/-- The files that a valid plan stages, by their components. -/
theorem ObserverServicePlan.staged_components {plan : ObserverServicePlan}
    (h : plan.validate = .ok ()) :
    ∃ suffix, isSafeTransactionSuffix suffix = true ∧
      plan.binary.components = [.rootDir, .normal "run".toList,
        .normal (stagedBinaryLead.toList ++ suffix ++ "".toList)] ∧
      plan.config.components = [.rootDir, .normal "run".toList,
        .normal (stagedConfigLead.toList ++ suffix ++ ".toml".toList)] := by
  obtain ⟨suffix, hsafe, hroles⟩ := exists_suffix_of_validate h
  unfold ObserverServicePlan.hasGeneratedRoles at hroles
  simp only [Bool.and_eq_true] at hroles
  obtain ⟨⟨⟨⟨⟨-, hbinary⟩, hconfig⟩, -⟩, -⟩, -⟩ := hroles
  refine ⟨suffix, hsafe, ?_, ?_⟩
  · rw [PathBuf.beq_iff.1 hbinary]
    exact components_stagedPath hsafe (by decide) (by decide) (by decide)
  · rw [PathBuf.beq_iff.1 hconfig]
    exact components_stagedPath hsafe (by decide) (by decide) (by decide)

theorem ObserverServicePlan.isStagedInput_binary {plan : ObserverServicePlan}
    (h : plan.validate = .ok ()) : isStagedInput plan.binary stagedBinaryLead = true := by
  obtain ⟨suffix, hsafe, hbinary, -⟩ := staged_components h
  exact isStagedInput_of_components hsafe (.inl rfl) hbinary

theorem ObserverServicePlan.isStagedInput_config {plan : ObserverServicePlan}
    (h : plan.validate = .ok ()) : isStagedInput plan.config stagedConfigLead = true := by
  obtain ⟨suffix, hsafe, -, hconfig⟩ := staged_components h
  exact isStagedInput_of_components hsafe (.inr rfl) hconfig

/-- The two staged files are not one file. -/
theorem ObserverServicePlan.binary_ne_config {plan : ObserverServicePlan}
    (h : plan.validate = .ok ()) : plan.binary.components ≠ plan.config.components := by
  obtain ⟨suffix, -, hbinary, hconfig⟩ := staged_components h
  rw [hbinary, hconfig]
  intro heq
  simp [stagedBinaryLead, stagedConfigLead] at heq

end Nemor.Observer
