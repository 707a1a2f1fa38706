import Nemor.Classifier.Identity
import Nemor.Common.Config
import Nemor.Lib.Binary64
import Nemor.Lib.OrderedMap

/-!
# Classification of processes

Each process gets a category, a protection and the evidence for both. The evidence is what its
name says, its control group, and the names of its ancestors among all samples. A game score adds
up the hints; whatever sets a flag, the protection is derived after all of them.
-/

namespace Nemor.Classifier

open MachineNumbers Text UnixPath
open Common (ClassificationConfig)
open Policy (ForegroundState)

/-! ## §1 Names -/

/-- What a process is taken for. -/
inductive ProcessCategory where
  | unknown
  | system
  | critical
  | desktop
  | browser
  | development
  | game
  | virtualization
  | background
  deriving DecidableEq

/-- The name of a category in reports and tables. -/
def ProcessCategory.text : ProcessCategory → String
  | .unknown => "unknown"
  | .system => "system"
  | .critical => "critical"
  | .desktop => "desktop"
  | .browser => "browser"
  | .development => "development"
  | .game => "game"
  | .virtualization => "virtualization"
  | .background => "background"

theorem ProcessCategory.text_injective : Function.Injective ProcessCategory.text := by
  intro c d
  cases c <;> cases d <;> decide

/-- Names that are never touched. -/
def criticalNames : List String :=
  ["init", "systemd", "dbus-daemon", "networkmanager", "pipewire", "wireplumber", "kwin_wayland",
    "gnome-shell", "sddm", "gdm", "gamescope", "easyanticheat", "easyanticheat_eos", "battleye",
    "beservice_x64"]

/-- Names of system services. -/
def systemNames : List String := ["systemd-journald", "systemd-logind", "udevd", "kworker"]

/-- Names of indexers. -/
def backgroundNames : List String := ["tracker-miner-fs-3", "baloo_file", "updatedb"]

/-- `starts_with`. -/
def startsWith (name start : String) : Bool := start.toList.isPrefixOf name.toList

/-- A configured name, in any letter case. -/
def containsName (values : List String) (name : String) : Bool :=
  values.any fun value => toAsciiLowercase value.toList == toAsciiLowercase name.toList

/-- A browser family, or a member of it. -/
def isBrowser (name : String) : Bool :=
  ["firefox", "chrome", "chromium", "google-chrome", "brave", "brave-browser", "vivaldi",
    "vivaldi-bin", "opera", "msedge"].any fun family =>
      name == family || startsWith name (family ++ "-")

/-- Editors, compilers and debuggers. -/
def isDevelopment (name : String) : Bool :=
  ["code", "codium", "rustc", "cargo", "gcc", "g++", "clang", "clang++", "cmake", "ninja",
    "rust-analyzer", "clangd", "gdb", "lldb"].contains name ||
      startsWith name "idea" || startsWith name "clion"

/-- Virtual machines. -/
def isVirtualization (name : String) : Bool :=
  startsWith name "qemu-system" || ["virtualboxvm", "vmware-vmx", "vmware"].contains name

/-- Programs of the desktop. -/
def isDesktop (name : String) : Bool :=
  ["plasmashell", "konsole", "gnome-terminal-server", "dolphin", "nautilus"].contains name

/-- The launcher and its own processes. -/
def isSteam (name : String) : Bool :=
  ["steam", "steamwebhelper", "steam-runtime"].contains name

/-- Processes of the launcher that are no game, the container included. -/
def isSteamHelper (name : String) : Bool :=
  ["steam", "steamwebhelper", "steam-runtime", "pressure-vessel"].contains name

/-- Programs that run a game of another system. -/
def isProtonOrWine (name : String) : Bool := contains name "proton" || startsWith name "wine"

/-- Whatever runs beside a game and is none. -/
def isKnownHelper (name : String) : Bool :=
  isSteamHelper name || isProtonOrWine name || name == "gamescope"

/-! ## §2 Ancestors and control groups -/

/-- The names of the ancestors that were sampled, up to `fuel` generations back and once around
    a cycle. -/
def ancestorNames (names : UInt32 → Option String) (parents : UInt32 → Option UInt32) :
    ℕ → UInt32 → List UInt32 → List String
  | 0, _, _ => []
  | fuel + 1, current, seen =>
    if current ∈ seen then []
    else
      match parents current with
      | none => []
      | some parent =>
        (names parent).toList ++ ancestorNames names parents fuel parent (current :: seen)

/-- The control group in lower case, empty if it is not known. -/
def ProcessSample.cgroup (s : ProcessSample) : String :=
  String.ofList (toAsciiLowercase (s.cgroupPath.getD "").toList)

/-- The scope that Steam makes for an application of its own. -/
def isAppIdCgroup (cgroup : String) : Bool := contains cgroup "steam_app_"

/-- A scope of a desktop application with Steam in its name. -/
def isSteamScope (cgroup : String) : Bool :=
  contains cgroup "/app-" && contains cgroup "steam" && contains cgroup ".scope"

/-! ## §3 The game score -/

/-- The hints that raise the game score, in the order in which they are added. -/
structure GameEvidence where
  configuredGame : Bool
  steamAppCgroup : Bool
  steamAncestry : Bool
  protonWineWithSteamContext : Bool
  gamescopeAncestry : Bool
  deriving DecidableEq

/-- What speaks for a game. -/
def gameEvidence (s : ProcessSample) (name : String) (ancestors : List String)
    (config : ClassificationConfig) : GameEvidence :=
  let steamContext := ancestors.any isSteam
  let gamescopeContext := ancestors.contains "gamescope"
  let steamAppCgroup := isAppIdCgroup s.cgroup || isSteamScope s.cgroup
  { configuredGame := containsName config.gameExecutables name
    steamAppCgroup := steamAppCgroup && !isBrowser name
    steamAncestry := steamContext && !isBrowser name && !isSteamHelper name
    protonWineWithSteamContext := isProtonOrWine name && steamAppCgroup
    gamescopeAncestry :=
      gamescopeContext && !isBrowser name && !isDevelopment name && !isKnownHelper name }

/-- `score += value`, if there is the hint. -/
def raise (hint : Bool) (percent : ℚ) (score : F64) : F64 :=
  if hint then score.add (F64.ofRat (percent / 100)) else score

/-- How much the evidence says together, at most one. -/
def GameEvidence.score (e : GameEvidence) : F64 :=
  let score := if e.configuredGame then F64.max (.finite 0) (F64.ofRat (95 / 100)) else .finite 0
  let score := raise e.steamAppCgroup 65 score
  let score := raise e.steamAncestry 20 score
  let score := raise e.protonWineWithSteamContext 20 score
  let score := raise e.gamescopeAncestry 80 score
  score.min (.finite 1)

/-- The codes of the evidence, in the order of the source. -/
def GameEvidence.reasons (e : GameEvidence) : List String :=
  (if e.configuredGame then ["configured_game_executable"] else []) ++
    (if e.steamAppCgroup then ["steam_app_cgroup"] else []) ++
    (if e.steamAncestry then ["steam_ancestry"] else []) ++
    (if e.protonWineWithSteamContext then ["proton_wine_with_steam_context"] else []) ++
    if e.gamescopeAncestry then ["gamescope_ancestry"] else []

/-! ## §4 The classification -/

/-- A sample with what it is taken for. -/
structure ProcessClassification where
  sample : ProcessSample
  executable : String
  commandSignature : String
  applicationName : Option String
  category : ProcessCategory
  isGame : Bool
  isCritical : Bool
  isProtected : Bool
  protectedGame : Bool
  coldCandidate : Bool
  foreground : ForegroundState
  foregroundConfidence : F64
  confidence : F64
  reasons : List String

/-- The group of the terminal against the group of the process. -/
def foregroundState (s : ProcessSample) (gamescopeGame : Bool) : ForegroundState × F64 :=
  if gamescopeGame then (.foreground, F64.ofRat (85 / 100))
  else
    match s.ttyNr, s.processGroupId, s.foregroundProcessGroupId with
    | some tty, some group, some foregroundGroup =>
      if 0 < tty ∧ 0 < foregroundGroup then
        if group = foregroundGroup then (.foreground, F64.ofRat (98 / 100))
        else (.background, F64.ofRat (95 / 100))
      else (.unknown, .finite 0)
    | _, _, _ => (.unknown, .finite 0)

/-- What the name alone says. -/
def categoryByName (name : String) : ProcessCategory × F64 :=
  if isBrowser name then (.browser, F64.ofRat (90 / 100))
  else if isDevelopment name then (.development, F64.ofRat (88 / 100))
  else if isVirtualization name then (.virtualization, F64.ofRat (90 / 100))
  else if backgroundNames.contains name then (.background, F64.ofRat (85 / 100))
  else if systemNames.contains name || startsWith name "kworker" then
    (.system, F64.ofRat (90 / 100))
  else if isDesktop name then (.desktop, F64.ofRat (85 / 100))
  else (.unknown, F64.ofRat (25 / 100))

/-- The category by precedence, before the confidence is looked at. -/
def categoryOf (name : String) (critical isGame : Bool) (gameScore : F64) :
    ProcessCategory × F64 :=
  if name = "" then (.unknown, .finite 0)
  else if critical then (.critical, F64.ofRat (98 / 100))
  else if isGame then (.game, gameScore)
  else categoryByName name

/-- `classify_one`. -/
def classifyOne (sha256 : String → String) (sample : ProcessSample)
    (config : ClassificationConfig) (names : UInt32 → Option String)
    (parents : UInt32 → Option UInt32) : ProcessClassification :=
  let name := normalizedName sample
  let ancestors := ancestorNames names parents 16 sample.pid []
  let knownIdentity : Bool := name ≠ ""
  let configuredProtected := containsName config.protectedExecutables name
  let critical := containsName config.criticalExecutables name || criticalNames.contains name
  let evidence := gameEvidence sample name ancestors config
  let isGame := knownIdentity && config.minimumConfidence.le evidence.score
  let (category, confidence) := categoryOf name critical isGame evidence.score
  let belowMinimum := !critical && confidence.lt config.minimumConfidence
  let category := if belowMinimum then .unknown else category
  let relation := foregroundState sample (ancestors.contains "gamescope" && isGame)
  let isForeground : Bool := relation.1 = .foreground
  let isProtected := !knownIdentity || decide (category = .unknown) || critical || isGame ||
    configuredProtected || isForeground
  let reasons := evidence.reasons ++
    (if belowMinimum then ["below_minimum_process_confidence"] else []) ++
    (if knownIdentity then [] else ["unknown_identity_protected"]) ++
    (if critical then ["critical_process_protected"] else []) ++
    (if configuredProtected then ["configured_process_protected"] else []) ++
    (if isForeground then ["foreground_process_protected"] else []) ++
    if isGame then ["game_process_protected"] else []
  let (persistentName, commandSignature) := stableIdentity sha256 sample name
  { sample
    executable := persistentName
    commandSignature
    applicationName := if knownIdentity then some persistentName else none
    category
    isGame
    isCritical := critical
    isProtected
    protectedGame := isGame
    coldCandidate := decide (category = .background) && decide (relation.1 = .background) &&
      config.minimumConfidence.le confidence && !isProtected && !isGame && !critical
    foreground := relation.1
    foregroundConfidence := relation.2
    confidence
    reasons := if reasons = [] then ["category_" ++ category.text] else reasons }

/-- The name of each process. Of two samples of one number the later counts. -/
def namesOf (samples : List ProcessSample) : UInt32 → Option String :=
  HashMap.collect (samples.map fun s => (s.pid, normalizedName s))

/-- The parent of each process that has one. -/
def parentsOf (samples : List ProcessSample) : UInt32 → Option UInt32 :=
  HashMap.collect (samples.filterMap fun s => s.parentPid.map fun parent => (s.pid, parent))

/-- `classify_all`: every sample in the light of all. -/
def classifyAll (sha256 : String → String) (samples : List ProcessSample)
    (config : ClassificationConfig) : List ProcessClassification :=
  samples.map fun s => classifyOne sha256 s config (namesOf samples) (parentsOf samples)

/-! ## §5 Protection -/

/-- A game, a critical process, one of which nothing is known, or one in the foreground. -/
def ProcessClassification.Sensitive (c : ProcessClassification) : Prop :=
  c.isGame = true ∨ c.isCritical = true ∨
    c.category ∈ [ProcessCategory.game, .critical, .unknown] ∨ c.foreground = .foreground

/-- What is left alone: protected, and no cold candidate. -/
structure ProcessClassification.LeftAlone (c : ProcessClassification) : Prop where
  isProtected : c.isProtected = true
  notCold : c.coldCandidate = false

section Category

variable {name : String} {critical isGame : Bool} {gameScore : F64}

theorem categoryByName_notMem (name : String) :
    (categoryByName name).1 ∉ [ProcessCategory.game, .critical] := by
  unfold categoryByName
  repeat' split
  all_goals simp

/-- Only the flags make a game or a critical process. -/
theorem categoryOf_flags
    (h : (categoryOf name critical isGame gameScore).1 ∈ [ProcessCategory.game, .critical]) :
    critical = true ∨ isGame = true := by
  unfold categoryOf at h
  split at h
  · simp at h
  · split at h
    · next hcritical => exact .inl hcritical
    · split at h
      · next hgame => exact .inr hgame
      · exact absurd h (categoryByName_notMem name)

end Category

section Protection

variable (sha256 : String → String) (s : ProcessSample) (config : ClassificationConfig)
  (names : UInt32 → Option String) (parents : UInt32 → Option UInt32)

/-- The protection is derived from the other flags and the configured names. -/
theorem isProtected_eq :
    (classifyOne sha256 s config names parents).isProtected =
      (!decide (normalizedName s ≠ "") ||
        decide ((classifyOne sha256 s config names parents).category = .unknown) ||
        (classifyOne sha256 s config names parents).isCritical ||
        (classifyOne sha256 s config names parents).isGame ||
        containsName config.protectedExecutables (normalizedName s) ||
        decide ((classifyOne sha256 s config names parents).foreground = .foreground)) := by
  unfold classifyOne
  rfl

/-- A category that the confidence did not take away is the one by precedence. -/
theorem category_cases :
    (classifyOne sha256 s config names parents).category = .unknown ∨
      ∃ score, (classifyOne sha256 s config names parents).category =
        (categoryOf (normalizedName s) (classifyOne sha256 s config names parents).isCritical
          (classifyOne sha256 s config names parents).isGame score).1 := by
  unfold classifyOne
  dsimp only
  split
  · exact .inl rfl
  · exact .inr ⟨_, rfl⟩

theorem isProtected_of_sensitive (h : (classifyOne sha256 s config names parents).Sensitive) :
    (classifyOne sha256 s config names parents).isProtected = true := by
  have hderived := isProtected_eq sha256 s config names parents
  have hcategory := category_cases sha256 s config names parents
  generalize classifyOne sha256 s config names parents = c at *
  simp only [hderived, Bool.or_eq_true, decide_eq_true_eq]
  rcases h with hgame | hcritical | hlisted | hforeground
  · simp [hgame]
  · simp [hcritical]
  · rcases hcategory with hunknown | ⟨score, hcategory⟩
    · simp [hunknown]
    · by_cases hunknown : c.category = .unknown
      · simp [hunknown]
      · have hflag : c.category ∈ [ProcessCategory.game, .critical] := by
          simpa [hunknown] using hlisted
        rcases categoryOf_flags (hcategory ▸ hflag) with hcritical | hgame
        · simp [hcritical]
        · simp [hgame]
  · simp [hforeground]

/-- A protected process is no cold candidate. -/
theorem coldCandidate_of_isProtected
    (h : (classifyOne sha256 s config names parents).isProtected = true) :
    (classifyOne sha256 s config names parents).coldCandidate = false := by
  unfold classifyOne at h ⊢
  dsimp only at h ⊢
  rw [h]
  simp

end Protection

/-! ## §6 The order of the samples -/

section Order

variable {sha256 : String → String} {samples samples' : List ProcessSample}
  {config : ClassificationConfig}

theorem namesOf_perm (hdistinct : (samples.map ProcessSample.pid).Nodup)
    (hperm : samples.Perm samples') : namesOf samples = namesOf samples' := by
  apply HashMap.collect_perm _ (hperm.map _)
  rwa [List.map_map]

theorem map_parents_sublist (samples : List ProcessSample) :
    ((samples.filterMap fun s => s.parentPid.map fun parent => (s.pid, parent)).map
      Prod.fst).Sublist (samples.map ProcessSample.pid) := by
  induction samples with
  | nil => exact List.Sublist.refl []
  | cons s samples ih =>
    cases hparent : s.parentPid with
    | none =>
      rw [List.filterMap_cons_none (by rw [hparent]; rfl)]
      exact ih.cons s.pid
    | some parent =>
      rw [List.filterMap_cons_some (by rw [hparent]; rfl)]
      exact ih.cons_cons s.pid

theorem parentsOf_perm (hdistinct : (samples.map ProcessSample.pid).Nodup)
    (hperm : samples.Perm samples') : parentsOf samples = parentsOf samples' :=
  HashMap.collect_perm ((map_parents_sublist samples).nodup hdistinct) (hperm.filterMap _)

theorem classifyAll_perm (hdistinct : (samples.map ProcessSample.pid).Nodup)
    (hperm : samples.Perm samples') :
    (classifyAll sha256 samples config).Perm (classifyAll sha256 samples' config) := by
  unfold classifyAll
  rw [namesOf_perm hdistinct hperm, parentsOf_perm hdistinct hperm]
  exact hperm.map _

/-- What a batch says of each pid. -/
def classificationOf (sha256 : String → String) (samples : List ProcessSample)
    (config : ClassificationConfig) : UInt32 → Option ProcessClassification :=
  HashMap.collect ((classifyAll sha256 samples config).map fun c => (c.sample.pid, c))

theorem map_sample_classifyAll :
    (classifyAll sha256 samples config).map ProcessClassification.sample = samples := by
  unfold classifyAll
  rw [List.map_map]
  exact List.map_id samples

theorem classificationOf_perm (hdistinct : (samples.map ProcessSample.pid).Nodup)
    (hperm : samples.Perm samples') :
    classificationOf sha256 samples config = classificationOf sha256 samples' config := by
  apply HashMap.collect_perm _ ((classifyAll_perm hdistinct hperm).map _)
  have hpids : (classifyAll sha256 samples config).map (fun c => c.sample.pid) =
      samples.map ProcessSample.pid := by
    conv_rhs => rw [← @map_sample_classifyAll sha256 samples config, List.map_map]
    rfl
  rw [List.map_map]
  show ((classifyAll sha256 samples config).map fun c => c.sample.pid).Nodup
  rwa [hpids]

end Order

/-! ## §7 Browsers -/

/-- A minimum confidence that the checks of the configuration let through. -/
def Accepted (config : ClassificationConfig) : Prop :=
  ∃ whole : Common.Config, whole.validate = .ok () ∧ whole.classification = config

/-- What is left of the score when all hints but the one for Wine and Proton are ruled out. -/
theorem half_le_score (protonWine : Bool) :
    F64.le (.finite (1 / 2)) (GameEvidence.mk false false false protonWine false).score =
      false := by
  revert protonWine
  decide +kernel

/-- A browser has no hint of its own, whatever runs above it. -/
theorem gameEvidence_browser {s : ProcessSample} {name : String} {ancestors : List String}
    {config : ClassificationConfig} (hbrowser : isBrowser name = true)
    (hlisted : containsName config.gameExecutables name = false) :
    ∃ protonWine, gameEvidence s name ancestors config =
      ⟨false, false, false, protonWine, false⟩ := by
  refine ⟨(gameEvidence s name ancestors config).protonWineWithSteamContext, ?_⟩
  simp [gameEvidence, hbrowser, hlisted]

theorem not_isGame_of_browser {sha256 : String → String} {s : ProcessSample}
    {config : ClassificationConfig} {names : UInt32 → Option String}
    {parents : UInt32 → Option UInt32} (haccepted : Accepted config)
    (hbrowser : isBrowser (normalizedName s) = true)
    (hlisted : containsName config.gameExecutables (normalizedName s) = false) :
    (classifyOne sha256 s config names parents).isGame = false := by
  obtain ⟨whole, hvalid, rfl⟩ := haccepted
  obtain ⟨protonWine, hevidence⟩ := @gameEvidence_browser s (normalizedName s)
    (ancestorNames names parents 16 s.pid []) whole.classification hbrowser hlisted
  unfold classifyOne
  dsimp only
  rw [hevidence, Bool.and_eq_false_iff]
  right
  rw [← Bool.not_eq_true]
  intro hle
  have hhalf := F64.le_trans (Common.Config.validate_minimum hvalid) hle
  rw [half_le_score] at hhalf
  cases hhalf

/-! ## §8 The guarantees -/

/-- **Processes.** What is a game, critical, unknown or in the foreground is protected and no cold
    candidate; with distinct pids the order of the samples does not change what is said of a pid;
    and under an accepted configuration an unlisted browser is no game. -/
theorem classifyAll_guarded (sha256 : String → String) {samples : List ProcessSample}
    (hdistinct : (samples.map ProcessSample.pid).Nodup) (config : ClassificationConfig) :
    (∀ c ∈ classifyAll sha256 samples config, c.Sensitive → c.LeftAlone) ∧
    (∀ samples', samples.Perm samples' →
      classificationOf sha256 samples config = classificationOf sha256 samples' config) ∧
    (Accepted config → ∀ c ∈ classifyAll sha256 samples config,
      isBrowser (normalizedName c.sample) = true →
      containsName config.gameExecutables (normalizedName c.sample) = false →
      c.isGame = false) := by
  refine ⟨?_, fun samples' hperm => classificationOf_perm hdistinct hperm, ?_⟩
  · intro c hc hsensitive
    obtain ⟨s, -, rfl⟩ := List.mem_map.1 hc
    have hprotected := isProtected_of_sensitive _ _ _ _ _ hsensitive
    exact ⟨hprotected, coldCandidate_of_isProtected _ _ _ _ _ hprotected⟩
  · intro haccepted c hc hbrowser hlisted
    obtain ⟨s, -, rfl⟩ := List.mem_map.1 hc
    exact not_isGame_of_browser haccepted hbrowser hlisted

/-- A process of a name, and the pid of its parent. -/
def processNamed (pid : UInt32) (name : String) (parentPid : Option UInt32) : ProcessSample :=
  { blankSample with
    pid, parentPid, executable := some ("/usr/bin/" ++ name), executableName := some name }

/-- A game and a browser below Gamescope. -/
def gamescopeSession : List ProcessSample :=
  [processNamed 20 "gamescope" none, processNamed 21 "native-child" (some 20),
    processNamed 22 "firefox" (some 20)]

/-- The classification of the session. -/
def gamescopeBatch : List ProcessClassification :=
  classifyAll knownDigest gamescopeSession Common.shippedConfig.classification

/-- The child of Gamescope is a game and left alone, the browser is none, and in the reverse order
    the same is said of each. -/
theorem gamescopeSession_guarded :
    gamescopeBatch.map ProcessClassification.isGame = [false, true, false] ∧
    (∀ c ∈ gamescopeBatch, c.isGame = true → c.LeftAlone) ∧
    (∀ pid, classificationOf knownDigest gamescopeSession Common.shippedConfig.classification pid =
      classificationOf knownDigest gamescopeSession.reverse
        Common.shippedConfig.classification pid) ∧
    ∀ c ∈ gamescopeBatch, normalizedName c.sample = "firefox" → c.isGame = false := by
  have hdistinct : (gamescopeSession.map ProcessSample.pid).Nodup := by decide
  obtain ⟨hprotects, horder, hbrowsers⟩ :=
    classifyAll_guarded knownDigest hdistinct Common.shippedConfig.classification
  have haccepted : Accepted Common.shippedConfig.classification :=
    ⟨Common.shippedConfig, Common.validate_shippedConfig, rfl⟩
  refine ⟨by decide +kernel, fun c hc hgame => hprotects c hc (.inl hgame), ?_, ?_⟩
  · intro pid
    exact congrFun (horder _ (List.reverse_perm _).symm) pid
  · intro c hc hname
    exact hbrowsers haccepted c hc (by rw [hname]; decide) (by rw [hname]; rfl)

end Nemor.Classifier
