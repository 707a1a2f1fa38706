import Nemor.Classifier.Process

/-!
# Launchers

Steam, its helpers, Wine and Proton start games and are none. Their own names raise no score; what
can still make a game of them is the control group. Besides the scope that Steam makes for an
application there is a second pattern, any desktop scope with Steam in its name, and the scope of
the Steam client itself is one.
-/

namespace Nemor.Classifier

open MachineNumbers
open Common (ClassificationConfig)

/-- A Steam, Wine or Proton helper. -/
def isLauncher (name : String) : Bool := isSteamHelper name || isProtonOrWine name

/-- The minimum confidence of the shipped configuration, as a 64-bit number. -/
def defaultMinimumConfidence : F64 := F64.ofRat (65 / 100)

theorem isLauncher_ne_empty {name : String} (h : isLauncher name = true) : name ≠ "" := by
  rintro rfl
  revert h
  decide

/-- Of the hints a launcher can raise, only the control group reaches the minimum. -/
theorem launcher_score (app browser ancestry helper protonWine : Bool) :
    defaultMinimumConfidence.le (GameEvidence.mk false (app && !browser)
      (ancestry && !browser && !helper) (protonWine && app) false).score = (app && !browser) := by
  revert app browser ancestry helper protonWine
  decide +kernel

section Launcher

variable {sha256 : String → String} {s : ProcessSample} {config : ClassificationConfig}
  {names : UInt32 → Option String} {parents : UInt32 → Option UInt32}

theorem gameEvidence_launcher {name : String} {ancestors : List String}
    (hlauncher : isLauncher name = true)
    (hlisted : containsName config.gameExecutables name = false) :
    gameEvidence s name ancestors config =
      ⟨false, (isAppIdCgroup s.cgroup || isSteamScope s.cgroup) && !isBrowser name,
        ancestors.any isSteam && !isBrowser name && !isSteamHelper name,
        isProtonOrWine name && (isAppIdCgroup s.cgroup || isSteamScope s.cgroup), false⟩ := by
  have hknown : isKnownHelper name = true := by
    rw [isKnownHelper, Bool.or_eq_true]
    exact .inl hlauncher
  simp [gameEvidence, hlisted, hknown]

/-- A launcher is taken for a game exactly by its control group. -/
theorem isGame_launcher (hlauncher : isLauncher (normalizedName s) = true)
    (hlisted : containsName config.gameExecutables (normalizedName s) = false)
    (hminimum : config.minimumConfidence = defaultMinimumConfidence) :
    (classifyOne sha256 s config names parents).isGame =
      ((isAppIdCgroup s.cgroup || isSteamScope s.cgroup) && !isBrowser (normalizedName s)) := by
  have hname : decide (normalizedName s ≠ "") = true :=
    decide_eq_true (isLauncher_ne_empty hlauncher)
  unfold classifyOne
  dsimp only
  rw [gameEvidence_launcher hlauncher hlisted, hminimum, launcher_score, hname, Bool.true_and]

end Launcher

/-- **Launchers.** Outside a scope that Steam has made for an application, an unlisted launcher is
    not taken for a game exactly when it does not run in a desktop scope with Steam in its name,
    or has the name of a browser too. -/
theorem launcher_not_game_iff (sha256 : String → String) (samples : List ProcessSample)
    {config : ClassificationConfig}
    (hminimum : config.minimumConfidence = defaultMinimumConfidence) :
    ∀ c ∈ classifyAll sha256 samples config, isLauncher (normalizedName c.sample) = true →
      containsName config.gameExecutables (normalizedName c.sample) = false →
      isAppIdCgroup c.sample.cgroup = false →
      (c.isGame = false ↔
        isSteamScope c.sample.cgroup = false ∨ isBrowser (normalizedName c.sample) = true) := by
  intro c hc hlauncher hlisted happ
  obtain ⟨s, -, rfl⟩ := List.mem_map.1 hc
  have hgame := @isGame_launcher sha256 s config (namesOf samples) (parentsOf samples) hlauncher
    hlisted hminimum
  have happ' : isAppIdCgroup s.cgroup = false := happ
  rw [hgame, happ', Bool.false_or, Bool.and_eq_false_iff, Bool.not_eq_false']
  rfl

/-- A process with a name in a control group. -/
def processIn (pid : UInt32) (name cgroup : String) : ProcessSample :=
  { processNamed pid name (some 1) with cgroupPath := some cgroup }

/-- The shipped configuration with the default confidence. -/
def steamConfig : ClassificationConfig :=
  { Common.shippedConfig.classification with minimumConfidence := defaultMinimumConfidence }

/-- The scope that a desktop starts the Steam client in. -/
def steamOwnScope : String :=
  "/user.slice/user-1000.slice/user@1000.service/app.slice/app-steam-4242.scope"

/-- The client in the slice of its session, a browser with Proton in its name in the scope of the
    client, and Wine in that scope. -/
def launcherSamples : List ProcessSample :=
  [processIn 4242 "steam" "/user.slice/app.slice",
    processIn 4243 "firefox-proton" steamOwnScope, processIn 4244 "wine64" steamOwnScope]

/-- The first is no game by its control group, the second by its name, and the third is one. -/
theorem launchers_by_control_group :
    (classifyAll knownDigest launcherSamples steamConfig).map ProcessClassification.isGame =
      [false, false, true] := by
  have hiff := launcher_not_game_iff knownDigest launcherSamples
    (show steamConfig.minimumConfidence = defaultMinimumConfidence from rfl)
  obtain ⟨client, browser, wine, hbatch, hclient, hbrowser, hwine⟩ : ∃ client browser wine,
      classifyAll knownDigest launcherSamples steamConfig = [client, browser, wine] ∧
        client.sample = processIn 4242 "steam" "/user.slice/app.slice" ∧
        browser.sample = processIn 4243 "firefox-proton" steamOwnScope ∧
        wine.sample = processIn 4244 "wine64" steamOwnScope :=
    ⟨_, _, _, rfl, rfl, rfl, rfl⟩
  rw [hbatch] at hiff ⊢
  have hslice : client.isGame = false := by
    refine (hiff client (by simp) ?_ ?_ ?_).2 (.inl ?_) <;> rw [hclient] <;> decide
  have hname : browser.isGame = false := by
    refine (hiff browser (by simp) ?_ ?_ ?_).2 (.inr ?_) <;> rw [hbrowser] <;> decide
  have hscope : wine.isGame ≠ false := by
    refine fun hnot => absurd ((hiff wine (by simp) ?_ ?_ ?_).1 hnot) ?_ <;> rw [hwine] <;> decide
  simpa [hslice, hname] using hscope

/-- The scope that a desktop starts the client in makes a game of it. -/
theorem steam_in_own_scope :
    (classifyAll knownDigest [processIn 4242 "steam" steamOwnScope] steamConfig).map
      ProcessClassification.isGame = [true] := by
  decide +kernel

end Nemor.Classifier
