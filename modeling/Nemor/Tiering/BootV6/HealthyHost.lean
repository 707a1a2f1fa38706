import Nemor.Tiering.BootV6.Lifecycle

/-!
# Boot validation v6: a host on which nothing fails

A backend for any manifest that carries out what it is asked, finds what it has put in place
and reports what the manifest says. On it each phase of the lifecycle succeeds up to the
point where the cleanup looks for the evidence of the first phase.
-/

namespace Nemor.Tiering.BootV6

open Effectful UnixPath

/-! ## §1 The host -/

/-- The boots of a lifecycle. -/
structure Boots where
  first : String
  experimental : String
  last : String

/-- A host on which every call succeeds. -/
structure Host where
  /-- The files of the transaction that are in place. -/
  files : List PathBuf
  swapfile : Bool
  oneShot : Option String
  archived : Bool

namespace Host

/-- Nothing has been done yet. -/
def fresh : Host := ⟨[], false, none, false⟩

/-- The file is there. -/
def holds (h : Host) (path : PathBuf) : Bool := h.files.any (· == path)

/-- The host with a file more. -/
def put (h : Host) (path : PathBuf) : Host := { h with files := path :: h.files }

/-- The host without a file. -/
def drop (h : Host) (path : PathBuf) : Host :=
  { h with files := h.files.filter fun file => !(file == path) }

end Host

/-- The measurement of the baseline, as it should be. -/
def measuredBaseline (c : Codec) (m : PreparedManifest) (boots : Boots) :
    BaselineMeasurementObservation where
  schema := zramBaselineEvidence
  validationId := m.payload.validationId
  bootId := boots.first
  zram := m.payload.protectedZram
  zswap := m.payload.baselineZswap
  swaps := m.payload.baselineSwaps
  workloadProtocol := BootV6.workloadProtocol
  workloadSha256 := c.canonicalJsonSha256 (.workload m.payload.workload)
  bytesTouched := m.payload.workload.bytes
  latencyNs := some 1
  cgroupOomDelta := some 0
  cgroupOomKillDelta := some 0
  contentVerified := true
  cleanupPassed := true
  scopeAbsent := true
  productionActivation := false

/-- The observation after the boot, as it should be. -/
def measuredExperiment (m : PreparedManifest) (boots : Boots) : ActualPostBootObservation where
  schema := postBootEvidenceSchema
  bootId := boots.experimental
  bootedEntry := m.payload.experimentalEntry.id
  commandLine := m.payload.experimentalEntry.options
  kernelRelease := m.payload.boot.kernelRelease
  zswap := { parameters := m.payload.experimentalZswap }
  swaps := [{ m.payload.swapfile with active := true, uuid := some "swap" }]
  protectedZram := m.payload.protectedZram
  topology := m.payload.topology
  unitActive := true
  workloadScopeAbsent := true
  daemonObserveOnly := true
  productionActivation := false
  zswapCounters := Finmap.singleton "stored_pages" (some 1)
  zswapCountersBefore := Finmap.singleton "stored_pages" (some 0)
  zswapCounterDeltas := Finmap.singleton "stored_pages" (some 1)
  cgroupPath := "/nemor.slice/workload.scope"
  workloadPid := 123
  workloadStartTicks := 456
  workloadReady := true
  workloadStarted := true
  workloadStopped := true
  progressSteps := 4
  cgroupOomDelta := some 0
  cgroupOomKillDelta := some 0
  hostOomKillDelta := some 0
  memoryCurrentBytes := some 1
  memoryPeakBytes := some 1
  swapCurrentBytes := some 1
  scopedPsiSomeMicros := some 1
  blockWriteBytes := some m.payload.workload.maximumWriteBytes
  blockWriteAttribution := "physical-device-host-wide-noisy"
  latencyNs := some 1
  bytesTouched := m.payload.workload.bytes
  throughputBytesPerSecond := some 1
  compressionRatioMilli := some 2000
  refaultObserved := true
  refaultContentVerified := true
  oom := false
  oomKill := false
  workloadCompleted := true
  workloadTimeout := false
  runtimeObservation :=
    { configSha256 := m.payload.configSha256
      configuredObserveOnly := true
      nemordActive := false
      nemordBinary := none
      effectiveMode := some "absent"
      productionTieringUnitAbsent := true
      unexpectedNemorUnits := []
      unexpectedNemorCgroups := []
      productionActivation := false }

/-- The observation after the boot back, as it should be. -/
def restoredBaseline (m : PreparedManifest) (boots : Boots) : BaselineRestoreObservation where
  schema := finalRestoreSchema
  bootId := boots.last
  bootedEntry := m.payload.boot.currentEntry.id
  commandLine := m.payload.boot.currentCommandLine
  zswap := m.payload.baselineZswap
  protectedZram := m.payload.protectedZram
  swaps := m.payload.baselineSwaps
  defaultEntry := m.payload.boot.defaultEntry.id
  bootOrder := m.payload.boot.bootOrder
  oneShot := m.payload.boot.priorOneShot
  productionActivation := false

/-- The backend without faults, for the manifest `m`. -/
def healthy (c : Codec) (m : PreparedManifest) (boots : Boots) :
    (op : Op) → Host → op.Reply × Host
  | .persistTransaction _, h => (.ok (), h)
  | .createTransactionRoot _, h => (.ok (), h)
  | .copyPreparedManifest _, h => (.ok (), h)
  | .persistEvidence _ _, h => (.ok (), h)
  | .createSwapfile m', h =>
    (.ok { m'.payload.swapfile with uuid := some "owned-swap-uuid", active := false },
      { h with swapfile := true })
  | .createArtifact a, h => (.ok (), h.put a.path)
  | .stageHelper plan, h => (.ok (), h.put plan.destination)
  | .stagedHelperMatches plan, h => (h.holds plan.destination, h)
  | .artifactMatches a, h => (h.holds a.path, h)
  | .artifactAbsent a, h => (!h.holds a.path, h)
  | .syncParents _, h => (.ok (), h)
  | .removeArtifact a, h => (.ok (), h.drop a.path)
  | .removeSwapfile _, h => (.ok (), { h with swapfile := false })
  | .swapfileAbsent _, h => (!h.swapfile, h)
  | .finalizeRuntimeCleanup _, h => (.ok (), h)
  | .setOneShot entry, h => (.ok (), { h with oneShot := some entry })
  | .readOneShot, h => (.ok h.oneShot, h)
  | .permanentDefault, h => (.ok m.payload.boot.defaultEntry.id, h)
  | .bootOrder, h => (.ok m.payload.boot.bootOrder, h)
  | .collectZramBaseline _, h => (.ok (measuredBaseline c m boots), h)
  | .collectPostBoot _, h => (.ok (measuredExperiment m boots), h)
  | .collectBaseline _, h => (.ok (restoredBaseline m boots), h)
  | .sealArchive _, h => (.ok (), { h with archived := true })

/-- What the host needs to know: the digests are digests, manifest and preflight are accepted,
    the boots differ from the first one and the normal command line lacks the marker. -/
structure Ready (c : Codec) (m : PreparedManifest) (preflight : PreflightObservation)
    (boots : Boots) : Prop where
  digests : ∀ bytes, isSha256 (c.sha256 bytes) = true
  manifest : m.validate c = .ok ()
  preflight : validatePreflight c m preflight true = .ok ()
  experimental : boots.experimental ≠ boots.first
  last : boots.last ≠ boots.first
  unmarked : contains m.payload.boot.currentCommandLine m.payload.validationMarker = false

/-! ## §2 What the host reports is accepted -/

section Reports

variable {c : Codec} {m : PreparedManifest} {preflight : PreflightObservation} {boots : Boots}
  {p : DurableTransactionPayload}

theorem measuredBaseline_accepted (h : Ready c m preflight boots)
    (hboot : p.baselineBootId = boots.first) :
    baselineRejected m (.sealed c p) (measuredBaseline c m boots) = false := by
  have hbytes := PreparedManifest.workload_nonempty_of_validate h.manifest
  have hdigest : isSha256 (c.canonicalJsonSha256 (.workload m.payload.workload)) = true :=
    h.digests _
  simp [baselineRejected, measuredBaseline, DurableTransaction.sealed, hboot, hbytes, hdigest]

theorem measuredExperiment_accepted (h : Ready c m preflight boots)
    (hboot : p.baselineBootId = boots.first) (hstage : p.stage = .postBootMeasuring) :
    validateActualPostBoot c m (.sealed c p) (measuredExperiment m boots) = .ok () := by
  have hbytes := PreparedManifest.workload_nonempty_of_validate h.manifest
  have hmarked := PreparedManifest.marked_of_validate h.manifest
  have hmeasured : badMeasurement m.payload
      { m.payload.swapfile with active := true, uuid := some "swap" }
      (measuredExperiment m boots) = false := by
    simp [badMeasurement, badRuntimeObservation, measuredExperiment, hbytes]
  simp only [validateActualPostBoot, h.manifest, DurableTransaction.validate_sealed, ok_bind]
  have hfind : (measuredExperiment m boots).swaps.find? (fun s => s.path == m.payload.swapfile.path) =
      some { m.payload.swapfile with active := true, uuid := some "swap" } := by
    simp [measuredExperiment]
  rw [hfind]
  simp only [hmeasured]
  simp [measuredExperiment, DurableTransaction.sealed, refuseIf, hboot, hstage, hmarked,
    h.experimental]

theorem restoredBaseline_accepted (h : Ready c m preflight boots)
    (hboot : p.baselineBootId = boots.first) (hstage : p.stage = .baselineBoot) :
    verifyBaselineBeforeCleanup m (.sealed c p) (restoredBaseline m boots) = .ok () := by
  simp [verifyBaselineBeforeCleanup, restoredBaseline, DurableTransaction.sealed, refuseIf, hboot,
    hstage, h.last, h.unmarked]

end Reports

/-! ## §3 Steps on the host -/

section Steps

variable {c : Codec} {m : PreparedManifest} {boots : Boots} {p : DurableTransactionPayload}
  {host : Host} {α β : Type} {k : α → Api β}
  {Q : Except BootValidationError β → DurableTransaction → Host → Prop}

/-- On the host, from a sealed transaction, the run of `act` ends with `Q`. -/
abbrev Runs (c : Codec) (m : PreparedManifest) (boots : Boots) (act : Api β)
    (Q : Except BootValidationError β → DurableTransaction → Host → Prop)
    (p : DurableTransactionPayload) (host : Host) : Prop :=
  Act.wp (Env.ofHandler (healthy c m boots)) (fun _ _ => True) act Q (.sealed c p) host

theorem runs_current {k : DurableTransaction → Api β} (h : Runs c m boots (k (.sealed c p)) Q p host) :
    Runs c m boots (Act.current >>= k) Q p host :=
  Act.wp_bind.2 h

theorem runs_ofExcept {x : Except BootValidationError α} {a : α} (hx : x = .ok a)
    (h : Runs c m boots (k a) Q p host) : Runs c m boots (Act.ofExcept x >>= k) Q p host := by
  subst hx
  exact Act.wp_bind.2 h

theorem runs_ask {op : Op} {k : op.Reply → Api β}
    (h : Runs c m boots (k (healthy c m boots op host).1) Q p (healthy c m boots op host).2) :
    Runs c m boots (ask op >>= k) Q p host := by
  apply Act.wp_bind.2
  apply wp_ask.2
  refine ⟨trivial, fun r host' hr => ?_⟩
  -- the host has one answer
  have hr : healthy c m boots op host = (r, host') := hr
  rw [hr] at h
  exact h

theorem runs_persist {k : Unit → Api β} (h : Runs c m boots (k ()) Q p host) :
    Runs c m boots (persistOrFail >>= k) Q p host := by
  apply Act.wp_bind.2
  apply wp_persistOrFail.2
  refine ⟨trivial, fun r host' hr => ?_⟩
  obtain ⟨rfl, rfl⟩ := Prod.mk.inj hr
  exact h

theorem runs_persist_last {Q : Except BootValidationError Unit → DurableTransaction → Host → Prop}
    (h : Q (.ok ()) (.sealed c p) host) : Runs c m boots persistOrFail Q p host := by
  apply wp_persistOrFail.2
  refine ⟨trivial, fun r host' hr => ?_⟩
  obtain ⟨rfl, rfl⟩ := Prod.mk.inj hr
  exact h

theorem runs_advance {next : TransactionStage} {k : Unit → Api β}
    (hlegal : legalTransition p.stage next = true)
    (h : Runs c m boots (k ()) Q { p with stage := next } host) :
    Runs c m boots (advance c next >>= k) Q p host := by
  apply Act.wp_bind.2
  apply runs_current
  apply runs_ofExcept (DurableTransaction.transition_sealed hlegal)
  exact h

theorem runs_evidence {name : String} {document : Document} {e : BootValidationError}
    {k : Unit → Api β}
    (h : Runs c m boots (k ()) Q
      { p with
        evidenceHashes := p.evidenceHashes.insert name (c.canonicalJsonSha256 document) } host) :
    Runs c m boots (keepEvidence c name document e >>= k) Q p host := by
  apply Act.wp_bind.2
  refine wp_keepEvidence trivial fun r host' hr => ?_
  obtain ⟨rfl, rfl⟩ := Prod.mk.inj hr
  exact h

/-- An announced call that the host carries out, up to the mark of its completion. -/
theorem runs_announced {operation : String} {path : PathBuf} {op : Op} {k : op.Reply → Api β}
    (h : ∀ records last, Runs c m boots (k (healthy c m boots op host).1) Q
      { p with mutationRecords := records ++ [last] } (healthy c m boots op host).2) :
    Runs c m boots (announce c operation path >>= fun _ => ask op >>= k) Q p host := by
  apply Act.wp_bind.2
  apply Act.wp_bind.2
  apply Act.wp_assign.2
  apply wp_persistOrFail.2
  refine ⟨trivial, fun r host' hr => ?_⟩
  obtain ⟨rfl, rfl⟩ := Prod.mk.inj hr
  exact runs_ask (h _ _)

theorem runs_complete {evidence : String} {records : List MutationRecord} {last : MutationRecord}
    {k : Unit → Api β} (hp : p.mutationRecords = records ++ [last])
    (h : ∀ records last,
      Runs c m boots (k ()) Q { p with mutationRecords := records ++ [last] } host) :
    Runs c m boots (complete c evidence >>= k) Q p host := by
  apply Act.wp_bind.2
  apply runs_current
  apply runs_ofExcept (DurableTransaction.completeLast_sealed hp)
  exact h _ _

theorem runs_orFail {a : α} (h : Runs c m boots (k a) Q p host) :
    Runs c m boots (orFail c (.ok a) >>= k) Q p host :=
  Act.wp_bind.2 h

theorem runs_defaultsChanged {k : Bool → Api β} (h : Runs c m boots (k false) Q p host) :
    Runs c m boots (defaultsChanged m >>= k) Q p host := by
  apply Act.wp_bind.2
  apply runs_ask
  apply Act.wp_ite.2
  refine ⟨fun hbad => absurd rfl hbad, fun _ => ?_⟩
  apply runs_ask
  apply Act.wp_pure.2
  have horder : (some m.payload.boot.bootOrder != some m.payload.boot.bootOrder) = false := by simp
  simp only [healthy, Except.toOption, horder]
  exact h

theorem runs_oneShotDiffers {entry : String} {k : Bool → Api β} (hentry : host.oneShot = some entry)
    (h : Runs c m boots (k false) Q p host) :
    Runs c m boots (oneShotDiffers m entry >>= k) Q p host := by
  apply Act.wp_bind.2
  apply runs_ask
  apply Act.wp_ite.2
  refine ⟨fun hbad => absurd ?_ hbad, fun _ => ?_⟩
  · simp [healthy, Except.toOption, hentry]
  · apply Act.wp_bind.1
    exact runs_defaultsChanged h

end Steps

/-! ## §4 Between the steps -/

/-- What the transaction says from the first announcement on. -/
structure Recorded (c : Codec) (m : PreparedManifest) (boots : Boots) (stage : TransactionStage)
    (p : DurableTransactionPayload) : Prop where
  stage : p.stage = stage
  manifest : p.manifestSha256 = c.canonicalJsonSha256 (.manifest m)
  boot : p.baselineBootId = boots.first
  opened : ∃ records last, p.mutationRecords = records ++ [last]
  missing : p.evidenceHashes.lookup "zram-baseline-evidence-v2.json" = none

namespace Recorded

variable {c : Codec} {m : PreparedManifest} {boots : Boots} {stage : TransactionStage}
  {p : DurableTransactionPayload} {host : Host} {β : Type}
  {Q : Except BootValidationError β → DurableTransaction → Host → Prop}

theorem advance {next : TransactionStage} {k : Unit → Api β} (hp : Recorded c m boots stage p)
    (hlegal : legalTransition stage next = true)
    (h : ∀ p, Recorded c m boots next p → Runs c m boots (k ()) Q p host) :
    Runs c m boots (BootV6.advance c next >>= k) Q p host := by
  apply runs_advance (hp.stage ▸ hlegal)
  exact h _ { hp with stage := rfl }

theorem evidence {name : String} {document : Document} {e : BootValidationError}
    {k : Unit → Api β} (hp : Recorded c m boots stage p)
    (hname : "zram-baseline-evidence-v2.json" ≠ name)
    (h : ∀ p, Recorded c m boots stage p → (p.evidenceHashes.lookup name).isSome = true →
      Runs c m boots (k ()) Q p host) :
    Runs c m boots (keepEvidence c name document e >>= k) Q p host := by
  apply runs_evidence
  apply h _ _ (by simp)
  exact { hp with missing := by simp [Finmap.lookup_insert_of_ne _ hname, hp.missing] }

theorem announced {operation : String} {path : PathBuf} {op : Op} {k : op.Reply → Api β}
    (hp : Recorded c m boots stage p)
    (h : ∀ p, Recorded c m boots stage p →
      Runs c m boots (k (healthy c m boots op host).1) Q p (healthy c m boots op host).2) :
    Runs c m boots (announce c operation path >>= fun _ => ask op >>= k) Q p host := by
  apply runs_announced
  intro records last
  exact h _ { hp with opened := ⟨_, _, rfl⟩ }

theorem complete {evidence : String} {k : Unit → Api β} (hp : Recorded c m boots stage p)
    (h : ∀ p, Recorded c m boots stage p → Runs c m boots (k ()) Q p host) :
    Runs c m boots (BootV6.complete c evidence >>= k) Q p host := by
  obtain ⟨records, last, hrecords⟩ := hp.opened
  apply runs_complete hrecords
  intro records' last'
  exact h _ { hp with opened := ⟨_, _, rfl⟩ }

/-- Another edit. -/
theorem amend {f : DurableTransactionPayload → DurableTransactionPayload} {k : Unit → Api β}
    (hp : Recorded c m boots stage (f p))
    (h : ∀ p, Recorded c m boots stage p → Runs c m boots (k ()) Q p host) :
    Runs c m boots (Act.assign (fun tx => tx.amend c f) >>= k) Q p host :=
  Act.wp_bind.2 (h _ hp)

end Recorded

/-! ## §5 Phases on the host -/

/-- The phase succeeds and ends in `stage`, with the helper in place. -/
def Arrives (c : Codec) (m : PreparedManifest) (boots : Boots) (stage : TransactionStage) {α : Type}
    (r : Except BootValidationError α) (t : DurableTransaction) (host : Host) : Prop :=
  (∃ a, r = .ok a) ∧ host.holds m.payload.stagedHelper.destination = true ∧
    ∃ p, t = .sealed c p ∧ Recorded c m boots stage p

section Phases

variable {c : Codec} {m : PreparedManifest} {preflight : PreflightObservation} {boots : Boots}
  {stage : TransactionStage} {p : DurableTransactionPayload} {host : Host}

theorem holds_put {path : PathBuf} (h : host.holds path = true) (path' : PathBuf) :
    (host.put path').holds path = true := by
  simp only [Host.holds, Host.put, List.any_cons] at h ⊢
  simp [h]

theorem holds_put_self (path : PathBuf) : (host.put path).holds path = true := by
  simp [Host.holds, Host.put]

/-- One part of a phase after another. -/
theorem runs_then {α β : Type} {act : Api α} {k : α → Api β}
    {Q : Except BootValidationError β → DurableTransaction → Host → Prop}
    (h : Runs c m boots act (Arrives c m boots stage) p host)
    (hk : ∀ a p host, Recorded c m boots stage p →
      host.holds m.payload.stagedHelper.destination = true → Runs c m boots (k a) Q p host) :
    Runs c m boots (act >>= k) Q p host := by
  apply Act.wp_bind.2
  apply Act.wp_mono h
  rintro r t host' ⟨⟨a, rfl⟩, hhelper, p', rfl, hp⟩
  exact hk a p' host' hp hhelper

theorem runs_store (hp : Recorded c m boots stage p)
    (hhelper : host.holds m.payload.stagedHelper.destination = true) :
    Runs c m boots persistOrFail (Arrives c m boots stage) p host :=
  runs_persist_last ⟨⟨(), rfl⟩, hhelper, p, rfl, hp⟩

/-- The first phase also stores the evidence that the second one asks for. -/
theorem measureBaseline_healthy (h : Ready c m preflight boots) (hstage : p.stage = .prepared)
    (hmanifest : p.manifestSha256 = c.canonicalJsonSha256 (.manifest m))
    (hboot : p.baselineBootId = boots.first) (hempty : p.evidenceHashes = ∅) :
    Runs c m boots (measureBaseline c m preflight)
      (fun r t host => r = .ok t ∧ host.holds m.payload.stagedHelper.destination = true ∧
        ∃ p, t = .sealed c p ∧ Recorded c m boots .baselineMeasured p ∧
        (p.evidenceHashes.lookup "zram-baseline-evidence-v4.json").isSome = true) p host := by
  apply runs_persist
  apply runs_evidence
  apply runs_advance (by simp [hstage, legalTransition])
  apply runs_persist
  apply runs_announced
  intro records last
  have hp : Recorded c m boots .rootPreflighted
      { p with
        stage := .rootPreflighted
        evidenceHashes := p.evidenceHashes.insert "root-preflight-v6.json"
          (c.canonicalJsonSha256 (.preflight preflight))
        mutationRecords := records ++ [last] } :=
    ⟨rfl, hmanifest, hboot, ⟨records, last, rfl⟩, by simp [hempty]⟩
  -- the helper is copied, and its digest read back
  have hhelper : (host.put m.payload.stagedHelper.destination).holds
      m.payload.stagedHelper.destination = true := holds_put_self _
  apply runs_orFail
  apply runs_ask
  apply Act.wp_ite.2
  refine ⟨fun hbad => by simp [healthy, hhelper] at hbad, fun _ => ?_⟩
  apply hp.complete
  intro p hp
  apply runs_persist
  apply hp.advance rfl
  intro p hp
  apply runs_persist
  apply runs_ask
  apply runs_orFail
  apply runs_current
  apply Act.wp_ite.2
  refine ⟨fun hbad => ?_, fun _ => ?_⟩
  · have hok := measuredBaseline_accepted h hp.boot
    exact absurd (hbad.symm.trans hok) (by simp)
  · apply hp.evidence (by decide)
    intro p hp hmeasured
    apply runs_advance (by simp [hp.stage, legalTransition])
    apply runs_persist
    apply Act.wp_current.2
    exact ⟨rfl, hhelper, _, rfl, { hp with stage := rfl }, hmeasured⟩

/-- The loop of `applyExactTransaction`. -/
theorem createArtifacts_healthy (artifacts completed : List OwnedArtifact)
    (hp : Recorded c m boots .applying p)
    (hhelper : host.holds m.payload.stagedHelper.destination = true) :
    Runs c m boots (createArtifacts c m completed artifacts) (Arrives c m boots .applying) p host := by
  induction artifacts generalizing completed p host with
  | nil => exact ⟨⟨_, rfl⟩, hhelper, p, rfl, hp⟩
  | cons a rest ih =>
    apply Act.wp_ite.2
    constructor
    · -- the helper is there since the first phase and only checked
      intro _
      apply runs_ask
      apply Act.wp_ite.2
      refine ⟨fun hbad => ?_, fun _ => ih completed hp hhelper⟩
      simp [healthy, hhelper] at hbad
    · intro _
      apply hp.announced
      intro p hp
      apply runs_ask
      apply Act.wp_ite.2
      refine ⟨fun hbad => ?_, fun _ => ?_⟩
      · have hheld : (host.put a.path).holds a.path = true := holds_put_self a.path
        simp [healthy, hheld] at hbad
      · apply hp.complete
        intro p hp
        apply runs_persist
        exact ih _ hp (holds_put hhelper a.path)

theorem finishApply_healthy (completed : List OwnedArtifact) (hp : Recorded c m boots .applying p)
    (hhelper : host.holds m.payload.stagedHelper.destination = true) :
    Runs c m boots (finishApply c m completed) (Arrives c m boots .applied) p host := by
  apply runs_ask
  apply runs_defaultsChanged
  apply Act.wp_ite.2
  refine ⟨fun hbad => (by cases hbad), fun _ => ?_⟩
  apply runs_current
  apply hp.evidence (by decide)
  intro p hp _
  apply hp.advance rfl
  intro p hp
  exact runs_store hp hhelper

theorem createAll_healthy (hp : Recorded c m boots .applying p)
    (hhelper : host.holds m.payload.stagedHelper.destination = true) :
    Runs c m boots (createAll c m) (Arrives c m boots .applied) p host := by
  apply hp.announced
  intro p hp
  apply runs_orFail
  refine Recorded.amend ⟨hp.stage, hp.manifest, hp.boot, hp.opened, hp.missing⟩ ?_
  intro p hp
  apply runs_persist
  apply Act.wp_ite.2
  refine ⟨fun hbad => ?_, fun _ => ?_⟩
  · simp [swapMismatch] at hbad
  · apply hp.complete
    intro p hp
    apply runs_persist
    refine runs_then (createArtifacts_healthy _ _ hp (by exact hhelper)) ?_
    intro completed p host hp hhelper
    exact finishApply_healthy completed hp hhelper

theorem applyExactTransaction_healthy (h : Ready c m preflight boots)
    (hp : Recorded c m boots .baselineMeasured p)
    (hhelper : host.holds m.payload.stagedHelper.destination = true)
    (hmeasured : (p.evidenceHashes.lookup "zram-baseline-evidence-v4.json").isSome = true) :
    Runs c m boots (applyExactTransaction c m) (Arrives c m boots .applied) p host := by
  apply runs_ofExcept h.manifest
  apply runs_current
  apply runs_ofExcept (DurableTransaction.validate_sealed c p)
  apply runs_ofExcept (a := ())
  · have hsome := Option.isNone_eq_false_iff.2 hmeasured
    simp [DurableTransaction.sealed, refuseIf, hp.stage, hp.manifest, hsome]
  apply hp.advance rfl
  intro p hp
  apply runs_persist
  exact createAll_healthy hp hhelper

theorem selectExactOneShot_healthy (h : Ready c m preflight boots)
    (hp : Recorded c m boots .applied p)
    (hhelper : host.holds m.payload.stagedHelper.destination = true) :
    Runs c m boots (selectExactOneShot c m) (Arrives c m boots .oneShotSelected) p host := by
  apply runs_ofExcept h.manifest
  apply runs_current
  apply runs_ofExcept (DurableTransaction.validate_sealed c p)
  apply runs_ask
  apply runs_ofExcept (a := ())
  · simp [healthy, hhelper, refuseIf]
  apply hp.advance rfl
  intro p hp
  apply runs_persist
  apply hp.announced
  intro p hp
  apply runs_orFail
  apply runs_oneShotDiffers rfl
  apply Act.wp_ite.2
  refine ⟨fun hbad => (by cases hbad), fun _ => ?_⟩
  -- three readbacks go into the evidence of the selection
  apply runs_ask
  apply runs_ask
  apply runs_ask
  apply hp.evidence (by decide)
  intro p hp _
  apply hp.complete
  intro p hp
  apply hp.advance rfl
  intro p hp
  exact runs_store hp hhelper

/-- Stages that follow each other legally are entered one by one. -/
theorem activate_arrives {stages : List TransactionStage}
    (hlegal : (stage :: stages).IsChain fun current next => legalTransition current next = true)
    (hp : Recorded c m boots stage p)
    (hhelper : host.holds m.payload.stagedHelper.destination = true) :
    Runs c m boots (activate c stages) (Arrives c m boots (stages.getLastD stage)) p host := by
  induction stages generalizing stage p with
  | nil => exact ⟨⟨(), rfl⟩, hhelper, p, rfl, hp⟩
  | cons next rest ih =>
    obtain ⟨hnext, hrest⟩ := List.isChain_cons_cons.1 hlegal
    apply hp.advance hnext
    intro p hp
    apply runs_persist
    rw [List.getLastD_cons]
    exact ih hrest hp

theorem activate_healthy (hp : Recorded c m boots .oneShotSelected p)
    (hhelper : host.holds m.payload.stagedHelper.destination = true) :
    Runs c m boots (activate c activationStages) (Arrives c m boots .activationVerified) p host :=
  activate_arrives (by decide) hp hhelper

theorem collectAndValidatePostBoot_healthy (h : Ready c m preflight boots)
    (hp : Recorded c m boots .activationVerified p)
    (hhelper : host.holds m.payload.stagedHelper.destination = true) :
    Runs c m boots (collectAndValidatePostBoot c m) (Arrives c m boots .postBootValidated) p
      host := by
  apply runs_current
  apply runs_ofExcept (a := ())
  · simp [DurableTransaction.sealed, hp.stage, refuseIf]
  apply runs_ask
  apply runs_ofExcept (a := ())
  · simp [healthy, hhelper, refuseIf]
  apply hp.advance rfl
  intro p hp
  apply runs_persist
  apply runs_ask
  apply runs_orFail
  apply runs_current
  apply runs_ofExcept (measuredExperiment_accepted h hp.boot hp.stage)
  apply hp.evidence (by decide)
  intro p hp _
  refine Recorded.amend ⟨hp.stage, hp.manifest, hp.boot, hp.opened, hp.missing⟩ ?_
  intro p hp
  apply hp.advance rfl
  intro p hp
  apply runs_persist
  exact ⟨⟨_, rfl⟩, hhelper, p, rfl, hp⟩

theorem selectBaselineRollback_healthy (hp : Recorded c m boots .postBootValidated p)
    (hhelper : host.holds m.payload.stagedHelper.destination = true) :
    Runs c m boots (selectBaselineRollback c m) (Arrives c m boots .baselineSelected) p host := by
  apply hp.advance rfl
  intro p hp
  apply runs_persist
  apply hp.announced
  intro p hp
  apply runs_orFail
  apply runs_oneShotDiffers rfl
  apply Act.wp_ite.2
  refine ⟨fun hbad => (by cases hbad), fun _ => ?_⟩
  apply hp.complete
  intro p hp
  apply hp.advance rfl
  intro p hp
  exact runs_store hp hhelper

/-! ### The cleanup -/

/-- No file of these artifacts is left. -/
def Gone (artifacts : List OwnedArtifact) (host : Host) : Prop :=
  ∀ a ∈ artifacts, host.holds a.path = false

theorem gone_drop {artifacts : List OwnedArtifact} (a : OwnedArtifact) (h : Gone artifacts host) :
    Gone (a :: artifacts) (host.drop a.path) := by
  intro b hb
  simp only [Host.holds, Host.drop, List.any_filter, List.any_eq_false]
  intro file hfile
  rcases List.mem_cons.1 hb with rfl | hb
  · simp
  · have hleft := h b hb
    simp only [Host.holds, List.any_eq_false] at hleft
    simp [hleft file hfile]

/-- The artifacts in front are gone already. -/
theorem removeArtifacts_healthy {removed : List OwnedArtifact} (artifacts : List OwnedArtifact)
    (hp : Recorded c m boots stage p) (hgone : Gone removed host) :
    Runs c m boots (removeArtifacts c artifacts)
      (fun r t host' => r = .ok () ∧ Gone (artifacts ++ removed) host' ∧
        ∃ p, t = .sealed c p ∧ Recorded c m boots stage p) p host := by
  induction artifacts generalizing removed p host with
  | nil => exact ⟨rfl, hgone, p, rfl, hp⟩
  | cons a rest ih =>
    apply hp.announced
    intro p hp
    apply runs_orFail
    apply hp.complete
    intro p hp
    apply runs_persist
    apply Act.wp_mono (ih hp (gone_drop a hgone))
    rintro r t host' ⟨hr, hgone', hp'⟩
    refine ⟨hr, fun b hb => hgone' b ?_, hp'⟩
    simp only [List.mem_append, List.mem_cons] at hb ⊢
    tauto

theorem runs_artifactLeft {β : Type} {k : Bool → Api β}
    {Q : Except BootValidationError β → DurableTransaction → Host → Prop}
    {artifacts : List OwnedArtifact} (hgone : Gone artifacts host)
    (h : Runs c m boots (k false) Q p host) :
    Runs c m boots (artifactLeft artifacts >>= k) Q p host := by
  apply Act.wp_bind.2
  induction artifacts with
  | nil => exact h
  | cons a rest ih =>
    apply runs_ask
    apply Act.wp_ite.2
    have habsent := hgone a List.mem_cons_self
    refine ⟨fun hbad => by simp [healthy, habsent] at hbad, fun _ => ?_⟩
    exact ih fun b hb => hgone b (List.mem_cons_of_mem a hb)

theorem enterBaselineBoot_healthy (hp : Recorded c m boots .baselineSelected p) :
    Runs c m boots (enterBaselineBoot c)
      (fun r t _ => r = .ok () ∧ ∃ p, t = .sealed c p ∧ Recorded c m boots .baselineBoot p) p
      host := by
  apply runs_current
  apply Act.wp_ite.2
  refine ⟨fun _ => ?_, fun hbad => absurd hp.stage hbad⟩
  apply hp.advance rfl
  intro p hp
  exact runs_persist_last ⟨rfl, p, rfl, hp⟩

theorem proveBaseline_healthy (h : Ready c m preflight boots)
    (hp : Recorded c m boots .baselineBoot p) :
    Runs c m boots (proveBaseline c m)
      (fun r t _ => r = .ok () ∧ ∃ p, t = .sealed c p ∧ Recorded c m boots .cleaning p) p host := by
  apply runs_ask
  apply runs_ofExcept rfl
  apply runs_current
  apply runs_ofExcept (restoredBaseline_accepted h hp.boot hp.stage)
  apply hp.evidence (by decide)
  intro p hp _
  apply hp.advance rfl
  intro p hp
  apply runs_persist
  apply hp.advance rfl
  intro p hp
  exact runs_persist_last ⟨rfl, p, rfl, hp⟩

theorem removeOwned_healthy (hp : Recorded c m boots stage p) :
    Runs c m boots (removeOwned c m)
      (fun r t host' => r = .ok () ∧ Gone m.payload.ownedArtifacts host' ∧ host'.swapfile = false ∧
        ∃ p, t = .sealed c p ∧ Recorded c m boots stage p) p host := by
  have hnone : Gone [] host := fun a ha => by cases ha
  apply Act.wp_bind.2
  apply Act.wp_mono (removeArtifacts_healthy _ hp hnone)
  rintro r t host' ⟨rfl, hgone, p, rfl, hp⟩
  have hgone : Gone m.payload.ownedArtifacts { host' with swapfile := false } :=
    fun a ha => hgone a (by simp [ha])
  apply hp.announced
  intro p hp
  apply runs_orFail
  apply hp.complete
  intro p hp
  -- the absence of each artifact and of the swapfile is read back
  apply Act.wp_bind.2
  refine runs_artifactLeft (by exact hgone) ?_
  apply Act.wp_ite.2
  refine ⟨fun hbad => (by cases hbad), fun _ => ?_⟩
  apply runs_ask
  apply Act.wp_pure.2
  apply Act.wp_ite.2
  refine ⟨fun hbad => (by cases hbad), fun _ => ?_⟩
  apply runs_ask
  exact ⟨rfl, hgone, rfl, p, rfl, hp⟩

/-- The evidence of the baseline is not found under the name that is asked for. -/
theorem sealAuthorities_healthy (hp : Recorded c m boots stage p) :
    Runs c m boots (sealAuthorities c m)
      (fun r _ host' => r = .error (.readback "baseline raw evidence") ∧ host' = host) p host := by
  have hmissing : evidenceHash (.sealed c p) "zram-baseline-evidence-v2.json"
      (.readback "baseline raw evidence") = .error (.readback "baseline raw evidence") := by
    simp [evidenceHash, DurableTransaction.sealed, hp.missing]
  apply runs_current
  apply Act.wp_bind.2
  apply Act.wp_ofExcept.2
  rw [hmissing]
  exact ⟨rfl, rfl⟩

/-- Everything is removed, and then the function fails. -/
theorem verifyThenCleanup_healthy (h : Ready c m preflight boots)
    (hp : Recorded c m boots .baselineSelected p) :
    Runs c m boots (verifyThenCleanup c m)
      (fun r _ host' => r = .error (.readback "baseline raw evidence") ∧
        Gone m.payload.ownedArtifacts host' ∧ host'.swapfile = false) p host := by
  apply Act.wp_bind.2
  apply Act.wp_mono (enterBaselineBoot_healthy hp)
  rintro r t₁ host₁ ⟨rfl, p₁, rfl, hp₁⟩
  apply Act.wp_bind.2
  apply Act.wp_mono (proveBaseline_healthy h hp₁)
  rintro r t₂ host₂ ⟨rfl, p₂, rfl, hp₂⟩
  apply Act.wp_bind.2
  apply Act.wp_mono (removeOwned_healthy hp₂)
  rintro r t₃ host₃ ⟨rfl, hgone, hswapfile, p₃, rfl, hp₃⟩
  apply Act.wp_mono (sealAuthorities_healthy hp₃)
  rintro r t₄ host₄ ⟨rfl, rfl⟩
  exact ⟨rfl, hgone, hswapfile⟩

end Phases

end Nemor.Tiering.BootV6
