import Nemor.Tiering.BootV6.Manifest

/-!
# Boot validation v6: the durable transaction

The transaction record with its seal and its stage machine, and the checks of observations
against manifest and transaction.
-/

namespace Nemor.Tiering.BootV6

open UnixPath

/-! ## §1 Stages -/

/-- Which stage may follow which. -/
def legalTransition : TransactionStage → TransactionStage → Bool
  -- the way through a validation without failure, up to the activation
  | .prepared, .rootPreflighted => true
  | .rootPreflighted, .baselineMeasuring => true
  | .baselineMeasuring, .baselineMeasured => true
  | .baselineMeasured, .applying => true
  | .applying, .applied => true
  | .applied, .oneShotSelecting => true
  | .oneShotSelecting, .oneShotSelected => true
  | .oneShotSelected, .experimentalBootDetected => true
  | .experimentalBootDetected, .activationPreparing => true
  | .activationPreparing, .zswapDisabling => true
  | .zswapDisabling, .zswapParametersApplying => true
  -- one step for each parameter
  | .zswapParametersApplying, .zswapParametersApplying => true
  | .zswapParametersApplying, .zswapEnabling => true
  | .zswapEnabling, .swapActivating => true
  | .swapActivating, .activationVerified => true
  | .activationVerified, .postBootMeasuring => true
  -- an activation that fails, and the ways back to the baseline
  | .activationPreparing, .activationFailed => true
  | .zswapDisabling, .activationFailed => true
  | .zswapParametersApplying, .activationFailed => true
  | .zswapEnabling, .activationFailed => true
  | .swapActivating, .activationFailed => true
  | .activationFailed, .baselineSelecting => true
  | .activationPreparing, .baselineSelecting => true
  | .zswapDisabling, .baselineSelecting => true
  | .zswapParametersApplying, .baselineSelecting => true
  | .zswapEnabling, .baselineSelecting => true
  | .swapActivating, .baselineSelecting => true
  | .postBootMeasuring, .postBootValidated => true
  | .activationVerified, .baselineSelecting => true
  | .postBootMeasuring, .baselineSelecting => true
  | .postBootValidated, .baselineSelecting => true
  -- the way back, which ends a validation
  | .baselineSelecting, .baselineSelected => true
  | .baselineSelected, .baselineBoot => true
  | .baselineBoot, .baselineVerified => true
  | .baselineVerified, .cleaning => true
  | .cleaning, .restored => true
  -- a failure is noted in every stage
  | _, .failed => true
  -- recovery; not from the stages of a running experiment
  | .prepared, .recovered => true
  | .rootPreflighted, .recovered => true
  | .baselineMeasuring, .recovered => true
  | .baselineMeasured, .recovered => true
  | .applying, .recovered => true
  | .applied, .recovered => true
  | .oneShotSelecting, .recovered => true
  | .oneShotSelected, .recovered => true
  | .baselineVerified, .recovered => true
  | .cleaning, .recovered => true
  | .activationPreparing, .recovered => true
  | .zswapDisabling, .recovered => true
  | .zswapParametersApplying, .recovered => true
  | .zswapEnabling, .recovered => true
  | .swapActivating, .recovered => true
  | .activationFailed, .recovered => true
  | .failed, .baselineSelecting => true
  | .failed, .recovered => true
  | _, _ => false

/-! ## §2 The record -/

namespace DurableTransaction

/-- A payload with its digest. -/
def sealed (c : Codec) (payload : DurableTransactionPayload) : DurableTransaction where
  schema := durableTransactionSchema
  payload := payload
  payloadSha256 := c.canonicalJsonSha256 (.transactionPayload payload)

/-- The transaction of a manifest before anything has happened. -/
def initial (c : Codec) (m : PreparedManifest) (bootId : String) : DurableTransaction :=
  let p := m.payload
  sealed c
    { validationId := p.validationId
      manifestSha256 := c.canonicalJsonSha256 (.manifest m)
      stage := .prepared
      baselineBootId := bootId
      currentBootId := bootId
      -- what a recovery may remove is fixed here
      artifactRegistry := p.ownedArtifacts.map (·.path)
      swapfileRegistry := [p.swapfile.path]
      unitRegistry := (p.ownedArtifacts.filter fun a => a.kind == .validationUnit).map (·.path)
      transientUnitRegistry := ["nemor-phase6-workload-" ++ p.validationId ++ ".scope"]
      appliedSwapIdentity := none
      evidenceHashes := ∅
      mutationRecords := []
      primaryError := none
      failedFromStage := none
      secondaryErrors := []
      recoveryState := "not_required"
      idempotenceVerified := false
      activationParameterIndex := 0
      originalPrimaryError := none
      terminalArchiveSha256 := none
      postBootSummary := none }

/-- The transaction of a valid manifest. -/
def new (c : Codec) (m : PreparedManifest) (bootId : String) :
    Except BootValidationError DurableTransaction := do
  m.validate c
  pure (initial c m bootId)

theorem new_ok {c : Codec} {m : PreparedManifest} {bootId : String} (h : m.validate c = .ok ()) :
    new c m bootId = .ok (initial c m bootId) := by
  simp only [new, h, ok_bind]
  rfl

theorem new_inv {c : Codec} {m : PreparedManifest} {bootId : String} {tx : DurableTransaction}
    (h : new c m bootId = .ok tx) : tx = initial c m bootId := by
  simp only [new] at h
  cases hm : m.validate c with
  | error e =>
    rw [hm] at h
    cases h
  | ok _ =>
    rw [hm] at h
    cases h
    rfl

/-- The transaction is of its schema and carries its digest. -/
def validate (c : Codec) (tx : DurableTransaction) : Except BootValidationError Unit :=
  refuseIf
    (tx.schema != durableTransactionSchema
      || c.canonicalJsonSha256 (.transactionPayload tx.payload) != tx.payloadSha256)
    .payload

/-- Change the payload and renew the seal. -/
def amend (c : Codec) (tx : DurableTransaction)
    (f : DurableTransactionPayload → DurableTransactionPayload) : DurableTransaction :=
  { tx with
    payload := f tx.payload
    payloadSha256 := c.canonicalJsonSha256 (.transactionPayload (f tx.payload)) }

/-- The new transaction, or why the transition is refused. -/
def transition (c : Codec) (tx : DurableTransaction) (next : TransactionStage) :
    Except BootValidationError DurableTransaction := do
  tx.validate c
  refuseIf (!legalTransition tx.payload.stage next) .transition
  pure (tx.amend c fun p => { p with stage := next })

/-- Append an entry that is not completed. -/
def recordIntent (c : Codec) (tx : DurableTransaction) (operation : String) (target : PathBuf) :
    DurableTransaction :=
  tx.amend c fun p =>
    { p with
      mutationRecords := p.mutationRecords ++
        [{ operation := operation
           target := target
           completed := false
           evidenceSha256 := none
           bootId := p.currentBootId }] }

/-- Mark the last record, if there is one. -/
def completeRecords (evidence : String) : List MutationRecord → Option (List MutationRecord)
  | [] => none
  | [last] => some [{ last with completed := true, evidenceSha256 := some evidence }]
  | record :: rest => (completeRecords evidence rest).map (record :: ·)

/-- Complete the last entry that is not. -/
def completeLast (c : Codec) (tx : DurableTransaction) (evidence : String) :
    Except BootValidationError DurableTransaction :=
  match completeRecords evidence tx.payload.mutationRecords with
  | none => .error .transition
  | some records => .ok (tx.amend c fun p => { p with mutationRecords := records })

/-- Note the digest of stored evidence. -/
def addEvidence (c : Codec) (tx : DurableTransaction) (name digest : String) :
    DurableTransaction :=
  tx.amend c fun p => { p with evidenceHashes := p.evidenceHashes.insert name digest }

/-- The seal is that of the payload. -/
def IsSealed (c : Codec) (tx : DurableTransaction) : Prop :=
  tx.payloadSha256 = c.canonicalJsonSha256 (.transactionPayload tx.payload)

@[simp] theorem isSealed_sealed (c : Codec) (p : DurableTransactionPayload) :
    (sealed c p).IsSealed c := rfl

@[simp] theorem isSealed_amend (c : Codec) (tx : DurableTransaction)
    (f : DurableTransactionPayload → DurableTransactionPayload) : (tx.amend c f).IsSealed c := rfl

@[simp] theorem validate_sealed (c : Codec) (p : DurableTransactionPayload) :
    (sealed c p).validate c = .ok () := by
  simp [validate, sealed, refuseIf]

/-- A transaction that is accepted is the sealed one of its payload. -/
theorem eq_sealed_of_validate {c : Codec} {tx : DurableTransaction} (h : tx.validate c = .ok ()) :
    tx = sealed c tx.payload := by
  have hvalid := refuseIf_ok h
  simp only [Bool.or_eq_false_iff, bne_eq_false_iff_eq] at hvalid
  cases tx
  simp only [sealed, DurableTransaction.mk.injEq]
  exact ⟨hvalid.1, trivial, hvalid.2.symm⟩

@[simp] theorem amend_sealed (c : Codec) (p : DurableTransactionPayload)
    (f : DurableTransactionPayload → DurableTransactionPayload) :
    (sealed c p).amend c f = sealed c (f p) := rfl

theorem transition_sealed {c : Codec} {p : DurableTransactionPayload} {next : TransactionStage}
    (h : legalTransition p.stage next = true) :
    (sealed c p).transition c next = .ok (sealed c { p with stage := next }) := by
  simp only [transition, validate_sealed, amend_sealed, ok_bind]
  simp [sealed, refuseIf, h]

theorem completeRecords_append (evidence : String) (records : List MutationRecord)
    (last : MutationRecord) :
    completeRecords evidence (records ++ [last]) =
      some (records ++ [{ last with completed := true, evidenceSha256 := some evidence }]) := by
  -- the recursion looks one record ahead, so the tail is split once more
  induction records with
  | nil => rfl
  | cons record rest ih =>
    cases rest with
    | nil => simp [completeRecords]
    | cons next rest => simp [completeRecords] at ih ⊢; simp [ih]

theorem completeLast_sealed {c : Codec} {p : DurableTransactionPayload} {evidence : String}
    {records : List MutationRecord} {last : MutationRecord}
    (hp : p.mutationRecords = records ++ [last]) :
    (sealed c p).completeLast c evidence =
      .ok (sealed c { p with
        mutationRecords := records ++
          [{ last with completed := true, evidenceSha256 := some evidence }] }) := by
  simp only [completeLast, sealed, hp, completeRecords_append]
  rfl

/-- A transition starts from a checked transaction and changes the stage only. -/
theorem transition_ok {c : Codec} {tx tx' : DurableTransaction} {next : TransactionStage}
    (h : tx.transition c next = .ok tx') :
    tx.schema = durableTransactionSchema ∧ tx' = tx.amend c fun p => { p with stage := next } := by
  simp only [transition, validate, refuseIf] at h
  split at h
  · cases h
  · rename_i hvalid
    split at h
    · cases h
    · cases h
      simp only [Bool.or_eq_true, bne_iff_ne, not_or, not_not] at hvalid
      exact ⟨hvalid.1, rfl⟩

end DurableTransaction

/-! ## §3 Observations -/

/-- Everything that was compared agrees. -/
def derivedPreflightReady (m : PreparedManifest) (o : PreflightObservation) : Bool :=
  [ o.sourceMatches,
    o.binariesMatch,
    o.configMatches,
    o.topologyMatches,
    o.bootMatches,
    o.bootloaderTypeMatches,
    o.bootloaderVersionMatches,
    o.currentEntrySemanticsMatch,
    o.currentEntryHashMatches,
    o.currentEntryPathMatches,
    o.defaultEntrySemanticsMatch,
    o.defaultEntryHashMatches,
    o.defaultEntryPathMatches,
    o.referencedBootFilesMatch,
    o.kernelReleaseMatches,
    o.commandLineMatches,
    o.espDeviceMatches,
    o.espFilesystemMatches,
    o.espUuidMatches,
    o.espMountMatches,
    o.bootOrderMatches,
    o.oneShotMatches,
    o.zramMatches,
    o.zswapMatches,
    o.parentsSafe,
    o.transactionHierarchySafe,
    o.stagedSourceBinaryMatches,
    o.validationDestinationsAbsent,
    o.packageUpdateAbsent,
    o.secureBootCompatible,
    o.staleStateAbsent,
    o.validationProcessAbsent,
    o.unrelatedMutationAbsent ].all (·)
    && o.acPower != some false
    && o.espFreeBytes ≥ 1024 * 1024
    -- `saturating_add`
    && min (m.payload.swapfile.sizeBytes.toNat + 64 * 1024 * 1024) (2 ^ 64 - 1)
        ≤ o.swapFreeBytes.toNat

/-- The preflight was made as root, changed nothing, and agrees with the manifest. -/
def validatePreflight (c : Codec) (m : PreparedManifest) (o : PreflightObservation)
    (root : Bool) : Except BootValidationError Unit := do
  m.validate c
  refuseIf (o.schema != preflightSchema || o.mutationCount != 0) (.preflight "not_non_mutating")
  refuseIf (o.hostIdentitySha256 != m.payload.materialEnvironmentSha256)
    (.identity "material environment")
  refuseIf
    (root
      && (o.uid != 0
        || o.sudoUid != some m.payload.preparedUid
        || o.sudoGid != some m.payload.preparedGid))
    .sudoIdentity
  refuseIf (!root && (o.uid != m.payload.preparedUid || o.gid != m.payload.preparedGid))
    (.identity "preparing user")
  -- the readiness is derived again and must agree with the stored one
  let derivedReady := derivedPreflightReady m o
  refuseIf (o.ready != derivedReady) (.preflight "serialized_readiness_contradiction")
  refuseIf (!derivedReady) (.preflight "authoritative_gate_failed")

/-- The measurement taken before anything is changed. -/
def baselineRejected (m : PreparedManifest) (tx : DurableTransaction)
    (o : BaselineMeasurementObservation) : Bool :=
  o.schema != zramBaselineEvidence
    || o.validationId != m.payload.validationId
    || o.bootId != tx.payload.baselineBootId
    || o.zram != m.payload.protectedZram
    || o.zswap != m.payload.baselineZswap
    || o.swaps != m.payload.baselineSwaps
    || o.workloadProtocol != workloadProtocol
    || !isSha256 o.workloadSha256
    || o.bytesTouched == 0
    || o.latencyNs.isNone
    || o.cgroupOomDelta != some 0
    || o.cgroupOomKillDelta != some 0
    || !o.contentVerified
    || !o.cleanupPassed
    || !o.scopeAbsent
    || o.productionActivation

/-- The executable of a process is not known exactly. -/
def badRuntimeBinary (b : RuntimeBinaryIdentity) : Bool :=
  !b.path.isAbsolute || !isSha256 b.sha256 || b.pid == 0 || b.startTicks == 0

/-- The daemon does more than observe. -/
def badRuntimeObservation (r : RuntimeObserveOnlyEvidence) : Bool :=
  !r.configuredObserveOnly
    || r.productionActivation
    || !r.productionTieringUnitAbsent
    || r.nemordActive != r.nemordBinary.isSome
    || r.effectiveMode.isNone
    || r.nemordBinary.any badRuntimeBinary
    || !r.unexpectedNemorUnits.isEmpty
    || !r.unexpectedNemorCgroups.isEmpty

/-- The measurement is not what the manifest asks for. -/
def badMeasurement (p : PreparedManifestPayload) (swap : SwapIdentity)
    (o : ActualPostBootObservation) : Bool :=
  !swap.active
    || swap.priority != p.swapfile.priority
    || !o.workloadCompleted
    || o.workloadTimeout
    || !o.workloadReady
    || !o.workloadStarted
    || !o.workloadStopped
    || o.workloadPid == 0
    || o.workloadStartTicks == 0
    || o.cgroupPath == ""
    || o.progressSteps == 0
    || o.bytesTouched == 0
    || !o.refaultContentVerified
    -- an unknown counter does not count as zero
    || o.cgroupOomDelta != some 0
    || o.cgroupOomKillDelta != some 0
    || !(o.blockWriteAttribution == "physical-device-host-wide-noisy"
        || o.blockWriteAttribution == "bounded-physical-device-attributed")
    || o.blockWriteBytes.isNone
    || o.latencyNs.isNone
    || o.throughputBytesPerSecond.isNone
    || o.compressionRatioMilli.isNone
    || !o.refaultObserved
    || o.blockWriteBytes.any (fun v => v > p.workload.maximumWriteBytes)
    || o.oom
    || o.oomKill
    || !o.daemonObserveOnly
    || badRuntimeObservation o.runtimeObservation
    || o.productionActivation

/-- The host has booted the experiment and measured it. -/
def validateActualPostBoot (c : Codec) (m : PreparedManifest) (tx : DurableTransaction)
    (o : ActualPostBootObservation) : Except BootValidationError Unit := do
  m.validate c
  tx.validate c
  refuseIf
    (o.schema != postBootEvidenceSchema
      || tx.payload.stage != .postBootMeasuring
      -- the measurement comes from another boot than the baseline
      || o.bootId == tx.payload.baselineBootId)
    (.measurement "boot identity")
  let p := m.payload
  refuseIf
    (o.bootedEntry != p.experimentalEntry.id
      || o.kernelRelease != p.boot.kernelRelease
      || o.commandLine != p.experimentalEntry.options
      || !contains o.commandLine p.validationMarker)
    (.measurement "boot readback")
  refuseIf
    (o.zswap != { parameters := p.experimentalZswap }
      || o.protectedZram != p.protectedZram
      || o.topology != p.topology
      || !o.unitActive
      || !o.workloadScopeAbsent)
    (.measurement "runtime identity")
  -- the first swap with the path of the manifest
  match o.swaps.find? fun s => s.path == p.swapfile.path with
  | none => .error (.measurement "swap absent")
  | some swap => refuseIf (badMeasurement p swap o) (.measurement "safety or measurement gate")

/-- The host has booted back, and everything is as it was. -/
def verifyBaselineBeforeCleanup (m : PreparedManifest) (tx : DurableTransaction)
    (o : BaselineRestoreObservation) : Except BootValidationError Unit :=
  let p := m.payload
  refuseIf
    (o.schema != finalRestoreSchema
      || tx.payload.stage != .baselineBoot
      || o.bootId == tx.payload.baselineBootId
      || o.bootedEntry != p.boot.currentEntry.id
      || o.commandLine != p.boot.currentCommandLine
      -- no trace of the experimental entry is left in the running kernel
      || contains o.commandLine p.validationMarker
      || o.zswap != p.baselineZswap
      || o.protectedZram != p.protectedZram
      || o.swaps != p.baselineSwaps
      || o.defaultEntry != p.boot.defaultEntry.id
      || o.bootOrder != p.boot.bootOrder
      || o.oneShot != p.boot.priorOneShot
      || o.productionActivation)
    (.readback "baseline must be proven before deletion")

end Nemor.Tiering.BootV6
