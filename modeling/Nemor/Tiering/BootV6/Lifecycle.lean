import Nemor.Lib.Effectful
import Nemor.Tiering.BootV6.Transaction

/-!
# Boot validation v6: the lifecycle

The privileged operations as calls to a backend, and the functions of the transaction API
over them. The transaction is the mutable argument of each function; it keeps what was
assigned to it also when the function fails.
-/

namespace Nemor.Tiering.BootV6

open Effectful UnixPath

/-! ## §1 The backend -/

/-- What the commands ask of the host. -/
inductive Op where
  | persistTransaction (tx : DurableTransaction)
  | createTransactionRoot (m : PreparedManifest)
  | copyPreparedManifest (m : PreparedManifest)
  | persistEvidence (name : String) (bytes : List UInt8)
  | createSwapfile (m : PreparedManifest)
  | createArtifact (a : OwnedArtifact)
  | stageHelper (plan : StagedBinaryPlan)
  | stagedHelperMatches (plan : StagedBinaryPlan)
  | artifactMatches (a : OwnedArtifact)
  | artifactAbsent (a : OwnedArtifact)
  | syncParents (m : PreparedManifest)
  | removeArtifact (a : OwnedArtifact)
  | removeSwapfile (m : PreparedManifest)
  | swapfileAbsent (m : PreparedManifest)
  | finalizeRuntimeCleanup (m : PreparedManifest)
  | setOneShot (entry : String)
  | readOneShot
  | permanentDefault
  | bootOrder
  | collectZramBaseline (m : PreparedManifest)
  | collectPostBoot (m : PreparedManifest)
  | collectBaseline (m : PreparedManifest)
  | sealArchive (tx : DurableTransaction)

/-- What a call is answered with. -/
abbrev Op.Reply : Op → Type
  | .createSwapfile _ => Except String SwapIdentity
  | .stagedHelperMatches _ => Bool
  | .artifactMatches _ => Bool
  | .artifactAbsent _ => Bool
  | .swapfileAbsent _ => Bool
  | .readOneShot => Except String (Option String)
  | .permanentDefault => Except String String
  | .bootOrder => Except String (List String)
  | .collectZramBaseline _ => Except String BaselineMeasurementObservation
  | .collectPostBoot _ => Except String ActualPostBootObservation
  | .collectBaseline _ => Except String BaselineRestoreObservation
  | _ => Except String Unit

/-- The calls with their replies. -/
abbrev backend : Iface where
  Op := Op
  Reply := Op.Reply

/-- A function of the API. -/
abbrev Api (α : Type) := Act backend DurableTransaction BootValidationError α

/-! ## §2 Steps -/

/-- A call whose reply is looked at. -/
def ask {τ : Type} (op : Op) : Act backend τ BootValidationError op.Reply :=
  Act.request (I := backend) op

/-- `map_err(|_| e)?`. -/
def orError {α : Type} (e : BootValidationError) : Except String α → Except BootValidationError α
  | .ok a => .ok a
  | .error _ => .error e

/-- A call whose failure ends the function with `e`. -/
def insist {τ : Type} (op : Op) (h : op.Reply = Except String Unit) (e : BootValidationError) :
    Act backend τ BootValidationError Unit :=
  Act.perform (I := backend) op fun r => orError e (h ▸ r)

section Steps

variable (c : Codec)

/-- Write the transaction and read it back. -/
def persistOrFail : Api Unit := do
  let tx ← Act.current
  insist (.persistTransaction tx) rfl (.readback "durable transaction persistence")

/-- Note the error in the transaction, store it as far as possible and stop. -/
def failTransaction {α : Type} (primary : String) (secondary : List String) : Api α := do
  Act.assign fun tx => tx.amend c fun p =>
    { p with
      failedFromStage := some p.stage
      primaryError := some primary
      secondaryErrors := p.secondaryErrors ++ secondary
      stage := .failed }
  let tx ← Act.current
  -- the seal is renewed before the last store, whose result is dropped
  let _ ← ask (.persistTransaction tx)
  Act.fail (.readback "bounded mutation failed; transaction retained")

/-- `map_err(|primary| fail_transaction(..))?`. -/
def orFail {α : Type} : Except String α → Api α
  | .ok a => pure a
  | .error primary => failTransaction c primary []

/-- Go to the next stage, if the table allows it. -/
def advance (next : TransactionStage) : Api Unit := do
  let tx ← Act.current
  let tx' ← Act.ofExcept (tx.transition c next)
  Act.assign fun _ => tx'

/-- Note in the journal what is about to be done. -/
def intend (operation : String) (target : PathBuf) : Api Unit :=
  Act.assign fun tx => tx.recordIntent c operation target

/-- Note that it has been done. -/
def complete (evidence : String) : Api Unit := do
  let tx ← Act.current
  let tx' ← Act.ofExcept (tx.completeLast c evidence)
  Act.assign fun _ => tx'

/-- Store evidence under `name` and note its digest. -/
def keepEvidence (name : String) (document : Document) (e : BootValidationError) : Api Unit := do
  insist (.persistEvidence name (c.toVec document)) rfl e
  Act.assign fun tx => tx.addEvidence c name (c.canonicalJsonSha256 document)

/-- Announce a mutation durably. -/
def announce (operation : String) (target : PathBuf) : Api Unit := do
  intend c operation target
  persistOrFail

/-! ## §3 Baseline -/

/-- `initializeAndMeasureBaseline` from the first stored transaction on. -/
def measureBaseline (m : PreparedManifest) (preflight : PreflightObservation) :
    Api DurableTransaction := do
  persistOrFail
  keepEvidence c "root-preflight-v6.json" (.preflight preflight) (.readback "persist root preflight")
  advance c .rootPreflighted
  persistOrFail
  -- the helper is the only thing in place before the baseline is measured
  announce c "stage_trusted_baseline_helper" m.payload.stagedHelper.destination
  orFail c (← ask (.stageHelper m.payload.stagedHelper))
  if (← ask (.stagedHelperMatches m.payload.stagedHelper)) = false then
    failTransaction c "staged baseline helper readback mismatch" []
  else
    complete c m.payload.stagedHelper.source.sha256
    persistOrFail
    advance c .baselineMeasuring
    persistOrFail
    let observation ← orFail c (← ask (.collectZramBaseline m))
    let tx ← Act.current
    if baselineRejected m tx observation = true then
      failTransaction c "same-host zram baseline rejected" []
    else
      -- the name under which the later phases ask for this evidence ends in `v2` (see `sealAuthorities`)
      keepEvidence c "zram-baseline-evidence-v4.json" (.baselineMeasurement observation)
        (.readback "persist zram baseline")
      advance c .baselineMeasured
      persistOrFail
      Act.current

/-- From the preflight to the measured zram baseline. -/
def initializeAndMeasureBaseline {τ : Type} (m : PreparedManifest)
    (preflight : PreflightObservation) (bootId : String) :
    Act backend τ BootValidationError DurableTransaction := do
  Act.ofExcept (validatePreflight c m preflight true)
  let tx ← Act.ofExcept (DurableTransaction.new c m bootId)
  insist (.createTransactionRoot m) rfl (.readback "create transaction root")
  insist (.copyPreparedManifest m) rfl (.readback "copy prepared manifest")
  -- on failure the transaction is lost with the local variable; only what was stored remains
  Act.locally tx (measureBaseline c m preflight)

/-! ## §4 Apply -/

/-- The error of a call, if it failed. -/
def failures {α : Type} : Except String α → List String
  | .ok _ => []
  | .error e => [e]

/-- Remove artifacts in the given order and collect the errors. -/
def removeAll : List OwnedArtifact → Api (List String)
  | [] => pure []
  | a :: rest => do
    let removed ← ask (.removeArtifact a)
    let errors ← removeAll rest
    pure (failures removed ++ errors)

/-- Take back what an apply has created before it failed. -/
def rollbackPartialApply (m : PreparedManifest) (created : List OwnedArtifact) :
    Api (List String) := do
  let errors ← removeAll created.reverse
  -- the swapfile goes last, whatever happened to the artifacts
  let removed ← ask (.removeSwapfile m)
  pure (errors ++ failures removed)

/-- The loop of `applyExactTransaction`: `completed` is what is in place, in order. The
    helper is in place already; only its identity is checked. -/
def createArtifacts (m : PreparedManifest) :
    List OwnedArtifact → List OwnedArtifact → Api (List OwnedArtifact)
  | completed, [] => pure completed
  | completed, a :: rest =>
    if a.kind = .helperBinary then do
      if (← ask (.stagedHelperMatches m.payload.stagedHelper)) = false then
        -- unlike the other exits this one does not roll back
        failTransaction c "pre-staged helper changed before apply" []
      else
        createArtifacts m completed rest
    else do
      announce c "create_new_artifact" a.path
      match ← ask (.createArtifact a) with
      | .error primary =>
        -- `completed` does not have the artifact whose creation failed
        let secondary ← rollbackPartialApply m completed
        failTransaction c primary secondary
      | .ok _ =>
        if (← ask (.artifactMatches a)) = false then
          -- this artifact was created, so it goes before the completed ones
          let removed ← ask (.removeArtifact a)
          let secondary ← rollbackPartialApply m completed
          failTransaction c ("artifact readback failed: " ++ a.path.text)
            (failures removed ++ secondary)
        else
          complete c a.sha256
          persistOrFail
          createArtifacts m (completed ++ [a]) rest

/-- The permanent default or the boot order is not that of the manifest. The second is only
    read if the first is right. -/
def defaultsChanged (m : PreparedManifest) : Api Bool := do
  let default ← ask .permanentDefault
  if default.toOption ≠ some m.payload.boot.defaultEntry.id then
    pure true
  else
    let order ← ask .bootOrder
    pure (order.toOption != some m.payload.boot.bootOrder)

/-- `applyExactTransaction` after all artifacts are in place. -/
def finishApply (m : PreparedManifest) (completed : List OwnedArtifact) : Api Unit := do
  match ← ask (.syncParents m) with
  | .error primary =>
    let secondary ← rollbackPartialApply m completed
    failTransaction c primary secondary
  | .ok _ =>
    if (← defaultsChanged m) = true then
      let secondary ← rollbackPartialApply m completed
      failTransaction c "default or BootOrder changed" secondary
    else
      let tx ← Act.current
      -- a failure to store the evidence ends the function without a rollback
      keepEvidence c "apply-evidence-v6.json"
        (.applyEvidence
          { schema := applyEvidenceSchema
            validationId := tx.payload.validationId
            swap := tx.payload.appliedSwapIdentity
            artifactRegistry := tx.payload.artifactRegistry
            mutationRecords := tx.payload.mutationRecords
            productionActivation := false })
        (.readback "persist apply evidence")
      advance c .applied
      persistOrFail

/-- The new swapfile is not the one of the manifest. -/
def swapMismatch (m : PreparedManifest) (applied : SwapIdentity) : Bool :=
  applied.path != m.payload.swapfile.path
    || applied.sizeBytes != m.payload.swapfile.sizeBytes
    || applied.active
    || applied.uuid.isNone

/-- `applyExactTransaction` from the swapfile on. -/
def createAll (m : PreparedManifest) : Api Unit := do
  announce c "create_btrfs_swapfile" m.payload.swapfile.path
  -- a failed creation is noted and nothing is removed
  let applied ← orFail c (← ask (.createSwapfile m))
  Act.assign fun tx => tx.amend c fun p => { p with appliedSwapIdentity := some applied }
  persistOrFail
  if swapMismatch m applied = true then
    let removed ← ask (.removeSwapfile m)
    failTransaction c "created swap identity mismatch" (failures removed)
  else
    complete c (c.canonicalJsonSha256 (.swap applied))
    persistOrFail
    -- the rollback list starts with the helpers, which the loop skips
    let helpers := m.payload.ownedArtifacts.filter fun a => a.kind == .helperBinary
    let completed ← createArtifacts c m helpers m.payload.ownedArtifacts
    finishApply c m completed

/-- Create and activate everything, or take it back. -/
def applyExactTransaction (m : PreparedManifest) : Api Unit := do
  Act.ofExcept (m.validate c)
  let tx ← Act.current
  Act.ofExcept (tx.validate c)
  -- only a measured transaction of this very manifest is applied
  Act.ofExcept (refuseIf
    (tx.payload.stage != .baselineMeasured
      || tx.payload.manifestSha256 != c.canonicalJsonSha256 (.manifest m)
      || (tx.payload.evidenceHashes.lookup "zram-baseline-evidence-v4.json").isNone)
    .transition)
  advance c .applying
  persistOrFail
  createAll c m

/-! ## §5 One-shot entries -/

/-- The next boot is not exactly the requested entry, or the defaults have changed. -/
def oneShotDiffers (m : PreparedManifest) (entry : String) : Api Bool := do
  let effective ← ask .readOneShot
  if effective.toOption.join ≠ some entry then
    pure true
  else
    defaultsChanged m

/-- Ask for the experimental entry at the next boot. -/
def selectExactOneShot (m : PreparedManifest) : Api Unit := do
  Act.ofExcept (m.validate c)
  let tx ← Act.current
  Act.ofExcept (tx.validate c)
  let staged ← ask (.stagedHelperMatches m.payload.stagedHelper)
  Act.ofExcept (refuseIf (!staged) (.readback "staged helper"))
  advance c .oneShotSelecting
  persistOrFail
  announce c "set_oneshot" m.payload.experimentalEntry.path
  orFail c (← ask (.setOneShot m.payload.experimentalEntry.id))
  if (← oneShotDiffers m m.payload.experimentalEntry.id) = true then
    failTransaction c "one-shot readback mismatch" []
  else
    -- the three values are read again for the evidence
    let effective ← ask .readOneShot
    let default ← ask .permanentDefault
    let order ← ask .bootOrder
    keepEvidence c "one-shot-evidence-v6.json"
      (.oneShotEvidence
        { schema := "tiering-one-shot-evidence-v6"
          requested := m.payload.experimentalEntry.id
          effective := effective.toOption.join
          default := default.toOption
          bootOrder := order.toOption })
      (.readback "persist one-shot evidence")
    complete c (c.canonicalJsonSha256 (.entry m.payload.experimentalEntry))
    advance c .oneShotSelected
    persistOrFail

/-- Ask for the old entry at the next boot. -/
def selectBaselineRollback (m : PreparedManifest) : Api Unit := do
  -- neither the manifest nor the transaction is validated here
  advance c .baselineSelecting
  persistOrFail
  announce c "set_baseline_oneshot" m.payload.boot.currentEntry.path
  orFail c (← ask (.setOneShot m.payload.recoveryEntry))
  if (← oneShotDiffers m m.payload.recoveryEntry) = true then
    failTransaction c "baseline one-shot readback mismatch" []
  else
    complete c (c.canonicalJsonSha256 (.text m.payload.recoveryEntry))
    advance c .baselineSelected
    persistOrFail

/-! ## §6 Activation and measurement -/

/-- The stages between the one-shot selection and the measurement, on the path without
    failure. -/
def activationStages : List TransactionStage :=
  [.experimentalBootDetected, .activationPreparing, .zswapDisabling, .zswapParametersApplying,
    .zswapEnabling, .swapActivating, .activationVerified]

/-- Each stage is entered and stored. -/
def activate : List TransactionStage → Api Unit
  | [] => pure ()
  | stage :: rest => do
    advance c stage
    persistOrFail
    activate rest

/-- The figures of an observation. What was not measured is zero. -/
def postBootSummary (m : PreparedManifest) (o : ActualPostBootObservation) : PostBootSummary where
  backingWriteBytes := o.blockWriteBytes.getD 0
  latencyNs := o.latencyNs.getD 0
  writeBudgetPassed := o.blockWriteBytes.any fun bytes => bytes ≤ m.payload.workload.maximumWriteBytes
  oom := o.oom || o.oomKill
  safetyFailure := o.productionActivation || !o.daemonObserveOnly || !o.workloadCompleted
  backingWriteConfidence := o.blockWriteAttribution

/-- Observe the host after the boot and judge it. -/
def collectAndValidatePostBoot (m : PreparedManifest) : Api ActualPostBootObservation := do
  let tx ← Act.current
  Act.ofExcept (refuseIf (tx.payload.stage != .activationVerified) .transition)
  let staged ← ask (.stagedHelperMatches m.payload.stagedHelper)
  Act.ofExcept (refuseIf (!staged) (.readback "staged helper after reboot"))
  advance c .postBootMeasuring
  persistOrFail
  let observation ← orFail c (← ask (.collectPostBoot m))
  let tx ← Act.current
  -- a rejected observation leaves the stage `postBootMeasuring` behind, without a failure note
  Act.ofExcept (validateActualPostBoot c m tx observation)
  keepEvidence c "post-boot-evidence-v6.json" (.postBoot observation)
    (.readback "persist post-boot evidence")
  Act.assign fun tx => tx.amend c fun p =>
    { p with postBootSummary := some (postBootSummary m observation) }
  advance c .postBootValidated
  persistOrFail
  pure observation

/-! ## §7 Cleanup -/

/-- The first command after the boot back. -/
def enterBaselineBoot : Api Unit := do
  let tx ← Act.current
  -- the transaction may also come with `baselineBoot` already entered
  if tx.payload.stage = .baselineSelected then
    advance c .baselineBoot
    persistOrFail
  else
    pure ()

/-- Nothing is removed before the observation has passed. -/
def proveBaseline (m : PreparedManifest) : Api Unit := do
  let reply ← ask (.collectBaseline m)
  let baseline ← Act.ofExcept (orError (.readback "collect baseline") reply)
  let tx ← Act.current
  Act.ofExcept (verifyBaselineBeforeCleanup m tx baseline)
  keepEvidence c "baseline-restore-evidence-v6.json" (.baselineRestore baseline)
    (.readback "persist baseline evidence")
  -- both stages are stored before the first removal
  advance c .baselineVerified
  persistOrFail
  advance c .cleaning
  persistOrFail

/-- Remove files one by one, each with its entry in the journal. -/
def removeArtifacts : List OwnedArtifact → Api Unit
  | [] => pure ()
  | a :: rest => do
    announce c "remove_exact_artifact" a.path
    orFail c (← ask (.removeArtifact a))
    complete c "absent"
    persistOrFail
    removeArtifacts rest

/-- Some artifact is left; the first one found ends the search. -/
def artifactLeft : List OwnedArtifact → Api Bool
  | [] => pure false
  | a :: rest => do
    if (← ask (.artifactAbsent a)) = false then
      pure true
    else
      artifactLeft rest

/-- Whether a file or the swap file is still there. -/
def anythingLeft (m : PreparedManifest) : Api Bool := do
  if (← artifactLeft m.payload.ownedArtifacts) = true then
    pure true
  else
    let absent ← ask (.swapfileAbsent m)
    pure (!absent)

/-- Remove everything that the apply has created. -/
def removeOwned (m : PreparedManifest) : Api Unit := do
  -- in the reverse of the order in which they were created
  removeArtifacts c m.payload.ownedArtifacts.reverse
  announce c "remove_exact_swapfile" m.payload.swapfile.path
  orFail c (← ask (.removeSwapfile m))
  complete c "absent"
  -- the last completion is not stored before this check
  if (← anythingLeft m) = true then
    failTransaction c "final exact-owned absence verification failed" []
  else
    orFail c (← ask (.finalizeRuntimeCleanup m))

/-- The digest noted under a name. -/
def evidenceHash (tx : DurableTransaction) (name : String) (e : BootValidationError) :
    Except BootValidationError String :=
  match tx.payload.evidenceHashes.lookup name with
  | some digest => .ok digest
  | none => .error e

/-- The sealed measurements of the baseline. -/
def baselineAuthority (m : PreparedManifest) (archive raw : String) :
    SameHostZramBaselineEvidence where
  schema := zramBaselineEvidence
  validationId := m.payload.validationId
  sourceCommit := m.payload.sourceCommit
  sourceStateSha256 := m.payload.sourceStateSha256
  environmentSha256 := m.payload.materialEnvironmentSha256
  topologySha256 := c.canonicalJsonSha256 (.topology m.payload.topology)
  workloadSha256 := c.canonicalJsonSha256 (.workload m.payload.workload)
  real := true
  oom := false
  safetyFailure := false
  cleanupPassed := true
  finalRestorePassed := true
  archiveSha256 := archive
  rawEvidenceSha256 := raw
  workloadProtocol := BootV6.workloadProtocol

/-- The sealed measurements of the profile. -/
def profileAuthority (m : PreparedManifest) (archive raw : String) (summary : PostBootSummary) :
    SameHostProfileEvidence where
  schema := profileBenchmarkEvidence
  validationId := m.payload.validationId
  profile := m.payload.topology.profile
  sourceCommit := m.payload.sourceCommit
  sourceStateSha256 := m.payload.sourceStateSha256
  environmentSha256 := m.payload.materialEnvironmentSha256
  topologySha256 := c.canonicalJsonSha256 (.topology m.payload.topology)
  workloadSha256 := c.canonicalJsonSha256 (.workload m.payload.workload)
  real := true
  oom := summary.oom
  safetyFailure := summary.safetyFailure
  cleanupPassed := true
  finalRestorePassed := true
  writeBudgetPassed := summary.writeBudgetPassed
  backingWriteBytes := some summary.backingWriteBytes
  latencyNs := some summary.latencyNs
  archiveSha256 := archive
  rawEvidenceSha256 := raw
  workloadProtocol := BootV6.workloadProtocol
  backingWriteConfidence := summary.backingWriteConfidence

/-- Store an authority. Its digest enters the payload at once; the seal is renewed after the
    last one only. -/
def keepAuthority (name : String) (document : Document) : Api Unit := do
  insist (.persistEvidence name (c.toVec document)) rfl (.readback "persist same-host authority")
  Act.assign fun tx =>
    { tx with
      payload := { tx.payload with
        evidenceHashes := tx.payload.evidenceHashes.insert name (c.canonicalJsonSha256 document) } }

/-- Seal both, from the raw evidence noted before. -/
def sealAuthorities (m : PreparedManifest) : Api Unit := do
  let tx ← Act.current
  -- no function notes evidence under this name
  let baselineRaw ← Act.ofExcept
    (evidenceHash tx "zram-baseline-evidence-v2.json" (.readback "baseline raw evidence"))
  let profileRaw ← Act.ofExcept
    (evidenceHash tx "post-boot-evidence-v6.json" (.readback "profile raw evidence"))
  match tx.payload.postBootSummary with
  | none => Act.fail (.readback "profile summary")
  | some summary =>
    let archive := tx.payload.manifestSha256
    keepAuthority c "same-host-zram-baseline-v2.json"
      (.zramBaseline (baselineAuthority c m archive baselineRaw))
    keepAuthority c "same-host-profile-v6.json"
      (.profile (profileAuthority c m archive profileRaw summary))
    -- from the first authority to this line the seal is out of date
    Act.assign fun tx => tx.amend c id
    advance c .restored
    persistOrFail
    let tx ← Act.current
    insist (.sealArchive tx) rfl (.readback "seal evidence archive")

/-- Prove the baseline, and only then remove what is owned. -/
def verifyThenCleanup (m : PreparedManifest) : Api Unit := do
  enterBaselineBoot c
  proveBaseline c m
  removeOwned c m
  sealAuthorities c m

end Steps

/-! ## §8 Rules for the steps -/

section Rules

variable {c : Codec} {σ : Type} {R : Env backend DurableTransaction σ}
  {J : DurableTransaction → σ → Prop} {tx : DurableTransaction} {s : σ}
  {Q : Except BootValidationError Unit → DurableTransaction → σ → Prop}

theorem wp_ask {op : Op} {Q : Except BootValidationError op.Reply → DurableTransaction → σ → Prop} :
    Act.wp R J (ask op) Q tx s ↔ J tx s ∧ ∀ r s', R tx s op r s' → Q (.ok r) tx s' := Iff.rfl

theorem wp_insist {τ : Type} {R : Env backend τ σ} {J : τ → σ → Prop} {t : τ} {op : Op}
    {hop : op.Reply = Except String Unit} {e : BootValidationError}
    {Q : Except BootValidationError Unit → τ → σ → Prop} :
    Act.wp R J (insist op hop e) Q t s ↔
      J t s ∧ ∀ r s', R t s op r s' → Q (orError e (hop ▸ r)) t s' := Iff.rfl

theorem wp_persistOrFail :
    Act.wp R J persistOrFail Q tx s ↔
      J tx s ∧ ∀ r s', R tx s (.persistTransaction tx) r s' →
        Q (orError (.readback "durable transaction persistence") r) tx s' := Iff.rfl

theorem wp_keepEvidence {name : String} {document : Document} {e : BootValidationError}
    (hJ : J tx s)
    (hQ : ∀ r s', R tx s (.persistEvidence name (c.toVec document)) r s' →
      match r with
      | .ok _ => Q (.ok ()) (tx.addEvidence c name (c.canonicalJsonSha256 document)) s'
      | .error _ => Q (.error e) tx s') :
    Act.wp R J (keepEvidence c name document e) Q tx s := by
  apply Act.wp_bind.2
  refine ⟨hJ, fun r s' hr => ?_⟩
  have h := hQ r s' hr
  cases r with
  | ok _ => exact h
  | error _ => exact h

/-- A transition may be refused. -/
theorem wp_advance {next : TransactionStage} (herror : ∀ e, Q (.error e) tx s)
    (hok : Q (.ok ()) (tx.amend c fun p => { p with stage := next }) s) :
    Act.wp R J (advance c next) Q tx s := by
  apply Act.wp_bind.2
  apply Act.wp_current.2
  apply Act.wp_bind.2
  apply Act.wp_ofExcept.2
  cases htx : tx.transition c next with
  | error e => exact herror e
  | ok tx' =>
    obtain ⟨-, rfl⟩ := DurableTransaction.transition_ok htx
    exact hok

end Rules

end Nemor.Tiering.BootV6
