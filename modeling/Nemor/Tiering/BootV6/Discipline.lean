import Nemor.Tiering.BootV6.Lifecycle

/-!
# Boot validation v6: what the functions do to an invariant

The functions of the API change the transaction and issue calls in few ways: they edit the
transaction without touching its evidence, note evidence under one of eight names, issue
plain calls, and issue calls that they have announced. An invariant that survives each of
these survives every function. The walk over the functions is made here once.
-/

namespace Nemor.Tiering.BootV6

open Effectful UnixPath

/-! ## §1 Calls and their targets -/

/-- The calls that put something in place or choose the next boot. -/
def Op.forward : Op → Bool
  | .stageHelper _ | .createSwapfile _ | .createArtifact _ | .setOneShot _ => true
  | _ => false

/-- The call removes something. -/
def Op.removes : Op → Bool
  | .removeArtifact _ | .removeSwapfile _ => true
  | _ => false

/-- The calls that neither mutate nor store the transaction. -/
def Op.plain : Op → Bool
  | .persistTransaction _ => false
  | op => !op.forward && !op.removes

theorem Op.forward_of_plain {op : Op} (h : op.plain = true) : op.forward = false := by
  cases op <;> first | rfl | cases h

theorem Op.removes_of_plain {op : Op} (h : op.plain = true) : op.removes = false := by
  cases op <;> first | rfl | cases h

/-- The file of the boot entry with this name. -/
def PreparedManifest.entryPath? (m : PreparedManifest) (id : String) : Option PathBuf :=
  ([m.payload.experimentalEntry, m.payload.boot.currentEntry].find? fun e => e.id == id).map (·.path)

/-- What a call changes. -/
def Op.target? (m : PreparedManifest) : Op → Option PathBuf
  | .stageHelper plan => some plan.destination
  | .createSwapfile m' | .removeSwapfile m' => some m'.payload.swapfile.path
  | .createArtifact a | .removeArtifact a => some a.path
  | .setOneShot entry => m.entryPath? entry
  | _ => none

theorem target?_experimental (m : PreparedManifest) :
    (Op.setOneShot m.payload.experimentalEntry.id).target? m =
      some m.payload.experimentalEntry.path := by
  simp [Op.target?, PreparedManifest.entryPath?]

/-- In a valid manifest the recovery entry is found at the current entry. -/
theorem target?_recovery {c : Codec} {m : PreparedManifest} (hm : m.validate c = .ok ()) :
    (Op.setOneShot m.payload.recoveryEntry).target? m = some m.payload.boot.currentEntry.path := by
  have hentry := PreparedManifest.recoveryEntry_of_validate hm
  have hne := PreparedManifest.experimental_ne_current_of_validate hm
  simp [Op.target?, PreparedManifest.entryPath?, hentry, hne]

/-- The transaction is sealed and ends with an open intent for `path`. -/
structure Announces (c : Codec) (tx : DurableTransaction) (path : PathBuf) : Prop where
  valid : tx.validate c = .ok ()
  intent : ∃ record, tx.payload.mutationRecords.getLast? = some record ∧
    record.completed = false ∧ record.target = path

theorem announces_recordIntent {c : Codec} {tx : DurableTransaction} {operation : String}
    {path : PathBuf} (h : tx.schema = durableTransactionSchema) :
    Announces c (tx.recordIntent c operation path) path where
  valid := by
    simp [DurableTransaction.validate, DurableTransaction.recordIntent, DurableTransaction.amend,
      refuseIf, h]
  intent := ⟨_, by simp [DurableTransaction.recordIntent, DurableTransaction.amend]; rfl, rfl, rfl⟩

/-! ## §2 Invariants -/

/-- The names under which the functions store evidence. -/
def evidenceNames : List String :=
  ["root-preflight-v6.json", "zram-baseline-evidence-v4.json", "apply-evidence-v6.json",
    "one-shot-evidence-v6.json", "post-boot-evidence-v6.json", "baseline-restore-evidence-v6.json",
    "same-host-zram-baseline-v2.json", "same-host-profile-v6.json"]

variable {σ : Type}

/-- `K` survives the bookkeeping of the functions: edits, which renew the seal, notes of
    evidence, the storing of the transaction in hand, and plain calls. -/
structure Bookkeeping (c : Codec) (R : Env backend DurableTransaction σ)
    (K : DurableTransaction → σ → Prop) : Prop where
  edit : ∀ tx tx' s, tx'.schema = tx.schema → tx'.IsSealed c →
    tx'.payload.evidenceHashes = tx.payload.evidenceHashes → K tx s → K tx' s
  note : ∀ tx tx' s name digest, name ∈ evidenceNames → tx'.schema = tx.schema → tx'.IsSealed c →
    tx'.payload.evidenceHashes = tx.payload.evidenceHashes.insert name digest → K tx s → K tx' s
  store : ∀ tx s r s', K tx s → R tx s (.persistTransaction tx) r s' → K tx s'
  plain : ∀ tx s op r s', op.plain = true → K tx s → R tx s op r s' → K tx s'

/-- `K` does not look at the seal: it survives notes of evidence that do not renew it. -/
def SealBlind (K : DurableTransaction → σ → Prop) : Prop :=
  ∀ tx tx' s name digest, name ∈ evidenceNames → tx'.schema = tx.schema →
    tx'.payload.evidenceHashes = tx.payload.evidenceHashes.insert name digest → K tx s → K tx' s

/-- `K` also survives a call that was announced and stored just before. -/
structure Respects (c : Codec) (m : PreparedManifest) (R : Env backend DurableTransaction σ)
    (K : DurableTransaction → σ → Prop) : Prop extends Bookkeeping c R K where
  announced : ∀ tx s s₁ s₂ op r path, op.target? m = some path → Announces c tx path → K tx s →
    R tx s (.persistTransaction tx) (.ok ()) s₁ → R tx s₁ op r s₂ → K tx s₂

/-- `K` survives removals also when they are not announced. -/
def Tolerates (R : Env backend DurableTransaction σ) (K : DurableTransaction → σ → Prop) : Prop :=
  ∀ tx s op r s', op.removes = true → K tx s → R tx s op r s' → K tx s'

/-- The invariant once a transition has checked the transaction. -/
abbrev Checked (K : DurableTransaction → σ → Prop) : DurableTransaction → σ → Prop :=
  fun tx s => K tx s ∧ tx.schema = durableTransactionSchema

variable {c : Codec} {m : PreparedManifest} {R : Env backend DurableTransaction σ}
  {K : DurableTransaction → σ → Prop}

theorem Bookkeeping.checked (h : Bookkeeping c R K) : Bookkeeping c R (Checked K) where
  edit tx tx' s hs hseal he hK := ⟨h.edit tx tx' s hs hseal he hK.1, hs.trans hK.2⟩
  note tx tx' s name digest hn hs hseal he hK :=
    ⟨h.note tx tx' s name digest hn hs hseal he hK.1, hs.trans hK.2⟩
  store tx s r s' hK hR := ⟨h.store tx s r s' hK.1 hR, hK.2⟩
  plain tx s op r s' hp hK hR := ⟨h.plain tx s op r s' hp hK.1 hR, hK.2⟩

theorem SealBlind.checked (h : SealBlind K) : SealBlind (Checked K) :=
  fun tx tx' s name digest hn hs he hK =>
    ⟨h tx tx' s name digest hn hs he hK.1, hs.trans hK.2⟩

theorem Respects.checked (h : Respects c m R K) : Respects c m R (Checked K) where
  toBookkeeping := h.toBookkeeping.checked
  announced tx s s₁ s₂ op r path ht ha hK h₁ h₂ :=
    ⟨h.announced tx s s₁ s₂ op r path ht ha hK.1 h₁ h₂, hK.2⟩

theorem Tolerates.checked (h : Tolerates R K) : Tolerates R (Checked K) :=
  fun tx s op r s' hr hK hR => ⟨h tx s op r s' hr hK.1 hR, hK.2⟩

/-! ## §3 Steps -/

section Steps

variable (h : Bookkeeping c R K)

include h

theorem ask_keeps {op : Op} (hp : op.plain = true) : Act.Keeps R K (ask op) :=
  Act.keeps_request fun tx s r s' hK hR => h.plain tx s op r s' hp hK hR

theorem insist_keeps {op : Op} {hop : op.Reply = Except String Unit} {e : BootValidationError}
    (hp : op.plain = true) : Act.Keeps R K (insist op hop e) :=
  Act.keeps_perform fun tx s r s' hK hR => h.plain tx s op r s' hp hK hR

theorem persistOrFail_keeps : Act.Keeps R K persistOrFail := by
  intro tx s hK
  apply wp_persistOrFail.2
  exact ⟨hK, fun r s' hR => h.store tx s r s' hK hR⟩

/-- The transaction in hand is stored and the reply is looked at. -/
theorem storeCurrent_leads {α : Type} {K' : α → DurableTransaction → σ → Prop}
    {k : (tx : DurableTransaction) → (Op.persistTransaction tx).Reply → Api α}
    (hk : ∀ tx r, Act.Leads R K K' (k tx r)) :
    Act.Leads R K K' (Act.current >>= fun tx => ask (.persistTransaction tx) >>= k tx) := by
  intro tx s hK
  -- what is stored is the transaction in hand, so `store` applies
  simp only [Act.wp_bind, Act.wp_current, ask]
  exact ⟨hK, fun r s' hR => hk tx r tx s' (h.store tx s r s' hK hR)⟩

/-- An edit that leaves the evidence alone. -/
theorem amend_keeps {f : DurableTransactionPayload → DurableTransactionPayload}
    (hf : ∀ p, (f p).evidenceHashes = p.evidenceHashes) :
    Act.Keeps R K (Act.assign fun tx => tx.amend c f : Api Unit) :=
  Act.keeps_assign fun tx s hK => h.edit tx _ s rfl rfl (hf tx.payload) hK

theorem failTransaction_leads {α : Type} {K' : α → DurableTransaction → σ → Prop}
    (primary : String) (secondary : List String) :
    Act.Leads R K K' (failTransaction c primary secondary : Api α) := by
  apply Act.leads_after
  · exact amend_keeps h fun _ => rfl
  · intro _
    exact storeCurrent_leads h fun _ _ => Act.leads_fail _

theorem failTransaction_keeps {α : Type} (primary : String) (secondary : List String) :
    Act.Keeps R K (failTransaction c primary secondary : Api α) := by
  have hleads : Act.Leads R K (fun _ _ _ => True) (failTransaction c primary secondary : Api α) :=
    failTransaction_leads h primary secondary
  exact hleads.keeps

theorem orFail_keeps {α : Type} (x : Except String α) : Act.Keeps R K (orFail c x) := by
  cases x with
  | ok a => exact Act.keeps_pure a
  | error primary => exact failTransaction_keeps h primary []

/-- A transition checks the transaction first. -/
theorem advance_leads (next : TransactionStage) :
    Act.Leads R K (fun _ tx _ => tx.schema = durableTransactionSchema) (advance c next) := by
  intro tx s hK
  simp only [advance, Act.wp_bind, Act.wp_current, Act.wp_ofExcept]
  -- a refused transition changes nothing
  cases htx : tx.transition c next with
  | error e => exact ⟨hK, fun _ he => by cases he⟩
  | ok tx' =>
    obtain ⟨hschema, rfl⟩ := DurableTransaction.transition_ok htx
    exact ⟨h.edit tx _ s rfl rfl rfl hK, fun _ _ => hschema⟩

theorem advance_keeps (next : TransactionStage) : Act.Keeps R K (advance c next) :=
  (advance_leads h next).keeps

theorem complete_keeps (evidence : String) : Act.Keeps R K (complete c evidence) := by
  intro tx s hK
  simp only [complete, DurableTransaction.completeLast, Act.wp_bind, Act.wp_current,
    Act.wp_ofExcept]
  cases DurableTransaction.completeRecords evidence tx.payload.mutationRecords with
  | none => exact hK
  | some records => exact h.edit tx _ s rfl rfl rfl hK

theorem keepEvidence_keeps {name : String} {document : Document} {e : BootValidationError}
    (hn : name ∈ evidenceNames) : Act.Keeps R K (keepEvidence c name document e) := by
  apply Act.keeps_bind (insist_keeps h rfl)
  intro _
  exact Act.keeps_assign fun tx s hK => h.note tx _ s name _ hn rfl rfl rfl hK

theorem defaultsChanged_keeps : Act.Keeps R K (defaultsChanged m) := by
  apply Act.keeps_bind (ask_keeps h rfl)
  intro _
  apply Act.keeps_ite
  · intro _
    exact Act.keeps_pure _
  · intro _
    apply Act.keeps_bind (ask_keeps h rfl)
    intro _
    exact Act.keeps_pure _

theorem oneShotDiffers_keeps (entry : String) : Act.Keeps R K (oneShotDiffers m entry) := by
  apply Act.keeps_bind (ask_keeps h rfl)
  intro _
  apply Act.keeps_ite
  · intro _
    exact Act.keeps_pure _
  · intro _
    exact defaultsChanged_keeps h

end Steps

/-- A removal that is tolerated. -/
theorem removal_keeps (ht : Tolerates R K) {op : Op} (hr : op.removes = true) :
    Act.Keeps R K (ask op) :=
  Act.keeps_request fun tx s r s' hK hR => ht tx s op r s' hr hK hR

theorem removeAll_keeps (ht : Tolerates R K) (artifacts : List OwnedArtifact) :
    Act.Keeps R K (removeAll artifacts) := by
  induction artifacts with
  | nil => exact Act.keeps_pure []
  | cons a rest ih =>
    apply Act.keeps_bind (removal_keeps ht rfl)
    intro _
    apply Act.keeps_bind ih
    intro _
    exact Act.keeps_pure _

theorem rollbackPartialApply_keeps (ht : Tolerates R K) (created : List OwnedArtifact) :
    Act.Keeps R K (rollbackPartialApply m created) := by
  apply Act.keeps_bind (removeAll_keeps ht created.reverse)
  intro _
  apply Act.keeps_bind (removal_keeps ht rfl)
  intro _
  exact Act.keeps_pure _

/-- An announced call, with what follows it. -/
theorem announced_leads (h : Respects c m R K) {operation : String} {path : PathBuf} {op : Op}
    {α : Type} {K' : α → DurableTransaction → σ → Prop} {k : op.Reply → Api α}
    (ht : op.target? m = some path) (hk : ∀ r, Act.Leads R (Checked K) K' (k r)) :
    Act.Leads R (Checked K) K' (announce c operation path >>= fun _ => ask op >>= k) := by
  intro tx s hK
  have ha : Announces c (tx.recordIntent c operation path) path := announces_recordIntent hK.2
  have hK' : Checked K (tx.recordIntent c operation path) s :=
    h.checked.edit tx _ s rfl rfl rfl hK
  simp only [announce, intend, persistOrFail, insist, ask, Act.wp_bind, Act.wp_assign,
    Act.wp_current, Act.wp_perform]
  refine ⟨hK', fun reply s₁ h₁ => ?_⟩
  have hK₁ : Checked K (tx.recordIntent c operation path) s₁ :=
    h.checked.store _ s _ s₁ hK' h₁
  cases reply with
  | error e => exact ⟨hK₁, fun _ he => by cases he⟩
  | ok _ =>
    -- the transaction is stored; the call comes next
    refine ⟨hK₁, fun r s₂ h₂ => ?_⟩
    have hK₂ := h.checked.announced _ s s₁ s₂ op r path ht ha hK' h₁ h₂
    exact hk r _ s₂ hK₂

theorem announced_keeps (h : Respects c m R K) {operation : String} {path : PathBuf} {op : Op}
    {α : Type} {k : op.Reply → Api α} (ht : op.target? m = some path)
    (hk : ∀ r, Act.Keeps R (Checked K) (k r)) :
    Act.Keeps R (Checked K) (announce c operation path >>= fun _ => ask op >>= k) :=
  (announced_leads h ht fun r => (hk r).trivially).keeps

/-! ## §4 Functions without mutations -/

section Observing

variable (h : Bookkeeping c R K)

include h

theorem activate_keeps (stages : List TransactionStage) : Act.Keeps R K (activate c stages) := by
  induction stages with
  | nil => exact Act.keeps_pure ()
  | cons stage rest ih =>
    apply Act.keeps_bind (advance_keeps h stage)
    intro _
    apply Act.keeps_bind (persistOrFail_keeps h)
    intro _
    exact ih

theorem collectAndValidatePostBoot_keeps : Act.Keeps R K (collectAndValidatePostBoot c m) := by
  apply Act.keeps_bind Act.keeps_current
  intro tx
  apply Act.keeps_bind (Act.keeps_ofExcept _)
  intro _
  apply Act.keeps_bind (ask_keeps h rfl)
  intro staged
  apply Act.keeps_bind (Act.keeps_ofExcept _)
  intro _
  apply Act.keeps_bind (advance_keeps h _)
  intro _
  apply Act.keeps_bind (persistOrFail_keeps h)
  intro _
  -- the measurement itself is a plain call
  apply Act.keeps_bind (ask_keeps h rfl)
  intro reply
  apply Act.keeps_bind (orFail_keeps h reply)
  intro observation
  apply Act.keeps_bind Act.keeps_current
  intro tx
  apply Act.keeps_bind (Act.keeps_ofExcept _)
  intro _
  -- the evidence is noted, then its summary
  apply Act.keeps_bind (keepEvidence_keeps h (by decide))
  intro _
  apply Act.keeps_bind
  · exact amend_keeps h fun _ => rfl
  · intro _
    apply Act.keeps_bind (advance_keeps h _)
    intro _
    apply Act.keeps_bind (persistOrFail_keeps h)
    intro _
    exact Act.keeps_pure _

theorem enterBaselineBoot_keeps : Act.Keeps R K (enterBaselineBoot c) := by
  apply Act.keeps_bind Act.keeps_current
  intro tx
  apply Act.keeps_ite
  · intro _
    apply Act.keeps_bind (advance_keeps h _)
    intro _
    exact persistOrFail_keeps h
  · intro _
    exact Act.keeps_pure _

theorem proveBaseline_leads :
    Act.Leads R K (fun _ tx _ => tx.schema = durableTransactionSchema) (proveBaseline c m) := by
  apply Act.leads_after (ask_keeps h rfl)
  intro reply
  apply Act.leads_after (Act.keeps_ofExcept _)
  intro baseline
  apply Act.leads_after Act.keeps_current
  intro tx
  apply Act.leads_after (Act.keeps_ofExcept _)
  intro _
  apply Act.leads_after (keepEvidence_keeps h (by decide))
  intro _
  apply Act.leads_after (advance_keeps h _)
  intro _
  apply Act.leads_after (persistOrFail_keeps h)
  intro _
  -- the last transition has checked the transaction, which the removals rely on
  apply Act.leads_bind (advance_leads h .cleaning)
  intro _
  exact (persistOrFail_keeps h.checked).leads fun _ _ _ hK => hK.2

theorem artifactLeft_keeps (artifacts : List OwnedArtifact) :
    Act.Keeps R K (artifactLeft artifacts) := by
  induction artifacts with
  | nil => exact Act.keeps_pure false
  | cons a rest ih =>
    apply Act.keeps_bind (ask_keeps h rfl)
    intro _
    apply Act.keeps_ite
    · intro _
      exact Act.keeps_pure true
    · intro _
      exact ih

theorem anythingLeft_keeps : Act.Keeps R K (anythingLeft m) := by
  apply Act.keeps_bind (artifactLeft_keeps h _)
  intro _
  apply Act.keeps_ite
  · intro _
    exact Act.keeps_pure true
  · intro _
    apply Act.keeps_bind (ask_keeps h rfl)
    intro _
    exact Act.keeps_pure _

theorem keepAuthority_keeps (hblind : SealBlind K) {name : String} {document : Document}
    (hn : name ∈ evidenceNames) : Act.Keeps R K (keepAuthority c name document) := by
  apply Act.keeps_bind (insist_keeps h rfl)
  intro _
  exact Act.keeps_assign fun tx s hK => hblind tx _ s name _ hn rfl rfl hK

/-- Between its two notes of evidence the function leaves the seal behind. -/
theorem sealAuthorities_keeps (hblind : SealBlind K) : Act.Keeps R K (sealAuthorities c m) := by
  apply Act.keeps_bind Act.keeps_current
  intro tx
  apply Act.keeps_bind (Act.keeps_ofExcept _)
  intro baselineRaw
  apply Act.keeps_bind (Act.keeps_ofExcept _)
  intro profileRaw
  cases tx.payload.postBootSummary with
  | none => exact Act.keeps_fail _
  | some summary =>
    -- two notes without a seal, then one edit that renews it
    apply Act.keeps_bind (keepAuthority_keeps h hblind (by decide))
    intro _
    apply Act.keeps_bind (keepAuthority_keeps h hblind (by decide))
    intro _
    apply Act.keeps_bind
    · exact amend_keeps h fun _ => rfl
    · intro _
      apply Act.keeps_bind (advance_keeps h _)
      intro _
      apply Act.keeps_bind (persistOrFail_keeps h)
      intro _
      apply Act.keeps_bind Act.keeps_current
      intro tx
      exact insist_keeps h rfl

end Observing

/-! ## §5 Functions with mutations -/

section Functions

variable (h : Respects c m R K)

include h

/-- The transaction that is returned meets the invariant too. -/
theorem measureBaseline_leads (preflight : PreflightObservation) :
    Act.Leads R K (fun tx _ s => K tx s) (measureBaseline c m preflight) := by
  have hb := h.toBookkeeping
  have hc := hb.checked
  apply Act.leads_after (persistOrFail_keeps hb)
  intro _
  apply Act.leads_after (keepEvidence_keeps hb (by decide))
  intro _
  -- from here on the transaction is checked
  apply Act.leads_bind (advance_leads hb .rootPreflighted)
  intro _
  apply Act.leads_after (persistOrFail_keeps hc)
  intro _
  -- the only mutation of this function
  apply announced_leads h rfl
  intro staged
  apply Act.leads_after (orFail_keeps hc staged)
  intro _
  apply Act.leads_after (ask_keeps hc rfl)
  intro _
  apply Act.leads_ite
  · intro _
    exact failTransaction_leads hc _ _
  · intro _
    apply Act.leads_after (complete_keeps hc _)
    intro _
    apply Act.leads_after (persistOrFail_keeps hc)
    intro _
    apply Act.leads_after (advance_keeps hc _)
    intro _
    apply Act.leads_after (persistOrFail_keeps hc)
    intro _
    apply Act.leads_after (ask_keeps hc rfl)
    intro measured
    apply Act.leads_after (orFail_keeps hc measured)
    intro observation
    apply Act.leads_after Act.keeps_current
    intro tx
    apply Act.leads_ite
    · intro _
      exact failTransaction_leads hc _ _
    · intro _
      apply Act.leads_after (keepEvidence_keeps hc (by decide))
      intro _
      apply Act.leads_after (advance_keeps hc _)
      intro _
      apply Act.leads_after (persistOrFail_keeps hc)
      intro _
      exact Act.leads_current fun _ _ hK => hK.1

theorem createArtifacts_keeps (ht : Tolerates R K) (artifacts : List OwnedArtifact)
    (completed : List OwnedArtifact) :
    Act.Keeps R (Checked K) (createArtifacts c m completed artifacts) := by
  have hc := h.toBookkeeping.checked
  -- the list of completed artifacts grows along the loop
  induction artifacts generalizing completed with
  | nil => exact Act.keeps_pure completed
  | cons a rest ih =>
    apply Act.keeps_ite
    · intro _
      apply Act.keeps_bind (ask_keeps hc rfl)
      intro _
      apply Act.keeps_ite
      · intro _
        exact failTransaction_keeps hc _ _
      · intro _
        exact ih completed
    · intro _
      apply announced_keeps h rfl
      intro created
      cases created with
      | error primary =>
        -- removals on the error paths are not announced
        apply Act.keeps_bind (rollbackPartialApply_keeps ht.checked completed)
        intro _
        exact failTransaction_keeps hc _ _
      | ok _ =>
        apply Act.keeps_bind (ask_keeps hc rfl)
        intro _
        apply Act.keeps_ite
        · intro _
          apply Act.keeps_bind (removal_keeps ht.checked rfl)
          intro _
          apply Act.keeps_bind (rollbackPartialApply_keeps ht.checked completed)
          intro _
          exact failTransaction_keeps hc _ _
        · intro _
          apply Act.keeps_bind (complete_keeps hc _)
          intro _
          apply Act.keeps_bind (persistOrFail_keeps hc)
          intro _
          exact ih (completed ++ [a])

theorem finishApply_keeps (ht : Tolerates R K) (completed : List OwnedArtifact) :
    Act.Keeps R (Checked K) (finishApply c m completed) := by
  have hc := h.toBookkeeping.checked
  apply Act.keeps_bind (ask_keeps hc rfl)
  intro synced
  cases synced with
  | error primary =>
    apply Act.keeps_bind (rollbackPartialApply_keeps ht.checked completed)
    intro _
    exact failTransaction_keeps hc _ _
  | ok _ =>
    apply Act.keeps_bind (defaultsChanged_keeps hc)
    intro _
    apply Act.keeps_ite
    · intro _
      apply Act.keeps_bind (rollbackPartialApply_keeps ht.checked completed)
      intro _
      exact failTransaction_keeps hc _ _
    · intro _
      apply Act.keeps_bind Act.keeps_current
      intro tx
      apply Act.keeps_bind (keepEvidence_keeps hc (by decide))
      intro _
      apply Act.keeps_bind (advance_keeps hc _)
      intro _
      exact persistOrFail_keeps hc

theorem createAll_keeps (ht : Tolerates R K) : Act.Keeps R (Checked K) (createAll c m) := by
  have hc := h.toBookkeeping.checked
  -- the swapfile is announced, and so is each artifact in the loop
  apply announced_keeps h rfl
  intro reply
  apply Act.keeps_bind (orFail_keeps hc reply)
  intro applied
  apply Act.keeps_bind
  · exact amend_keeps hc fun _ => rfl
  · intro _
    apply Act.keeps_bind (persistOrFail_keeps hc)
    intro _
    apply Act.keeps_ite
    · intro _
      apply Act.keeps_bind (removal_keeps ht.checked rfl)
      intro _
      exact failTransaction_keeps hc _ _
    · intro _
      apply Act.keeps_bind (complete_keeps hc _)
      intro _
      apply Act.keeps_bind (persistOrFail_keeps hc)
      intro _
      apply Act.keeps_bind (createArtifacts_keeps h ht _ _)
      intro completed
      exact finishApply_keeps h ht completed

theorem applyExactTransaction_keeps (ht : Tolerates R K) :
    Act.Keeps R K (applyExactTransaction c m) := by
  have hb := h.toBookkeeping
  apply Act.keeps_bind (Act.keeps_ofExcept _)
  intro _
  apply Act.keeps_bind Act.keeps_current
  intro tx
  apply Act.keeps_bind (Act.keeps_ofExcept _)
  intro _
  apply Act.keeps_bind (Act.keeps_ofExcept _)
  intro _
  -- the gates before this transition issue no call
  apply Act.keeps_after (advance_leads hb .applying)
  intro _
  apply Act.keeps_bind (persistOrFail_keeps hb.checked)
  intro _
  exact createAll_keeps h ht

theorem selectExactOneShot_keeps : Act.Keeps R K (selectExactOneShot c m) := by
  have hb := h.toBookkeeping
  have hc := hb.checked
  apply Act.keeps_bind (Act.keeps_ofExcept _)
  intro _
  apply Act.keeps_bind Act.keeps_current
  intro tx
  apply Act.keeps_bind (Act.keeps_ofExcept _)
  intro _
  apply Act.keeps_bind (ask_keeps hb rfl)
  intro staged
  apply Act.keeps_bind (Act.keeps_ofExcept _)
  intro _
  apply Act.keeps_after (advance_leads hb .oneShotSelecting)
  intro _
  apply Act.keeps_bind (persistOrFail_keeps hc)
  intro _
  -- the announced path is that of the experimental entry
  apply announced_keeps h (target?_experimental m)
  intro chosen
  apply Act.keeps_bind (orFail_keeps hc chosen)
  intro _
  apply Act.keeps_bind (oneShotDiffers_keeps hc _)
  intro _
  apply Act.keeps_ite
  · intro _
    exact failTransaction_keeps hc _ _
  · intro _
    -- three reads for the evidence
    apply Act.keeps_bind (ask_keeps hc rfl)
    intro effective
    apply Act.keeps_bind (ask_keeps hc rfl)
    intro default
    apply Act.keeps_bind (ask_keeps hc rfl)
    intro order
    apply Act.keeps_bind (keepEvidence_keeps hc (by decide))
    intro _
    apply Act.keeps_bind (complete_keeps hc _)
    intro _
    apply Act.keeps_bind (advance_keeps hc _)
    intro _
    exact persistOrFail_keeps hc

/-- The function does not check the manifest, so that its call is announced is left open
    here. -/
theorem selectBaselineRollback_keeps
    (hset : ∀ k : Except String Unit → Api Unit, (∀ r, Act.Keeps R (Checked K) (k r)) →
      Act.Keeps R (Checked K)
        (announce c "set_baseline_oneshot" m.payload.boot.currentEntry.path >>= fun _ =>
          ask (.setOneShot m.payload.recoveryEntry) >>= k)) :
    Act.Keeps R K (selectBaselineRollback c m) := by
  have hc := h.toBookkeeping.checked
  apply Act.keeps_after (advance_leads h.toBookkeeping .baselineSelecting)
  intro _
  apply Act.keeps_bind (persistOrFail_keeps hc)
  intro _
  -- the call and its announcement, as the caller has shown
  apply hset
  intro chosen
  apply Act.keeps_bind (orFail_keeps hc chosen)
  intro _
  apply Act.keeps_bind (oneShotDiffers_keeps hc _)
  intro _
  apply Act.keeps_ite
  · intro _
    exact failTransaction_keeps hc _ _
  · intro _
    apply Act.keeps_bind (complete_keeps hc _)
    intro _
    apply Act.keeps_bind (advance_keeps hc _)
    intro _
    exact persistOrFail_keeps hc

/-- In a valid manifest the announced path is that of the recovery entry. -/
theorem recoveryOneShot_keeps (hm : m.validate c = .ok ()) (k : Except String Unit → Api Unit)
    (hk : ∀ r, Act.Keeps R (Checked K) (k r)) :
    Act.Keeps R (Checked K)
      (announce c "set_baseline_oneshot" m.payload.boot.currentEntry.path >>= fun _ =>
        ask (.setOneShot m.payload.recoveryEntry) >>= k) :=
  announced_keeps h (target?_recovery hm) hk

theorem removeArtifacts_keeps (artifacts : List OwnedArtifact) :
    Act.Keeps R (Checked K) (removeArtifacts c artifacts) := by
  have hc := h.toBookkeeping.checked
  induction artifacts with
  | nil => exact Act.keeps_pure ()
  | cons a rest ih =>
    apply announced_keeps h rfl
    intro removed
    apply Act.keeps_bind (orFail_keeps hc removed)
    intro _
    apply Act.keeps_bind (complete_keeps hc _)
    intro _
    apply Act.keeps_bind (persistOrFail_keeps hc)
    intro _
    exact ih

theorem removeOwned_keeps : Act.Keeps R (Checked K) (removeOwned c m) := by
  have hc := h.toBookkeeping.checked
  apply Act.keeps_bind (removeArtifacts_keeps h _)
  intro _
  apply announced_keeps h rfl
  intro removed
  apply Act.keeps_bind (orFail_keeps hc removed)
  intro _
  apply Act.keeps_bind (complete_keeps hc _)
  intro _
  apply Act.keeps_bind (anythingLeft_keeps hc)
  intro _
  apply Act.keeps_ite
  · intro _
    exact failTransaction_keeps hc _ _
  · intro _
    apply Act.keeps_bind (ask_keeps hc rfl)
    intro finalized
    exact orFail_keeps hc finalized

theorem verifyThenCleanup_keeps (hseal : Act.Keeps R (Checked K) (sealAuthorities c m)) :
    Act.Keeps R K (verifyThenCleanup c m) := by
  have hb := h.toBookkeeping
  apply Act.keeps_bind (enterBaselineBoot_keeps hb)
  intro _
  apply Act.keeps_after (proveBaseline_leads hb)
  intro _
  -- removals are announced one by one
  apply Act.keeps_bind (removeOwned_keeps h)
  intro _
  exact hseal

end Functions

end Nemor.Tiering.BootV6
