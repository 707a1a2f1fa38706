import Nemor.Tiering.BootV6.Completion

/-!
# Boot validation v6: what a failed apply leaves behind

`applyExactTransaction` creates a swapfile, a boot entry and a unit. When it fails, most of
its exits undo what was created, but not all of them do. Every run that fails is followed
here to its exit, on a backend that stores transactions and removes files without fail and
may fail in everything else.
-/

namespace Nemor.Tiering.BootV6

open Effectful UnixPath

/-! ## §1 A backend with faults -/

/-- The swapfile, and the files of artifacts by the components of their paths. -/
structure Disk where
  swapfile : Bool
  files : Finset (List Component)

namespace Disk

/-- The disk with a file more. -/
def put (d : Disk) (path : PathBuf) : Disk :=
  { d with files := insert path.components d.files }

/-- The disk without a file. -/
def drop (d : Disk) (path : PathBuf) : Disk :=
  { d with files := d.files.erase path.components }

/-- The answers of the backend. Files are created new; a creation that fails may leave its
    file behind. -/
def Answers (d : Disk) : (op : Op) → op.Reply → Disk → Prop
  | .persistTransaction _, r, d' => r = .ok () ∧ d' = d
  | .removeArtifact a, r, d' => r = .ok () ∧ d' = d.drop a.path
  | .removeSwapfile _, r, d' => r = .ok () ∧ d' = { d with swapfile := false }
  | .createSwapfile _, .ok _, d' => d.swapfile = false ∧ d' = { d with swapfile := true }
  | .createSwapfile _, .error _, d' => d' = d ∨ d' = { d with swapfile := true }
  | .createArtifact a, .ok _, d' => a.path.components ∉ d.files ∧ d' = d.put a.path
  | .createArtifact a, .error _, d' => d' = d ∨ d' = d.put a.path
  | .stageHelper plan, .ok _, d' =>
    plan.destination.components ∉ d.files ∧ d' = d.put plan.destination
  | .stageHelper plan, .error _, d' => d' = d ∨ d' = d.put plan.destination
  | _, _, d' => d' = d

end Disk

/-- An answered call and the disk after it. -/
structure Answer where
  event : Event backend
  disk : Disk

/-- The disk and the calls answered so far. -/
structure Site where
  disk : Disk
  history : List Answer

/-- A backend on which any call may fail. Every answer is noted. -/
def faulty : Env backend DurableTransaction Site := fun _ s op r s' =>
  s.disk.Answers op r s'.disk ∧ s'.history = s.history ++ [⟨⟨op, r⟩, s'.disk⟩]

/-- The answers after which the function gives up without undoing what it has done. -/
def Answer.Strands : Answer → Prop
  | ⟨⟨.createSwapfile _, .error _⟩, d⟩ => d.swapfile = true
  | ⟨⟨.createArtifact a, .error _⟩, d⟩ => a.path.components ∈ d.files
  | ⟨⟨.stagedHelperMatches _, r⟩, _⟩ => r = false
  | ⟨⟨.persistEvidence _ _, .error _⟩, _⟩ => True
  | _ => False

/-- No answer leaves behind what the rollback cannot remove. -/
def Unstranded (history : List Answer) : Prop := ∀ x ∈ history, ¬ x.Strands

theorem unstranded_snoc {history : List Answer} {x : Answer} :
    Unstranded (history ++ [x]) ↔ Unstranded history ∧ ¬ x.Strands := by
  simp only [Unstranded, List.mem_append, List.mem_singleton]
  constructor
  · intro h
    exact ⟨fun y hy => h y (.inl hy), h x (.inr rfl)⟩
  · intro h y hy
    rcases hy with hy | rfl
    · exact h.1 y hy
    · exact h.2

/-! ## §2 What a failure should leave -/

/-- The artifacts that the apply itself creates. -/
def PreparedManifest.created (m : PreparedManifest) : List OwnedArtifact :=
  m.payload.ownedArtifacts.filter fun a => a.kind != .helperBinary

/-- Neither the swapfile nor the entry nor the unit is there. -/
def Clean (m : PreparedManifest) (d : Disk) : Prop :=
  d.swapfile = false ∧ ∀ a ∈ m.created, a.path.components ∉ d.files

/-- A failed apply that started on `d` and ended at the site has left the disk clean exactly
    if it was clean before and no answer stranded it. -/
def Settled (m : PreparedManifest) (d : Disk) (s : Site) : Prop :=
  Clean m s.disk ↔ Clean m d ∧ Unstranded s.history

/-- The disk is as it was and nothing was stranded. -/
structure Quiet (s s' : Site) : Prop where
  disk : s'.disk = s.disk
  history : Unstranded s'.history ↔ Unstranded s.history

section Sites

variable {m : PreparedManifest} {d : Disk} {s s' : Site}

theorem Settled.quiet (h : Settled m d s) (hq : Quiet s s') : Settled m d s' := by
  simp only [Settled, hq.disk, hq.history]
  exact h

/-- Nothing happened. -/
theorem settled_unchanged (hdisk : s.disk = d) (hhistory : Unstranded s.history) :
    Settled m d s := by
  simp [Settled, hdisk, hhistory]

/-- Something is left, and an answer is to blame. -/
theorem settled_stranded (hdisk : ¬ Clean m s.disk) (hhistory : ¬ Unstranded s.history) :
    Settled m d s := by
  simp [Settled, hdisk, hhistory]

end Sites

/-- The calls that neither touch the disk nor end the function. -/
def Op.idle : Op → Bool
  | .persistTransaction _ => true
  | .stagedHelperMatches _ | .persistEvidence _ _ => false
  | op => op.plain

section Answers

variable {t : DurableTransaction} {s s' s'' : Site} {op : Op} {r : op.Reply}

theorem Quiet.trans (h : Quiet s s') (h' : Quiet s' s'') : Quiet s s'' :=
  ⟨h'.disk.trans h.disk, h'.history.trans h.history⟩

theorem faulty_history (h : faulty t s op r s') :
    Unstranded s'.history ↔ Unstranded s.history ∧ ¬ Answer.Strands ⟨⟨op, r⟩, s'.disk⟩ := by
  rw [h.2, unstranded_snoc]

theorem faulty_unstranding (h : faulty t s op r s') (hr : ¬ Answer.Strands ⟨⟨op, r⟩, s'.disk⟩) :
    Unstranded s'.history ↔ Unstranded s.history := by
  rw [faulty_history h]
  exact and_iff_left hr

theorem quiet_of_idle (hop : op.idle = true) (h : faulty t s op r s') : Quiet s s' := by
  constructor
  · -- an idle call changes neither the disk nor what counts in the history
    have hdisk := h.1
    cases op <;> first | exact hdisk.2 | exact hdisk | cases hop
  · apply faulty_unstranding h
    cases op <;> first | exact fun h => h | cases hop

end Answers

/-! ## §3 Undoing -/

/-- The files of the artifacts are gone, and the swapfile is there or not. -/
structure Undone (artifacts : List OwnedArtifact) (swapfile : Bool) (s s' : Site) : Prop where
  swapfile : s'.disk.swapfile = swapfile
  files : ∀ path, path ∈ s'.disk.files ↔
    path ∈ s.disk.files ∧ ∀ a ∈ artifacts, a.path.components ≠ path
  history : Unstranded s'.history ↔ Unstranded s.history

section Undoing

variable {m : PreparedManifest} {t : DurableTransaction} {s s' s'' : Site} {a : OwnedArtifact}
  {artifacts : List OwnedArtifact} {swapfile : Bool}

theorem undone_nil (s : Site) : Undone [] s.disk.swapfile s s := by
  constructor <;> simp

theorem Undone.cons {r : (Op.removeArtifact a).Reply} (h : faulty t s (.removeArtifact a) r s')
    (h' : Undone artifacts s'.disk.swapfile s' s'') :
    Undone (a :: artifacts) s.disk.swapfile s s'' where
  swapfile := by
    rw [h'.swapfile, h.1.2]
    rfl
  files path := by
    rw [h'.files, h.1.2]
    simp only [Disk.drop, Finset.mem_erase, List.mem_cons, forall_eq_or_imp]
    constructor
    · intro hpath
      exact ⟨hpath.1.2, fun heq => hpath.1.1 heq.symm, hpath.2⟩
    · intro hpath
      exact ⟨⟨fun heq => hpath.2.1 heq.symm, hpath.1⟩, hpath.2.2⟩
  history := h'.history.trans (faulty_unstranding h fun hr => hr)

theorem Undone.swapfileToo {r : (Op.removeSwapfile m).Reply} (h : Undone artifacts swapfile s s')
    (h' : faulty t s' (.removeSwapfile m) r s'') : Undone artifacts false s s'' where
  swapfile := by rw [h'.1.2]
  files path := by
    rw [h'.1.2]
    exact h.files path
  history := (faulty_unstranding h' fun hr => hr).trans h.history

theorem Undone.of_reverse (h : Undone artifacts.reverse swapfile s s') :
    Undone artifacts swapfile s s' where
  swapfile := h.swapfile
  files path := by simpa only [List.mem_reverse] using h.files path
  history := h.history

theorem removeAll_drops {Q : Except BootValidationError (List String) → DurableTransaction → Site → Prop}
    (h : ∀ errors s', Undone artifacts s.disk.swapfile s s' → Q (.ok errors) t s') :
    Act.wp faulty (fun _ _ => True) (removeAll artifacts) Q t s := by
  -- a removal that fails does not stop the loop; here none fails
  induction artifacts generalizing s Q with
  | nil => exact h [] s (undone_nil s)
  | cons a rest ih =>
    apply Act.wp_bind.2
    apply wp_ask.2
    refine ⟨trivial, fun r s₁ hr => ?_⟩
    apply Act.wp_bind.2
    apply ih
    intro errors s₂ hrest
    exact h _ s₂ (.cons hr hrest)

theorem rollbackPartialApply_undoes
    {Q : Except BootValidationError (List String) → DurableTransaction → Site → Prop}
    (h : ∀ errors s', Undone artifacts false s s' → Q (.ok errors) t s') :
    Act.wp faulty (fun _ _ => True) (rollbackPartialApply m artifacts) Q t s := by
  apply Act.wp_bind.2
  apply removeAll_drops
  intro errors s₁ hdropped
  apply Act.wp_bind.2
  apply wp_ask.2
  refine ⟨trivial, fun r s₂ hr => ?_⟩
  exact h _ s₂ (hdropped.swapfileToo hr).of_reverse

end Undoing

/-! ## §4 In the middle of an apply -/

/-- The executables to be staged. -/
def PreparedManifest.helpers (m : PreparedManifest) : List OwnedArtifact :=
  m.payload.ownedArtifacts.filter fun a => a.kind == .helperBinary

/-- The swapfile and the artifacts in `placed` have been created on `d`. -/
structure Midway (m : PreparedManifest) (d : Disk) (placed : List OwnedArtifact) (s : Site) :
    Prop where
  fresh : d.swapfile = false
  swapfile : s.disk.swapfile = true
  files : ∀ path, path ∈ s.disk.files ↔ path ∈ d.files ∨ ∃ a ∈ placed, a.path.components = path
  new : ∀ a ∈ placed, a.path.components ∉ d.files
  history : Unstranded s.history

section Middle

variable {m : PreparedManifest} {d : Disk} {t : DurableTransaction} {s s' s'' : Site}
  {a : OwnedArtifact} {placed : List OwnedArtifact}

theorem Midway.quiet (h : Midway m d placed s) (hq : Quiet s s') : Midway m d placed s' where
  fresh := h.fresh
  swapfile := by rw [hq.disk, h.swapfile]
  files := by rw [hq.disk]; exact h.files
  new := h.new
  history := hq.history.2 h.history

/-- An exit here that undoes nothing leaves the swapfile. -/
theorem Midway.not_clean (h : Midway m d placed s) : ¬ Clean m s.disk := by
  intro hclean
  exact absurd hclean.1 (by simp [h.swapfile])

theorem Midway.create {u : Unit} (h : Midway m d placed s)
    (hr : faulty t s (.createArtifact a) (.ok u) s') : Midway m d (placed ++ [a]) s' := by
  obtain ⟨hnew, hdisk⟩ := hr.1
  have hnot : a.path.components ∉ d.files := fun hd => hnew ((h.files _).2 (.inl hd))
  -- the file was new, so the rollback will not take anything of others
  constructor
  · exact h.fresh
  · rw [hdisk]
    exact h.swapfile
  · intro path
    rw [hdisk]
    simp only [Disk.put, Finset.mem_insert, h.files, List.mem_append, List.mem_singleton]
    constructor
    · rintro (rfl | hd | ⟨b, hb, rfl⟩)
      · exact .inr ⟨a, .inr rfl, rfl⟩
      · exact .inl hd
      · exact .inr ⟨b, .inl hb, rfl⟩
    · rintro (hd | ⟨b, hb | rfl, rfl⟩)
      · exact .inr (.inl hd)
      · exact .inr (.inr ⟨b, hb, rfl⟩)
      · exact .inl rfl
  · intro b hb
    rcases List.mem_append.1 hb with hb | hb
    · exact h.new b hb
    · obtain rfl := List.mem_singleton.1 hb
      exact hnot
  · exact (faulty_unstranding hr fun hs => hs).2 h.history

/-- A file that was created and removed at once was never there. -/
theorem quiet_of_removed {u : Unit} {r : (Op.removeArtifact a).Reply} {s₁ s₂ : Site}
    (hr : faulty t s (.createArtifact a) (.ok u) s₁) (hq : Quiet s₁ s₂)
    (hr' : faulty t s₂ (.removeArtifact a) r s') : Quiet s s' where
  disk := by
    rw [hr'.1.2, hq.disk, hr.1.2]
    simp only [Disk.put, Disk.drop, Finset.erase_insert hr.1.1]
  history := (faulty_unstranding hr' fun hs => hs).trans
    (hq.history.trans (faulty_unstranding hr fun hs => hs))

section Distinct

variable (hm : (m.payload.ownedArtifacts.map fun a => a.path.components).Nodup)

include hm

/-- The helper is at a place of its own. -/
theorem helper_ne_created {a b : OwnedArtifact} (ha : a ∈ m.helpers) (hb : b ∈ m.created) :
    a.path.components ≠ b.path.components := by
  intro heq
  simp only [PreparedManifest.helpers, PreparedManifest.created, List.mem_filter, bne_iff_ne,
    beq_iff_eq] at ha hb
  obtain rfl := List.inj_on_of_nodup_map hm ha.1 hb.1 heq
  exact hb.2 ha.2

/-- The rollback of all that was created restores the disk. -/
theorem Midway.settled (h : Midway m d placed s) (hu : Undone (m.helpers ++ placed) false s s') :
    Settled m d s' := by
  -- what the rollback removes is what was created, apart from the helper
  have hfiles : ∀ b ∈ m.created, b.path.components ∈ s'.disk.files ↔ b.path.components ∈ d.files := by
    intro b hb
    rw [hu.files, h.files]
    constructor
    · rintro ⟨hd | ⟨a, ha, heq⟩, hnone⟩
      · exact hd
      · exact absurd heq (hnone a (List.mem_append_right _ ha))
    · intro hd
      refine ⟨.inl hd, fun a ha heq => ?_⟩
      rcases List.mem_append.1 ha with ha | ha
      · exact helper_ne_created hm ha hb heq
      · exact h.new a ha (heq ▸ hd)
  have hclean : Clean m s'.disk ↔ Clean m d := by
    simp only [Clean, hu.swapfile, h.fresh, true_and]
    constructor
    · intro hc b hb
      exact fun hd => hc b hb ((hfiles b hb).2 hd)
    · intro hc b hb
      exact fun hs => hc b hb ((hfiles b hb).1 hs)
  simp only [Settled, hclean, hu.history, h.history, and_true]

/-- A failed creation is not undone itself. -/
theorem Midway.settled_failed {e : String} (h : Midway m d placed s)
    (hplaced : placed ⊆ m.created) (ha : a ∈ m.created) (hnew : a ∉ placed)
    (hr : faulty t s (.createArtifact a) (.error e) s')
    (hu : Undone (m.helpers ++ placed) false s' s'') : Settled m d s'' := by
  by_cases hleft : a.path.components ∈ s'.disk.files
  · -- the file is there and is none of those that the rollback removes
    apply settled_stranded
    · intro hclean
      apply hclean.2 a ha
      rw [hu.files]
      refine ⟨hleft, fun b hb heq => ?_⟩
      rcases List.mem_append.1 hb with hb | hb
      · exact helper_ne_created hm hb ha heq
      · have hba : b = a := List.inj_on_of_nodup_map hm (List.mem_of_mem_filter (hplaced hb))
          (List.mem_of_mem_filter ha) heq
        exact hnew (hba ▸ hb)
    · rw [hu.history, faulty_history hr]
      exact fun hs => hs.2 hleft
  · -- it left nothing, so the rollback undoes all there is
    have hdisk : s'.disk = s.disk := by
      rcases hr.1 with hdisk | hdisk
      · exact hdisk
      · exact absurd (by simp [hdisk, Disk.put]) hleft
    have hquiet : Quiet s s' := ⟨hdisk, faulty_unstranding hr hleft⟩
    exact (h.quiet hquiet).settled hm hu

end Distinct

end Middle

/-! ## §5 Steps -/

/-- The transaction of an apply under way. -/
structure Underway (p : DurableTransactionPayload) : Prop where
  stage : p.stage = .applying
  opened : ∃ records last, p.mutationRecords = records ++ [last]

/-- From a sealed transaction, every run of `act` that fails is settled, and every other ends
    with `K`. -/
abbrev Trial (c : Codec) (m : PreparedManifest) (d : Disk) {β : Type} (act : Api β)
    (K : β → DurableTransactionPayload → Site → Prop) (p : DurableTransactionPayload) (s : Site) :
    Prop :=
  Act.wp faulty (fun _ _ => True) act
    (fun r t s =>
      match r with
      | .ok a => ∃ p, t = .sealed c p ∧ K a p s
      | .error _ => Settled m d s)
    (.sealed c p) s

section Steps

variable {c : Codec} {m : PreparedManifest} {d : Disk} {p : DurableTransactionPayload} {s : Site}
  {α β : Type} {k : α → Api β} {K : β → DurableTransactionPayload → Site → Prop}

theorem trial_bind {act : Api α} {K' : α → DurableTransactionPayload → Site → Prop}
    (h : Trial c m d act K' p s) (hk : ∀ a p s, K' a p s → Trial c m d (k a) K p s) :
    Trial c m d (act >>= k) K p s := by
  apply Act.wp_bind.2
  apply Act.wp_mono h
  intro r t s h
  cases r with
  | error e => exact h
  | ok a =>
    obtain ⟨p, rfl, hK⟩ := h
    exact hk a p s hK

theorem trial_ask {op : Op} {k : op.Reply → Api β}
    (h : ∀ r s', faulty (.sealed c p) s op r s' → Trial c m d (k r) K p s') :
    Trial c m d (ask op >>= k) K p s := by
  apply Act.wp_bind.2
  apply wp_ask.2
  exact ⟨trivial, h⟩

theorem trial_persist {k : Unit → Api β} (h : ∀ s', Quiet s s' → Trial c m d (k ()) K p s') :
    Trial c m d (persistOrFail >>= k) K p s := by
  apply Act.wp_bind.2
  apply wp_persistOrFail.2
  refine ⟨trivial, fun r s' hr => ?_⟩
  have hquiet := quiet_of_idle rfl hr
  obtain ⟨⟨rfl, -⟩, -⟩ := hr
  exact h s' hquiet

/-- The function gives up here. -/
theorem trial_fail {primary : String} {secondary : List String} (h : Settled m d s) :
    Trial c m d (failTransaction c primary secondary : Api β) K p s := by
  apply Act.wp_bind.2
  apply Act.wp_assign.2
  apply Act.wp_bind.2
  apply Act.wp_current.2
  apply Act.wp_bind.2
  apply wp_ask.2
  exact ⟨trivial, fun r s' hr => h.quiet (quiet_of_idle rfl hr)⟩

theorem trial_announce {operation : String} {path : PathBuf} {k : Unit → Api β}
    (hp : p.stage = .applying)
    (h : ∀ p s', Underway p → Quiet s s' → Trial c m d (k ()) K p s') :
    Trial c m d (announce c operation path >>= k) K p s := by
  apply Act.wp_bind.2
  apply Act.wp_bind.2
  apply Act.wp_assign.2
  apply wp_persistOrFail.2
  refine ⟨trivial, fun r s' hr => ?_⟩
  have hquiet := quiet_of_idle rfl hr
  obtain ⟨⟨rfl, -⟩, -⟩ := hr
  exact h _ s' ⟨hp, _, _, rfl⟩ hquiet

/-- There is an intent to complete. -/
theorem trial_complete {evidence : String} {k : Unit → Api β} (hp : Underway p)
    (h : ∀ p, Underway p → Trial c m d (k ()) K p s) :
    Trial c m d (complete c evidence >>= k) K p s := by
  obtain ⟨records, last, hrecords⟩ := hp.opened
  apply Act.wp_bind.2
  apply Act.wp_bind.2
  apply Act.wp_current.2
  apply Act.wp_bind.2
  apply Act.wp_ofExcept.2
  rw [DurableTransaction.completeLast_sealed hrecords]
  exact h _ ⟨hp.stage, _, _, rfl⟩

theorem trial_advance {next : TransactionStage} {k : Unit → Api β}
    (hlegal : legalTransition p.stage next = true)
    (h : Trial c m d (k ()) K { p with stage := next } s) :
    Trial c m d (advance c next >>= k) K p s := by
  apply Act.wp_bind.2
  apply Act.wp_bind.2
  apply Act.wp_current.2
  apply Act.wp_bind.2
  apply Act.wp_ofExcept.2
  rw [DurableTransaction.transition_sealed hlegal]
  exact h

theorem trial_amend {f : DurableTransactionPayload → DurableTransactionPayload} {k : Unit → Api β}
    (h : Trial c m d (k ()) K (f p) s) :
    Trial c m d (Act.assign (fun tx => tx.amend c f) >>= k) K p s :=
  Act.wp_bind.2 h

/-- Evidence that is not stored ends the function, and nothing is undone. -/
theorem trial_evidence {name : String} {document : Document} {e : BootValidationError}
    {k : Unit → Api β} (hs : ¬ Clean m s.disk)
    (h : ∀ p' s', p'.stage = p.stage → Trial c m d (k ()) K p' s') :
    Trial c m d (keepEvidence c name document e >>= k) K p s := by
  apply Act.wp_bind.2
  refine wp_keepEvidence trivial fun stored s' hr => ?_
  cases stored with
  | error e =>
    -- `?` ends the function here, after everything has been created
    apply settled_stranded
    · have hdisk : s'.disk = s.disk := hr.1
      rw [hdisk]
      exact hs
    · rw [faulty_history hr]
      exact fun h => h.2 trivial
  | ok _ => exact h _ s' rfl

theorem trial_rollback {completed : List OwnedArtifact} {primary : String}
    {secondary : List String → List String}
    (h : ∀ s', Undone completed false s s' → Settled m d s') :
    Trial c m d
      (do
        let errors ← rollbackPartialApply m completed
        failTransaction c primary (secondary errors) : Api β) K p s := by
  apply Act.wp_bind.2
  apply rollbackPartialApply_undoes
  intro errors s' hu
  exact trial_fail (h s' hu)

end Steps

/-! ## §6 The exits of an apply -/

section Exits

variable {c : Codec} {m : PreparedManifest} {d : Disk} {p : DurableTransactionPayload} {s : Site}

/-- The helper was staged before; only its identity is checked. -/
theorem checkHelper_trial {β : Type} {K : β → DurableTransactionPayload → Site → Prop} {k : Api β}
    {placed : List OwnedArtifact} (hs : Midway m d placed s)
    (hk : ∀ s', Midway m d placed s' → Trial c m d k K p s') :
    Trial c m d
      (do if (← ask (.stagedHelperMatches m.payload.stagedHelper)) = false then
            failTransaction c "pre-staged helper changed before apply" []
          else
            k) K p s := by
  apply trial_ask
  intro r s₁ hr
  have hdisk : s₁.disk = s.disk := hr.1
  apply Act.wp_ite.2
  constructor
  · -- the exit without a rollback: the swapfile stays
    intro hchanged
    apply trial_fail
    apply settled_stranded
    · rw [hdisk]
      exact hs.not_clean
    · rw [faulty_history hr]
      exact fun h => h.2 hchanged
  · intro hmatches
    exact hk s₁ (hs.quiet ⟨hdisk, faulty_unstranding hr hmatches⟩)

section Distinct

variable (hm : (m.payload.ownedArtifacts.map fun a => a.path.components).Nodup)

include hm

/-- One artifact is announced, created, read back and noted, or everything is undone. -/
theorem createOne_trial {β : Type} {K : β → DurableTransactionPayload → Site → Prop} {k : Api β}
    {a : OwnedArtifact} {placed : List OwnedArtifact} (hs : Midway m d placed s)
    (hplaced : placed ⊆ m.created) (ha : a ∈ m.created) (hnew : a ∉ placed) (hp : Underway p)
    (hk : ∀ p s', Underway p → Midway m d (placed ++ [a]) s' → Trial c m d k K p s') :
    Trial c m d
      (do announce c "create_new_artifact" a.path
          match ← ask (.createArtifact a) with
          | .error primary =>
            let secondary ← rollbackPartialApply m (m.helpers ++ placed)
            failTransaction c primary secondary
          | .ok _ =>
            if (← ask (.artifactMatches a)) = false then
              let removed ← ask (.removeArtifact a)
              let secondary ← rollbackPartialApply m (m.helpers ++ placed)
              failTransaction c ("artifact readback failed: " ++ a.path.text)
                (failures removed ++ secondary)
            else
              complete c a.sha256
              persistOrFail
              k) K p s := by
  apply trial_announce hp.stage
  intro p s₁ hp hq₁
  have hs₁ := hs.quiet hq₁
  apply trial_ask
  intro r s₂ hr
  cases r with
  | error primary =>
    -- the artifact is not yet in the list that is undone
    apply trial_rollback
    intro s₃ hu
    exact hs₁.settled_failed hm hplaced ha hnew hr hu
  | ok _ =>
    apply trial_ask
    intro r s₃ hr'
    have hq₃ : Quiet s₂ s₃ := quiet_of_idle rfl hr'
    apply Act.wp_ite.2
    constructor
    · -- a readback that differs: this artifact goes first, then the others
      intro _
      apply trial_ask
      intro removed s₄ hr''
      apply trial_rollback
      intro s₅ hu
      exact (hs₁.quiet (quiet_of_removed hr hq₃ hr'')).settled hm hu
    · intro _
      apply trial_complete hp
      intro p hp
      apply trial_persist
      intro s₄ hq₄
      exact hk p s₄ hp (((hs₁.create hr).quiet hq₃).quiet hq₄)

/-- The loop. Its invariant: `processed` is what the loop has been through, and the swapfile
    and the files in it are in place. -/
theorem createArtifacts_trial (rest processed : List OwnedArtifact)
    (hsplit : m.payload.ownedArtifacts = processed ++ rest) (hp : Underway p)
    (hs : Midway m d (processed.filter fun a => a.kind != .helperBinary) s) :
    Trial c m d
      (createArtifacts c m (m.helpers ++ processed.filter fun a => a.kind != .helperBinary) rest)
      (fun completed p s => completed = m.helpers ++ m.created ∧ Underway p ∧ Midway m d m.created s)
      p s := by
  induction rest generalizing processed p s with
  | nil =>
    have hall : m.created = processed.filter fun a => a.kind != .helperBinary := by
      simp [PreparedManifest.created, hsplit]
    exact ⟨p, rfl, by rw [hall], hp, by rw [hall]; exact hs⟩
  | cons a rest ih =>
    have hnext : m.payload.ownedArtifacts = (processed ++ [a]) ++ rest := by simp [hsplit]
    apply Act.wp_ite.2
    constructor
    · intro hkind
      have hfilter : (processed ++ [a]).filter (fun a => a.kind != .helperBinary) =
          processed.filter fun a => a.kind != .helperBinary := by simp [hkind]
      apply checkHelper_trial hs
      intro s₁ hs₁
      have hnextStep := ih (processed ++ [a]) hnext hp (by rw [hfilter]; exact hs₁)
      rw [hfilter] at hnextStep
      exact hnextStep
    · intro hkind
      have hfilter : (processed ++ [a]).filter (fun a => a.kind != .helperBinary) =
          (processed.filter fun a => a.kind != .helperBinary) ++ [a] := by simp [hkind]
      have hcreated : a ∈ m.created := by
        simp [PreparedManifest.created, hsplit, hkind]
      have hplaced : (processed.filter fun a => a.kind != .helperBinary) ⊆ m.created := by
        intro b hb
        simp only [PreparedManifest.created, hsplit, List.filter_append]
        exact List.mem_append_left _ hb
      -- paths are distinct, so the artifact was not met before
      have hfresh : a ∉ processed.filter fun a => a.kind != .helperBinary := by
        intro ha
        have hnodup := List.Nodup.of_map _ hm
        rw [hsplit] at hnodup
        exact (List.nodup_append.1 hnodup).2.2 a (List.mem_of_mem_filter ha) a (by simp) rfl
      apply createOne_trial hm hs hplaced hcreated hfresh hp
      intro p s₁ hp hs₁
      have hnextStep := ih (processed ++ [a]) hnext hp (by rw [hfilter]; exact hs₁)
      rw [hfilter, ← List.append_assoc] at hnextStep
      exact hnextStep

end Distinct

theorem defaultsChanged_trial :
    Trial c m d (defaultsChanged m) (fun _ p' s' => p' = p ∧ Quiet s s') p s := by
  apply trial_ask
  intro r s₁ hr
  have hq₁ : Quiet s s₁ := quiet_of_idle rfl hr
  apply Act.wp_ite.2
  constructor
  · intro _
    exact ⟨p, rfl, rfl, hq₁⟩
  · intro _
    apply trial_ask
    intro r s₂ hr'
    exact ⟨p, rfl, rfl, hq₁.trans (quiet_of_idle rfl hr')⟩

/-- The evidence is stored after the last point at which anything is undone. -/
theorem finishApply_trial
    (hm : (m.payload.ownedArtifacts.map fun a => a.path.components).Nodup) (hp : Underway p)
    (hs : Midway m d m.created s) :
    Trial c m d (finishApply c m (m.helpers ++ m.created)) (fun _ _ _ => True) p s := by
  apply trial_ask
  intro synced s₁ hr
  have hs₁ := hs.quiet (quiet_of_idle rfl hr)
  cases synced with
  | error primary =>
    apply trial_rollback
    intro s₂ hu
    exact hs₁.settled hm hu
  | ok _ =>
    apply trial_bind defaultsChanged_trial
    rintro changed p' s₂ ⟨rfl, hq₂⟩
    have hs₂ := hs₁.quiet hq₂
    apply Act.wp_ite.2
    constructor
    · intro _
      apply trial_rollback
      intro s₃ hu
      exact hs₂.settled hm hu
    · intro _
      apply Act.wp_bind.2
      apply Act.wp_current.2
      -- past this point there is no rollback any more
      apply trial_evidence hs₂.not_clean
      intro p₃ s₃ hp₃
      -- from here on nothing can fail
      apply trial_advance
      · rw [hp₃, hp.stage]
        rfl
      · apply wp_persistOrFail.2
        refine ⟨trivial, fun r s₄ hr => ?_⟩
        obtain ⟨⟨rfl, -⟩, -⟩ := hr
        exact ⟨_, rfl, trivial⟩

/-- A swapfile that could not be created is not removed. -/
theorem settled_of_swapfileFailed {t : DurableTransaction} {s' : Site} {e : String}
    (hdisk : s.disk = d) (hhistory : Unstranded s.history)
    (hr : faulty t s (.createSwapfile m) (.error e) s') : Settled m d s' := by
  by_cases hleft : s'.disk.swapfile = true
  · apply settled_stranded
    · intro hclean
      exact absurd hclean.1 (by simp [hleft])
    · rw [faulty_history hr]
      exact fun h => h.2 hleft
  · apply settled_unchanged
    · rcases hr.1 with hdisk' | hdisk'
      · exact hdisk'.trans hdisk
      · exact absurd (by simp [hdisk']) hleft
    · exact (faulty_unstranding hr hleft).2 hhistory

theorem midway_of_swapfile {t : DurableTransaction} {s' : Site} {applied : SwapIdentity}
    (hdisk : s.disk = d) (hhistory : Unstranded s.history)
    (hr : faulty t s (.createSwapfile m) (.ok applied) s') : Midway m d [] s' := by
  obtain ⟨hfresh, hdisk'⟩ := hr.1
  constructor
  · exact hdisk ▸ hfresh
  · rw [hdisk']
  · rw [hdisk', hdisk]
    simp
  · simp
  · exact (faulty_unstranding hr fun h => h).2 hhistory

theorem createAll_trial
    (hm : (m.payload.ownedArtifacts.map fun a => a.path.components).Nodup)
    (hp : p.stage = .applying) (hdisk : s.disk = d) (hhistory : Unstranded s.history) :
    Trial c m d (createAll c m) (fun _ _ _ => True) p s := by
  apply trial_announce hp
  intro p s₁ hp hq₁
  have hdisk₁ : s₁.disk = d := hq₁.disk.trans hdisk
  have hhistory₁ := hq₁.history.2 hhistory
  apply trial_ask
  intro reply s₂ hr
  cases reply with
  | error primary =>
    apply trial_fail
    exact settled_of_swapfileFailed hdisk₁ hhistory₁ hr
  | ok applied =>
    have hs₂ := midway_of_swapfile hdisk₁ hhistory₁ hr
    apply Act.wp_bind.2
    apply trial_amend
    apply trial_persist
    intro s₃ hq₃
    apply Act.wp_ite.2
    constructor
    · -- another swapfile than the one planned is removed again
      intro _
      apply trial_ask
      intro removed s₄ hr'
      apply trial_fail
      apply settled_unchanged
      · rw [hr'.1.2, hq₃.disk, hr.1.2, ← hdisk₁]
        simp [← hr.1.1]
      · exact (faulty_unstranding hr' fun h => h).2 (hq₃.history.2 hs₂.history)
    · intro _
      apply trial_complete
      · exact ⟨hp.stage, hp.opened⟩
      intro p hp
      apply trial_persist
      intro s₄ hq₄
      -- the loop starts with the swapfile in place and nothing else
      apply trial_bind
      · have hloop := createArtifacts_trial (c := c) hm m.payload.ownedArtifacts [] rfl hp
          ((hs₂.quiet hq₃).quiet hq₄)
        rw [List.filter_nil, List.append_nil] at hloop
        exact hloop
      · rintro completed p s ⟨rfl, hp, hs⟩
        exact finishApply_trial hm hp hs

theorem applyExactTransaction_trial {tx : DurableTransaction} (hdisk : s.disk = d)
    (hhistory : Unstranded s.history) :
    Act.wp faulty (fun _ _ => True) (applyExactTransaction c m)
      (fun r _ s => (∃ e, r = .error e) → Settled m d s) tx s := by
  have hrefused : Settled m d s := settled_unchanged hdisk hhistory
  apply Act.wp_bind.2
  apply Act.wp_ofExcept.2
  -- the gates come before the first call
  cases hm : m.validate c with
  | error e => exact fun _ => hrefused
  | ok _ =>
    apply Act.wp_bind.2
    apply Act.wp_current.2
    apply Act.wp_bind.2
    apply Act.wp_ofExcept.2
    cases htx : tx.validate c with
    | error e => exact fun _ => hrefused
    | ok _ =>
      apply Act.wp_bind.2
      apply Act.wp_ofExcept.2
      generalize hrefuse : refuseIf _ BootValidationError.transition = refusal
      cases refusal with
      | error e => exact fun _ => hrefused
      | ok _ =>
        have hready := refuseIf_ok hrefuse
        simp only [Bool.or_eq_false_iff, bne_eq_false_iff_eq] at hready
        -- the transaction is sealed, so the rest is a trial from its payload
        have htrial : Trial c m d
            (do advance c .applying; persistOrFail; createAll c m) (fun _ _ _ => True)
            tx.payload s := by
          apply trial_advance
          · rw [hready.1.1]
            rfl
          apply trial_persist
          intro s₁ hq₁
          exact createAll_trial (PreparedManifest.distinct_of_validate hm) rfl
            (hq₁.disk.trans hdisk) (hq₁.history.2 hhistory)
        rw [DurableTransaction.eq_sealed_of_validate htx]
        apply Act.wp_mono htrial
        rintro r t s h ⟨e, rfl⟩
        exact h

end Exits

/-! ## §7 Failing runs -/

/-- From a sealed transaction, some run of `act` ends with `Q`. -/
abbrev Possible (c : Codec) {β : Type} (act : Api β)
    (Q : Except BootValidationError β → DurableTransaction → Site → Prop)
    (p : DurableTransactionPayload) (s : Site) : Prop :=
  Act.may faulty act Q (.sealed c p) s

/-- The disk of `s'` is `d`, no answer since `s` stranded it, and none is forgotten. -/
structure Extends (s : Site) (d : Disk) (s' : Site) : Prop where
  disk : s'.disk = d
  kept : s.history ⊆ s'.history
  history : Unstranded s.history → Unstranded s'.history

/-- The artifact was created on the way. -/
def Site.Created (s : Site) (a : OwnedArtifact) : Prop :=
  ∃ d, ⟨⟨.createArtifact a, .ok ()⟩, d⟩ ∈ s.history

section Possible

variable {c : Codec} {m : PreparedManifest} {d d' : Disk} {p : DurableTransactionPayload}
  {s s' s'' : Site} {β : Type} {Q : Except BootValidationError β → DurableTransaction → Site → Prop}

theorem Extends.trans (h : Extends s d s') (h' : Extends s' d' s'') : Extends s d' s'' where
  disk := h'.disk
  kept := List.Subset.trans h.kept h'.kept
  history := fun hs => h'.history (h.history hs)

theorem Extends.created {a : OwnedArtifact} (h : Extends s d s') (ha : s.Created a) :
    s'.Created a := by
  obtain ⟨d, hd⟩ := ha
  exact ⟨d, h.kept hd⟩

/-- A call is answered in one of the ways allowed. -/
theorem possible_ask (op : Op) (r : op.Reply) (d' : Disk) {k : op.Reply → Api β}
    (hr : s.disk.Answers op r d')
    (h : ∀ s', s'.disk = d' → s'.history = s.history ++ [⟨⟨op, r⟩, d'⟩] →
      Possible c (k r) Q p s') :
    Possible c (ask op >>= k) Q p s := by
  apply Act.may_bind.2
  exact ⟨r, ⟨d', s.history ++ [⟨⟨op, r⟩, d'⟩]⟩, ⟨hr, rfl⟩, h _ rfl rfl⟩

/-- The answer does not strand what was done. -/
theorem possible_safe (op : Op) (r : op.Reply) (d' : Disk) {k : op.Reply → Api β}
    (hr : s.disk.Answers op r d') (hsafe : ¬ Answer.Strands ⟨⟨op, r⟩, d'⟩)
    (h : ∀ s', Extends s d' s' → ⟨⟨op, r⟩, d'⟩ ∈ s'.history → Possible c (k r) Q p s') :
    Possible c (ask op >>= k) Q p s := by
  apply possible_ask op r d' hr
  intro s' hdisk hhistory
  refine h s' ⟨hdisk, ?_, ?_⟩ ?_
  · rw [hhistory]
    exact List.subset_append_left _ _
  · rw [hhistory, unstranded_snoc]
    exact fun hs => ⟨hs, hsafe⟩
  · rw [hhistory]
    exact List.mem_append_right _ (List.mem_singleton_self _)

/-- After `t` has been stored. -/
def Site.persisted (s : Site) (t : DurableTransaction) : Site :=
  ⟨s.disk, s.history ++ [⟨⟨.persistTransaction t, .ok ()⟩, s.disk⟩]⟩

theorem extends_persisted (s : Site) (t : DurableTransaction) :
    Extends s s.disk (s.persisted t) where
  disk := rfl
  kept := List.subset_append_left _ _
  history := fun hs => unstranded_snoc.2 ⟨hs, fun h => h⟩

theorem possible_persist {k : Unit → Api β}
    (h : ∀ s', Extends s s.disk s' → Possible c (k ()) Q p s') :
    Possible c (persistOrFail >>= k) Q p s := by
  apply Act.may_bind.2
  exact ⟨.ok (), s.persisted _, ⟨⟨rfl, rfl⟩, rfl⟩, h _ (extends_persisted s _)⟩

theorem possible_announce {operation : String} {path : PathBuf} {k : Unit → Api β}
    (hp : p.stage = .applying)
    (h : ∀ p s', Underway p → Extends s s.disk s' → Possible c (k ()) Q p s') :
    Possible c (announce c operation path >>= k) Q p s := by
  apply Act.may_bind.2
  apply Act.may_bind.2
  apply Act.may_assign.2
  exact ⟨.ok (), s.persisted _, ⟨⟨rfl, rfl⟩, rfl⟩, h _ _ ⟨hp, _, _, rfl⟩ (extends_persisted s _)⟩

theorem possible_complete {evidence : String} {k : Unit → Api β} (hp : Underway p)
    (h : ∀ p, Underway p → Possible c (k ()) Q p s) :
    Possible c (complete c evidence >>= k) Q p s := by
  obtain ⟨records, last, hrecords⟩ := hp.opened
  apply Act.may_bind.2
  apply Act.may_bind.2
  apply Act.may_current.2
  apply Act.may_bind.2
  apply Act.may_ofExcept.2
  rw [DurableTransaction.completeLast_sealed hrecords]
  exact h _ ⟨hp.stage, _, _, rfl⟩

theorem possible_amend {f : DurableTransactionPayload → DurableTransactionPayload}
    {k : Unit → Api β} (h : Possible c (k ()) Q (f p) s) :
    Possible c (Act.assign (fun tx => tx.amend c f) >>= k) Q p s :=
  Act.may_bind.2 h

theorem possible_orFail {α : Type} {a : α} {k : α → Api β} (h : Possible c (k a) Q p s) :
    Possible c (orFail c (.ok a) >>= k) Q p s :=
  Act.may_bind.2 h

theorem possible_fail {primary : String} {secondary : List String}
    (h : ∀ e t s', Extends s s.disk s' → Q (.error e) t s') :
    Possible c (failTransaction c primary secondary : Api β) Q p s := by
  apply Act.may_bind.2
  apply Act.may_assign.2
  apply Act.may_bind.2
  apply Act.may_current.2
  apply Act.may_bind.2
  exact ⟨.ok (), s.persisted _, ⟨⟨rfl, rfl⟩, rfl⟩, h _ _ _ (extends_persisted s _)⟩

/-- Removals do not fail here. -/
theorem possible_removeAll (artifacts : List OwnedArtifact)
    {Q : Except BootValidationError (List String) → DurableTransaction → Site → Prop}
    (h : ∀ errors s', Extends s s'.disk s' → Q (.ok errors) (.sealed c p) s') :
    Possible c (removeAll artifacts) Q p s := by
  induction artifacts generalizing s Q with
  | nil => exact h [] s ⟨rfl, List.Subset.refl _, fun hs => hs⟩
  | cons a rest ih =>
    apply possible_safe (.removeArtifact a) (.ok ()) (s.disk.drop a.path) ⟨rfl, rfl⟩ (fun h => h)
    intro s₁ hs₁ _
    apply Act.may_bind.2
    apply ih
    intro errors s₂ hs₂
    exact h _ s₂ (hs₁.trans hs₂)

theorem possible_rollback {k : List String → Api β} (artifacts : List OwnedArtifact)
    (h : ∀ errors s', Extends s s'.disk s' → Possible c (k errors) Q p s') :
    Possible c (rollbackPartialApply m artifacts >>= k) Q p s := by
  apply Act.may_bind.2
  apply Act.may_bind.2
  apply possible_removeAll
  intro errors s₁ hs₁
  apply possible_safe (.removeSwapfile m) (.ok ()) { s₁.disk with swapfile := false } ⟨rfl, rfl⟩
    (fun h => h)
  intro s₂ hs₂ _
  have hextends := hs₁.trans hs₂
  exact h _ s₂ ⟨rfl, hextends.kept, hextends.history⟩

/-- An artifact at a free place is created without fault. -/
theorem possible_createArtifact {a : OwnedArtifact} {rest completed : List OwnedArtifact}
    {Q : Except BootValidationError (List OwnedArtifact) → DurableTransaction → Site → Prop}
    (hkind : a.kind ≠ .helperBinary) (hp : Underway p) (hnew : a.path.components ∉ s.disk.files)
    (h : ∀ p s', Underway p → Extends s (s.disk.put a.path) s' → s'.Created a →
      Possible c (createArtifacts c m (completed ++ [a]) rest) Q p s') :
    Possible c (createArtifacts c m completed (a :: rest)) Q p s := by
  apply Act.may_ite.2
  refine ⟨fun hhelper => absurd hhelper hkind, fun _ => ?_⟩
  apply possible_announce hp.stage
  intro p s₁ hp hs₁
  apply possible_safe (.createArtifact a) (.ok ()) (s₁.disk.put a.path) _ (fun h => h)
  · intro s₂ hs₂ hcreated
    apply possible_safe (.artifactMatches a) true s₂.disk rfl (fun h => h)
    intro s₃ hs₃ _
    apply Act.may_ite.2
    refine ⟨fun hmatches => absurd hmatches (by simp), fun _ => ?_⟩
    apply possible_complete hp
    intro p hp
    apply possible_persist
    intro s₄ hs₄
    have hextends := hs₁.trans (hs₂.trans (hs₃.trans hs₄))
    apply h p s₄ hp _ ((hs₃.trans hs₄).created ⟨_, hcreated⟩)
    exact ⟨by rw [hs₄.disk, hs₃.disk, hs₂.disk, hs₁.disk], hextends.kept, hextends.history⟩
  · exact ⟨by rw [hs₁.disk]; exact hnew, rfl⟩

/-- The places of the artifacts still to come are free. -/
def Free (artifacts : List OwnedArtifact) (d : Disk) : Prop :=
  ∀ a ∈ artifacts, a.kind ≠ .helperBinary → a.path.components ∉ d.files

theorem Free.put {a : OwnedArtifact} {rest : List OwnedArtifact} {d : Disk}
    (h : Free (a :: rest) d) (hnodup : ((a :: rest).map fun a => a.path.components).Nodup) :
    Free rest (d.put a.path) := by
  intro b hb hkind
  have hhead := (List.nodup_cons.1 hnodup).1
  simp only [Disk.put, Finset.mem_insert, not_or]
  refine ⟨fun heq => hhead ?_, h b (List.mem_cons_of_mem _ hb) hkind⟩
  exact List.mem_map.2 ⟨b, hb, heq⟩

/-- Everything is created. -/
theorem possible_createArtifacts {k : List OwnedArtifact → Api β}
    (rest completed : List OwnedArtifact)
    (hnodup : (rest.map fun a => a.path.components).Nodup) (hnew : Free rest s.disk)
    (hp : Underway p)
    (h : ∀ completed p s', Underway p → Extends s s'.disk s' →
      (∀ a ∈ rest, a.kind ≠ .helperBinary → s'.Created a) → Possible c (k completed) Q p s') :
    Possible c (createArtifacts c m completed rest >>= k) Q p s := by
  induction rest generalizing completed p s with
  | nil =>
    exact Act.may_bind.2 (h completed p s hp ⟨rfl, List.Subset.refl _, fun hs => hs⟩ (by simp))
  | cons a rest ih =>
    have hnodup' := (List.nodup_cons.1 hnodup).2
    apply Act.may_bind.2
    by_cases hkind : a.kind = .helperBinary
    · apply Act.may_ite.2
      refine ⟨fun _ => ?_, fun hother => absurd hkind hother⟩
      -- the helper is the one that was staged
      apply possible_safe (.stagedHelperMatches _) true s.disk rfl (by simp [Answer.Strands])
      intro s₁ hs₁ _
      apply Act.may_ite.2
      refine ⟨fun hmatches => absurd hmatches (by simp), fun _ => ?_⟩
      apply Act.may_bind.1
      have hnew' : Free rest s₁.disk := by
        rw [hs₁.disk]
        exact fun b hb => hnew b (List.mem_cons_of_mem _ hb)
      apply ih completed hnodup' hnew' hp
      intro completed p s₂ hp hs₂ hcreated
      apply h completed p s₂ hp (hs₁.trans hs₂)
      intro b hb hother
      rcases List.mem_cons.1 hb with rfl | hb
      · exact absurd hkind hother
      · exact hcreated b hb hother
    · apply possible_createArtifact hkind hp (hnew a (by simp) hkind)
      intro p s₁ hp hs₁ ha
      apply Act.may_bind.1
      have hnew' : Free rest s₁.disk := by
        rw [hs₁.disk]
        exact hnew.put hnodup
      apply ih (completed ++ [a]) hnodup' hnew' hp
      intro completed p s₂ hp hs₂ hcreated
      apply h completed p s₂ hp (hs₁.trans hs₂)
      intro b hb hother
      rcases List.mem_cons.1 hb with rfl | hb
      · exact hs₂.created ha
      · exact hcreated b hb hother

/-- Everything is created and then the helper is found changed. -/
theorem createArtifacts_helperChanged {helper : OwnedArtifact} (hhelper : helper.kind = .helperBinary)
    (rest completed : List OwnedArtifact) (hmem : helper ∈ rest)
    (hnodup : (rest.map fun a => a.path.components).Nodup) (hnew : Free rest s.disk)
    (hp : Underway p) (hswap : s.disk.swapfile = true) :
    Possible c (createArtifacts c m completed rest)
      (fun r _ s => (∃ e, r = .error e) ∧ s.disk.swapfile = true) p s := by
  induction rest generalizing completed p s with
  | nil => cases hmem
  | cons a rest ih =>
    by_cases hkind : a.kind = .helperBinary
    · apply Act.may_ite.2
      refine ⟨fun _ => ?_, fun hother => absurd hkind hother⟩
      -- the helper is found changed
      apply possible_ask (.stagedHelperMatches _) false s.disk rfl
      intro s₁ hs₁ _
      apply Act.may_ite.2
      refine ⟨fun _ => ?_, fun hmatches => absurd rfl hmatches⟩
      apply possible_fail
      intro e t s₂ hs₂
      exact ⟨⟨e, rfl⟩, by rw [hs₂.disk, hs₁, hswap]⟩
    · have hrest : helper ∈ rest := by
        rcases List.mem_cons.1 hmem with rfl | hrest
        · exact absurd hhelper hkind
        · exact hrest
      -- any other artifact is created without fault
      apply possible_createArtifact hkind hp (hnew a (by simp) hkind)
      intro p s₁ hp hs₁ _
      apply ih (completed ++ [a]) hrest (List.nodup_cons.1 hnodup).2 _ hp
      · rw [hs₁.disk]
        exact hswap
      · rw [hs₁.disk]
        exact hnew.put hnodup

/-- What a creation without fault reports. -/
def createdSwap (m : PreparedManifest) : SwapIdentity :=
  { m.payload.swapfile with uuid := some "owned-swap-uuid", active := false }

/-- The swapfile is created without fault. -/
theorem possible_createAll
    {Q : Except BootValidationError Unit → DurableTransaction → Site → Prop}
    (hs : Clean m s.disk) (hp : p.stage = .applying)
    (h : ∀ p s', Underway p → Extends s { s.disk with swapfile := true } s' →
      Possible c (createArtifacts c m m.helpers m.payload.ownedArtifacts >>= finishApply c m) Q
        p s') :
    Possible c (createAll c m) Q p s := by
  apply possible_announce hp
  intro p s₁ hp hs₁
  apply possible_safe (.createSwapfile m) (.ok (createdSwap m)) { s₁.disk with swapfile := true } _
    (fun h => h)
  · intro s₂ hs₂ _
    apply possible_orFail
    apply possible_amend
    apply possible_persist
    intro s₃ hs₃
    apply Act.may_ite.2
    constructor
    · -- the swapfile is the planned one
      intro hmismatch
      simp [swapMismatch, createdSwap] at hmismatch
    · intro _
      apply possible_complete
      · exact ⟨hp.stage, hp.opened⟩
      intro p hp
      apply possible_persist
      intro s₄ hs₄
      have hextends := hs₁.trans (hs₂.trans (hs₃.trans hs₄))
      apply h p s₄ hp
      exact ⟨by rw [hs₄.disk, hs₃.disk, hs₂.disk, hs₁.disk], hextends.kept, hextends.history⟩
  · exact ⟨by rw [hs₁.disk]; exact hs.1, rfl⟩

theorem Clean.free {d : Disk} (h : Clean m d) (swapfile : Bool) :
    Free m.payload.ownedArtifacts { d with swapfile := swapfile } := by
  intro a ha hkind
  exact h.2 a (List.mem_filter.2 ⟨ha, by simp [hkind]⟩)

theorem createAll_helperChanged {helper : OwnedArtifact} (hhelper : helper.kind = .helperBinary)
    (hmem : helper ∈ m.payload.ownedArtifacts)
    (hm : (m.payload.ownedArtifacts.map fun a => a.path.components).Nodup) (hs : Clean m s.disk)
    (hp : p.stage = .applying) :
    Possible c (createAll c m) (fun r _ s => (∃ e, r = .error e) ∧ s.disk.swapfile = true) p s := by
  apply possible_createAll hs hp
  intro p s₁ hp hs₁
  apply Act.may_bind.2
  apply Act.may_mono
  · apply createArtifacts_helperChanged hhelper _ _ hmem hm _ hp
    · rw [hs₁.disk]
    · rw [hs₁.disk]
      exact hs.free true
  · rintro r t s ⟨⟨e, rfl⟩, hswap⟩
    exact ⟨⟨e, rfl⟩, hswap⟩

/-- Everything is created, the directories cannot be synced, and all of it is rolled back. -/
theorem createAll_rolledBack (hm : (m.payload.ownedArtifacts.map fun a => a.path.components).Nodup)
    (hs : Clean m s.disk) (hp : p.stage = .applying) :
    Possible c (createAll c m)
      (fun r _ s' => (∃ e, r = .error e) ∧ (∀ a ∈ m.created, s'.Created a) ∧
        (Unstranded s.history → Unstranded s'.history)) p s := by
  apply possible_createAll hs hp
  intro p s₁ hp hs₁
  apply possible_createArtifacts _ _ hm _ hp
  · intro completed p s₂ hp hs₂ hcreated
    apply possible_safe (.syncParents m) (.error "no sync") s₂.disk rfl (fun h => h)
    intro s₃ hs₃ _
    apply possible_rollback
    intro errors s₄ hs₄
    apply possible_fail
    intro e t s₅ hs₅
    have hlater := hs₃.trans (hs₄.trans hs₅)
    refine ⟨⟨e, rfl⟩, fun a ha => hlater.created ?_, ?_⟩
    · obtain ⟨ha, hkind⟩ := List.mem_filter.1 ha
      exact hcreated a ha (by simpa using hkind)
    · exact (hs₁.trans (hs₂.trans hlater)).history
  · rw [hs₁.disk]
    exact hs.free true

end Possible

/-- The payload of a transaction whose first phase is done. -/
def measuredPayload (c : Codec) (m : PreparedManifest) : DurableTransactionPayload :=
  { (DurableTransaction.initial c m "boot-a").payload with
    stage := .baselineMeasured
    evidenceHashes := Finmap.singleton "zram-baseline-evidence-v4.json" "" }

/-- For a valid manifest the function gets to the first call. -/
theorem possible_apply {c : Codec} {m : PreparedManifest} (hm : m.validate c = .ok ())
    {Q : Except BootValidationError Unit → DurableTransaction → Site → Prop} {d : Disk}
    (h : ∀ p s, p.stage = .applying → Extends ⟨d, []⟩ d s → Possible c (createAll c m) Q p s) :
    Possible c (applyExactTransaction c m) Q (measuredPayload c m) ⟨d, []⟩ := by
  apply Act.may_bind.2
  apply Act.may_ofExcept.2
  rw [hm]
  apply Act.may_bind.2
  apply Act.may_current.2
  apply Act.may_bind.2
  apply Act.may_ofExcept.2
  rw [DurableTransaction.validate_sealed]
  apply Act.may_bind.2
  apply Act.may_ofExcept.2
  -- all gates let the transaction through
  have haccepted : refuseIf
      ((DurableTransaction.sealed c (measuredPayload c m)).payload.stage != .baselineMeasured
        || (DurableTransaction.sealed c (measuredPayload c m)).payload.manifestSha256 !=
            c.canonicalJsonSha256 (.manifest m)
        || ((DurableTransaction.sealed c (measuredPayload c m)).payload.evidenceHashes.lookup
            "zram-baseline-evidence-v4.json").isNone)
      BootValidationError.transition = .ok () := by
    simp [refuseIf, DurableTransaction.sealed, measuredPayload, DurableTransaction.initial]
  rw [haccepted]
  apply Act.may_bind.2
  apply Act.may_bind.2
  apply Act.may_current.2
  apply Act.may_bind.2
  apply Act.may_ofExcept.2
  rw [DurableTransaction.transition_sealed rfl]
  apply possible_persist
  intro s hs
  exact h _ s rfl hs

/-! ## §8 The result -/

/-- A failed apply leaves neither swapfile nor entry nor unit exactly if none of them was there
    before and no answer of the backend was one of those after which nothing is undone. -/
theorem failed_apply_clean_iff {c : Codec} {m : PreparedManifest} {tx tx' : DurableTransaction}
    {d : Disk} {e : BootValidationError} {s : Site}
    (h : Reaches faulty (applyExactTransaction c m tx) ⟨d, []⟩ (.pure (.error e, tx')) s) :
    Clean m s.disk ↔ Clean m d ∧ Unstranded s.history := by
  have htrial : Act.wp faulty (fun _ _ => True) (applyExactTransaction c m)
      (fun r _ s => (∃ e, r = .error e) → Settled m d s) tx ⟨d, []⟩ :=
    applyExactTransaction_trial rfl fun _ hx => by cases hx
  exact Prog.wp_reaches htrial h ⟨e, rfl⟩

/-- With any digest function, some apply of the manifest to an empty disk creates all artifacts,
    fails and leaves the disk clean, with both sides of the condition met. -/
def FailsCleanly (m : Codec → PreparedManifest) : Prop :=
  ∀ c, ∃ tx e tx' s,
    Reaches faulty (applyExactTransaction c (m c) tx) ⟨⟨false, ∅⟩, []⟩ (.pure (.error e, tx')) s ∧
      (m c).created ≠ [] ∧ (∀ a ∈ (m c).created, s.Created a) ∧ Clean (m c) s.disk ∧
      (Clean (m c) s.disk ↔ Clean (m c) ⟨false, ∅⟩ ∧ Unstranded s.history)

/-- The directories cannot be synced after the entry and the unit have been created. -/
theorem failed_apply_clean_rollback : FailsCleanly sampleManifest := by
  intro c
  have hm := sampleManifest_valid c
  have hempty : Clean (sampleManifest c) ⟨false, ∅⟩ := ⟨rfl, by simp⟩
  have hrun : Possible c (applyExactTransaction c (sampleManifest c))
      (fun r _ s => (∃ e, r = .error e) ∧ (∀ a ∈ (sampleManifest c).created, s.Created a) ∧
        Unstranded s.history)
      (measuredPayload c (sampleManifest c)) ⟨⟨false, ∅⟩, []⟩ := by
    apply possible_apply hm
    intro p s hp hs
    apply Act.may_mono
    · exact createAll_rolledBack (PreparedManifest.distinct_of_validate hm) (hs.disk ▸ hempty) hp
    · rintro r t s' ⟨herror, hcreated, hhistory⟩
      exact ⟨herror, hcreated, hhistory (hs.history fun x hx => by cases hx)⟩
  obtain ⟨⟨r, tx'⟩, s, hreaches, ⟨e, rfl⟩, hcreated, hhistory⟩ := Prog.may_reaches hrun
  have hclean := failed_apply_clean_iff hreaches
  refine ⟨_, e, tx', s, hreaches, ?_, hcreated, hclean.2 ⟨hempty, hhistory⟩, hclean⟩
  simp [PreparedManifest.created, sampleManifest, PreparedManifest.sealed,
    PreparedManifestPayload.rendered, OwnedArtifact.digested, entryFile]

/-- With any digest function, some apply of the manifest to an empty disk fails and leaves
    the swapfile. -/
def LeavesSwapfile (m : Codec → PreparedManifest) : Prop :=
  ∀ c, ∃ tx e tx' s,
    Reaches faulty (applyExactTransaction c (m c) tx) ⟨⟨false, ∅⟩, []⟩ (.pure (.error e, tx')) s ∧
      ¬ Clean (m c) s.disk

/-- The helper is found changed when everything else is in place. -/
theorem helper_change_leaves_swapfile : LeavesSwapfile sampleManifest := by
  intro c
  have hm := sampleManifest_valid c
  have hrun : Possible c (applyExactTransaction c (sampleManifest c))
      (fun r _ s => (∃ e, r = .error e) ∧ s.disk.swapfile = true)
      (measuredPayload c (sampleManifest c)) ⟨⟨false, ∅⟩, []⟩ := by
    apply possible_apply hm
    intro p s hp hs
    have hmem : helperFile ∈ (sampleManifest c).payload.ownedArtifacts := by
      simp [sampleManifest, PreparedManifest.sealed, PreparedManifestPayload.rendered]
    apply createAll_helperChanged rfl hmem
    · exact PreparedManifest.distinct_of_validate hm
    · rw [hs.disk]
      exact ⟨rfl, by simp⟩
    · exact hp
  obtain ⟨⟨r, tx'⟩, s, hreaches, ⟨e, rfl⟩, hswap⟩ := Prog.may_reaches hrun
  refine ⟨_, e, tx', s, hreaches, fun hclean => ?_⟩
  exact absurd hclean.1 (by simp [hswap])

end Nemor.Tiering.BootV6
