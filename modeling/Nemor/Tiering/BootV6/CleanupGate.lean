import Nemor.Lib.Log
import Nemor.Tiering.BootV6.Discipline

/-!
# Boot validation v6: the gate before cleanup

`verifyThenCleanup` deletes the only way back if it runs too early. In every run of it, from
any transaction and with any replies, each deletion comes after the proof of the baseline and
after both stages of the cleanup were stored.
-/

namespace Nemor.Tiering.BootV6

open Effectful Log

/-! ## §1 What a deletion needs -/

/-- The removals, and the removal of the helper's directory. -/
def Op.deletes : Op → Bool
  | .finalizeRuntimeCleanup _ => true
  | op => op.removes

/-- The transaction against which the baseline is checked. -/
def DurableTransaction.inBaselineBoot (c : Codec) (tx : DurableTransaction) : DurableTransaction :=
  if tx.payload.stage = .baselineSelected then
    tx.amend c fun p => { p with stage := .baselineBoot }
  else
    tx

/-- A log of a call on `tx` that shows, in this order, an observation of the baseline that
    passes and the two stored stages. -/
def BaselineProved (c : Codec) (m : PreparedManifest) (tx : DurableTransaction)
    (log : List (Event backend)) : Prop :=
  ∃ baseline verified cleaning,
    [⟨.collectBaseline m, .ok baseline⟩, ⟨.persistTransaction verified, .ok ()⟩,
      ⟨.persistTransaction cleaning, .ok ()⟩].Sublist log ∧
    verifyBaselineBeforeCleanup m (tx.inBaselineBoot c) baseline = .ok () ∧
    verified.payload.stage = .baselineVerified ∧ cleaning.payload.stage = .cleaning

/-- Each deletion is preceded by the proof of the baseline. -/
def Gated (c : Codec) (m : PreparedManifest) (tx : DurableTransaction) :
    List (Event backend) → Prop :=
  AllPrefixed fun pre e => e.op.deletes = true → BaselineProved c m tx pre

variable {c : Codec} {m : PreparedManifest} {tx : DurableTransaction}

theorem BaselineProved.snoc {log : List (Event backend)} (h : BaselineProved c m tx log)
    (e : Event backend) : BaselineProved c m tx (log ++ [e]) := by
  obtain ⟨baseline, verified, cleaning, hlog, hrest⟩ := h
  exact ⟨baseline, verified, cleaning, hlog.trans (List.sublist_append_left _ _), hrest⟩

/-- The two stages are stored after the observation. -/
theorem baselineProved_of {log : List (Event backend)} {baseline : BaselineRestoreObservation}
    {verified cleaning : DurableTransaction} (hmem : ⟨.collectBaseline m, .ok baseline⟩ ∈ log)
    (hbaseline : verifyBaselineBeforeCleanup m (tx.inBaselineBoot c) baseline = .ok ())
    (hverified : verified.payload.stage = .baselineVerified)
    (hcleaning : cleaning.payload.stage = .cleaning) :
    BaselineProved c m tx (log ++ [⟨.persistTransaction verified, .ok ()⟩] ++
      [⟨.persistTransaction cleaning, .ok ()⟩]) := by
  have hcollect := List.singleton_sublist.2 hmem
  have hstages := (hcollect.append_right [⟨.persistTransaction verified, .ok ()⟩]).append_right
    [⟨.persistTransaction cleaning, .ok ()⟩]
  exact ⟨baseline, verified, cleaning, hstages, hbaseline, hverified, hcleaning⟩

theorem gated_quiet {log : List (Event backend)} (h : Gated c m tx log) {e : Event backend}
    (he : e.op.deletes = false) : Gated c m tx (log ++ [e]) := by
  apply h.snoc
  intro hdeletes
  rw [he] at hdeletes
  cases hdeletes

/-! ## §2 Before the gate -/

/-- The backend may answer anything. -/
abbrev anyReply : Env backend DurableTransaction (List (Event backend)) := Env.noting id

theorem enterBaselineBoot_gated :
    Act.wp anyReply (fun _ => Gated c m tx) (enterBaselineBoot c)
      (fun r t log => Gated c m tx log ∧ (r = .ok () → t = tx.inBaselineBoot c)) tx [] := by
  have hnil : Gated c m tx [] := AllPrefixed.nil _
  simp only [enterBaselineBoot, Act.wp_bind, Act.wp_current, Act.wp_ite]
  constructor
  · intro hstage
    apply wp_advance
    · exact fun e => ⟨hnil, fun he => by cases he⟩
    · apply wp_persistOrFail.2
      refine ⟨hnil, fun reply log hlog => ?_⟩
      subst hlog
      refine ⟨gated_quiet hnil rfl, fun _ => ?_⟩
      simp [DurableTransaction.inBaselineBoot, hstage]
  · intro hstage
    exact ⟨hnil, fun _ => by simp [DurableTransaction.inBaselineBoot, hstage]⟩

/-- From the observation on: the two stages are stored one after the other. -/
theorem storeStages_proved {log : List (Event backend)} {t : DurableTransaction}
    {baseline : BaselineRestoreObservation} (h : Gated c m tx log)
    (hmem : ⟨.collectBaseline m, .ok baseline⟩ ∈ log)
    (hverify : verifyBaselineBeforeCleanup m (tx.inBaselineBoot c) baseline = .ok ()) :
    Act.wp anyReply (fun _ => Gated c m tx)
      (do advance c .baselineVerified; persistOrFail; advance c .cleaning; persistOrFail)
      (fun r _ log => Gated c m tx log ∧ (r = .ok () → BaselineProved c m tx log)) t log := by
  apply Act.wp_bind.2
  apply wp_advance
  · exact fun e => ⟨h, fun he => by cases he⟩
  · apply Act.wp_bind.2
    apply wp_persistOrFail.2
    refine ⟨h, fun reply₁ log₁ h₁ => ?_⟩
    subst h₁
    have hg₁ := gated_quiet h (e := ⟨.persistTransaction _, reply₁⟩) rfl
    cases reply₁ with
    | error e => exact ⟨hg₁, fun he => by cases he⟩
    | ok _ =>
      apply Act.wp_bind.2
      apply wp_advance
      · exact fun e => ⟨hg₁, fun he => by cases he⟩
      · apply wp_persistOrFail.2
        refine ⟨hg₁, fun reply₂ log₂ h₂ => ?_⟩
        subst h₂
        refine ⟨gated_quiet hg₁ rfl, fun hr => ?_⟩
        -- the gate opens only if the second write was acknowledged
        cases reply₂ with
        | error e => cases hr
        | ok _ =>
          exact baselineProved_of hmem hverify rfl rfl

theorem proveBaseline_gated {log : List (Event backend)} (h : Gated c m tx log) :
    Act.wp anyReply (fun _ => Gated c m tx) (proveBaseline c m)
      (fun r _ log => Gated c m tx log ∧ (r = .ok () → BaselineProved c m tx log))
      (tx.inBaselineBoot c) log := by
  apply Act.wp_bind.2
  apply wp_ask.2
  refine ⟨h, fun reply log₁ h₁ => ?_⟩
  subst h₁
  have hg₁ := gated_quiet h (e := ⟨.collectBaseline m, reply⟩) rfl
  -- every early exit leaves the gate closed, with nothing removed
  apply Act.wp_bind.2
  apply Act.wp_ofExcept.2
  cases reply with
  | error e => exact ⟨hg₁, fun he => by cases he⟩
  | ok baseline =>
    apply Act.wp_bind.2
    apply Act.wp_current.2
    apply Act.wp_bind.2
    apply Act.wp_ofExcept.2
    cases hverify : verifyBaselineBeforeCleanup m (tx.inBaselineBoot c) baseline with
    | error e => exact ⟨hg₁, fun he => by cases he⟩
    | ok _ =>
      apply Act.wp_bind.2
      refine wp_keepEvidence (by exact hg₁) fun stored log₂ h₂ => ?_
      subst h₂
      have hg₂ := gated_quiet hg₁ (e := ⟨.persistEvidence _ _, stored⟩) rfl
      cases stored with
      | error e => exact ⟨hg₂, fun he => by cases he⟩
      | ok _ => exact storeStages_proved hg₂ (by simp) hverify

/-! ## §3 Behind the gate -/

/-- Once the baseline is proved nothing can go wrong any more. -/
theorem gated_preserved (t : DurableTransaction) (log : List (Event backend)) (op : Op)
    (r : op.Reply) (log' : List (Event backend))
    (h : Gated c m tx log ∧ BaselineProved c m tx log) (hr : anyReply t log op r log') :
    Gated c m tx log' ∧ BaselineProved c m tx log' := by
  subst hr
  exact ⟨AllPrefixed.snoc h.1 _ fun _ => h.2, h.2.snoc _⟩

theorem verifyThenCleanup_gated :
    Act.wp anyReply (fun _ => Gated c m tx) (verifyThenCleanup c m)
      (fun _ _ log => Gated c m tx log) tx [] := by
  apply Act.wp_bind.2
  apply Act.wp_mono enterBaselineBoot_gated
  intro entered t log h
  cases entered with
  | error e => exact h.1
  | ok _ =>
    obtain rfl := h.2 rfl
    apply Act.wp_bind.2
    apply Act.wp_mono (proveBaseline_gated h.1)
    intro proved t log h
    cases proved with
    | error e => exact h.1
    | ok _ =>
      have hkeeps := Act.keeps_preserved gated_preserved
        (do removeOwned c m; sealAuthorities c m) t log ⟨h.1, h.2 rfl⟩
      apply Act.wp_mono (Act.wp_weaken hkeeps fun _ _ hlog => hlog.1)
      intro r t log hlog
      exact hlog.1

/-- In every run of the cleanup on `tx`, cut off anywhere, deletions are gated. -/
def CleanupGated (c : Codec) (m : PreparedManifest) (tx : DurableTransaction) : Prop :=
  ∀ q log, Reaches anyReply (verifyThenCleanup c m tx) [] q log → Gated c m tx log

theorem cleanup_is_gated (c : Codec) (m : PreparedManifest) (tx : DurableTransaction) :
    CleanupGated c m tx := fun _ _ hr =>
  Act.wp_always verifyThenCleanup_gated hr

end Nemor.Tiering.BootV6
