import Nemor.Tiering.BootV6.CleanupGate
import Nemor.Tiering.BootV6.Completion
import Nemor.Tiering.BootV6.WriteAhead

/-!
# Boot validation v6: transactions stay sealed

The next phase rejects a transaction whose seal is not that of its payload. Whatever calls
of the API are made on a transaction, in any order, with any manifests and any replies of the
backend, the transaction in hand and every transaction handed to the store are sealed.

One function leaves the seal behind for a while: it notes two authorities before it renews
the seal, and the second note may fail. It never gets there, because the evidence it asks
for first is never written.
-/

namespace Nemor.Tiering.BootV6

open Effectful UnixPath

/-! ## §1 Uses of a transaction -/

/-- The functions that take a transaction, with their other arguments. -/
inductive ApiCall where
  | transition (next : TransactionStage)
  | recordIntent (operation : String) (target : PathBuf)
  | completeLast (evidence : String)
  | backed (m : PreparedManifest) (call : Call)

/-- The method as a program. -/
def ApiCall.run (c : Codec) : ApiCall → Api Unit
  | .transition next => advance c next
  | .recordIntent operation target => intend c operation target
  | .completeLast evidence => complete c evidence
  | .backed m call => call.run c m

/-- The transaction after some calls, and what the backend was asked so far. A transaction
    is created for a manifest, or comes out of the first phase. -/
inductive Used (c : Codec) : DurableTransaction → List (Event backend) → Prop
  | new {m : PreparedManifest} {bootId : String} {tx : DurableTransaction} :
      DurableTransaction.new c m bootId = .ok tx → Used c tx []
  | initialized {m : PreparedManifest} {preflight : PreflightObservation} {bootId : String}
      {tx : DurableTransaction} {log : List (Event backend)} :
      Reaches (Env.noting id) (initializeAndMeasureBaseline c m preflight bootId ()) []
        (.pure (.ok tx, ())) log → Used c tx log
  | call {tx tx' : DurableTransaction} {log log' : List (Event backend)}
      {r : Except BootValidationError Unit} (call : ApiCall) :
      Used c tx log → Reaches anyReply (call.run c tx) log (.pure (r, tx')) log' →
      Used c tx' log'

/-! ## §2 The invariant -/

/-- Every transaction handed to the store was sealed. -/
def PersistedSealed (c : Codec) (log : List (Event backend)) : Prop :=
  ∀ tx r, ⟨.persistTransaction tx, r⟩ ∈ log → tx.IsSealed c

/-- What holds between two calls of a session. -/
structure Sound (c : Codec) (tx : DurableTransaction) (log : List (Event backend)) : Prop where
  sealed : tx.IsSealed c
  unwritten : Unwritten tx log
  persisted : PersistedSealed c log

section

variable {c : Codec} {m : PreparedManifest} {tx : DurableTransaction} {log : List (Event backend)}

theorem PersistedSealed.snoc (h : PersistedSealed c log) {e : Event backend}
    (he : ∀ tx, e.op = .persistTransaction tx → tx.IsSealed c) :
    PersistedSealed c (log ++ [e]) := by
  intro tx r hmem
  rcases List.mem_append.1 hmem with hold | hnew
  · exact h tx r hold
  · obtain rfl := List.mem_singleton.1 hnew
    exact he tx rfl

theorem Sound.snoc (h : Sound c tx log) {e : Event backend}
    (he : ∀ tx, e.op = .persistTransaction tx → tx.IsSealed c) : Sound c tx (log ++ [e]) :=
  ⟨h.sealed, h.unwritten, h.persisted.snoc he⟩

/-- Any call but the storing of a transaction. -/
theorem Sound.other (h : Sound c tx log) {op : Op} {r : op.Reply} {log' : List (Event backend)}
    (hop : ∀ tx, op ≠ .persistTransaction tx) (heq : anyReply tx log op r log') :
    Sound c tx log' := by
  subst heq
  exact h.snoc fun tx he => absurd he (hop tx)

theorem sound_bookkeeping : Bookkeeping c anyReply (Sound c) where
  edit tx tx' log hschema hseal he h :=
    ⟨hseal, (unwritten_bookkeeping anyReply).edit tx tx' log hschema hseal he h.unwritten,
      h.persisted⟩
  note tx tx' log name digest hn hschema hseal he h :=
    ⟨hseal, (unwritten_bookkeeping anyReply).note tx tx' log name digest hn hschema hseal he
      h.unwritten, h.persisted⟩
  store tx log r log' h heq := by
    subst heq
    apply h.snoc
    intro tx' he
    cases he
    exact h.sealed
  plain tx log op r log' hp h heq := by
    apply h.other _ heq
    rintro tx' rfl
    cases hp

theorem sound_respects : Respects c m anyReply (Sound c) where
  toBookkeeping := sound_bookkeeping
  announced tx log log₁ log₂ op r path ht _ h h₁ h₂ := by
    have hstored := sound_bookkeeping.store tx log _ log₁ h h₁
    apply hstored.other _ h₂
    -- what has a target is no storing
    rintro tx' rfl
    cases ht

theorem sound_tolerates : Tolerates anyReply (Sound c) := by
  intro tx log op r log' hremoves h heq
  apply h.other _ heq
  rintro tx' rfl
  cases hremoves

theorem sound_initial (bootId : String) (h : PersistedSealed c log) :
    Sound c (DurableTransaction.initial c m bootId) log where
  sealed := rfl
  unwritten := rfl
  persisted := h

/-! ## §3 Calls -/

/-- For any manifest: the call between intent and readback stores nothing. -/
theorem baselineOneShot_sound (k : Except String Unit → Api Unit)
    (hk : ∀ r, Act.Keeps anyReply (Checked (Sound c)) (k r)) :
    Act.Keeps anyReply (Checked (Sound c))
      (announce c "set_baseline_oneshot" m.payload.boot.currentEntry.path >>= fun _ =>
        ask (.setOneShot m.payload.recoveryEntry) >>= k) := by
  have hc := (sound_bookkeeping (c := c)).checked
  apply Act.keeps_bind
  · apply Act.keeps_bind
    · exact amend_keeps hc fun _ => rfl
    · intro _
      exact persistOrFail_keeps hc
  · intro _
    apply Act.keeps_bind _ hk
    apply Act.keeps_request
    intro tx log r log' h heq
    have hop : ∀ tx', Op.setOneShot m.payload.recoveryEntry ≠ .persistTransaction tx' :=
      fun _ he => by cases he
    exact ⟨h.1.other hop heq, h.2⟩

section Initialize

variable {τ : Type} (P : τ → Prop)

theorem insist_sound {op : Op} {hop : op.Reply = Except String Unit} {e : BootValidationError}
    (hne : ∀ tx, op ≠ .persistTransaction tx) :
    Act.Keeps (Env.noting id) (fun t log => P t ∧ PersistedSealed c log) (insist op hop e) := by
  apply Act.keeps_perform
  intro t log r log' h heq
  subst heq
  exact ⟨h.1, h.2.snoc fun tx he => absurd he (hne tx)⟩

theorem measureFromInitial_sound (preflight : PreflightObservation) (bootId : String) :
    Act.Leads (Env.noting id) (fun t log => P t ∧ PersistedSealed c log)
      (fun tx _ log => Sound c tx log)
      (Act.locally (DurableTransaction.initial c m bootId) (measureBaseline c m preflight)) := by
  intro t log h
  apply Act.wp_locally.2
  have hleads := measureBaseline_leads (sound_respects (m := m)) preflight _ log
    (sound_initial (m := m) bootId h.2)
  apply Act.wp_mono (Act.wp_weaken hleads fun _ _ hs => ⟨h.1, hs.persisted⟩)
  intro r tx log' h'
  exact ⟨⟨h.1, h'.1.persisted⟩, h'.2⟩

/-- The first phase works on a transaction of its own, which is sound when it is returned.
    What holds of the caller's memory stays. -/
theorem initializeAndMeasureBaseline_sound (preflight : PreflightObservation) (bootId : String) :
    Act.Leads (Env.noting id) (fun t log => P t ∧ PersistedSealed c log)
      (fun tx _ log => Sound c tx log) (initializeAndMeasureBaseline c m preflight bootId) := by
  apply Act.leads_after (Act.keeps_ofExcept _)
  intro _ t log h
  apply Act.wp_bind.2
  apply Act.wp_ofExcept.2
  cases hnew : DurableTransaction.new c m bootId with
  | error e => exact ⟨h, fun _ he => by cases he⟩
  | ok tx =>
    obtain rfl := DurableTransaction.new_inv hnew
    refine Act.leads_after (insist_sound P fun _ he => by cases he) ?_ t log h
    intro _
    apply Act.leads_after (insist_sound P fun _ he => by cases he)
    intro _
    exact measureFromInitial_sound P preflight bootId

end Initialize

theorem call_sound (call : Call) : Act.Keeps anyReply (Sound c) (call.run c m) := by
  have h : Respects c m anyReply (Sound c) := sound_respects
  cases call with
  | initializeAndMeasureBaseline preflight bootId =>
    -- a second transaction: the one at hand is only carried along
    apply Act.keeps_bind _ fun _ => Act.keeps_pure ()
    have hleads := initializeAndMeasureBaseline_sound (c := c) (m := m)
      (fun tx => tx.IsSealed c ∧ Unwritten tx ()) preflight bootId
    intro tx log hs
    apply Act.wp_mono (Act.wp_weaken (hleads tx log ⟨⟨hs.sealed, hs.unwritten⟩, hs.persisted⟩)
      fun _ _ h => ⟨h.1.1, h.1.2, h.2⟩)
    intro r tx' log' h
    exact ⟨h.1.1.1, h.1.1.2, h.1.2⟩
  | applyExactTransaction => exact applyExactTransaction_keeps h sound_tolerates
  | selectExactOneShot => exact selectExactOneShot_keeps h
  | activate stages => exact activate_keeps h.toBookkeeping stages
  | collectAndValidatePostBoot =>
    apply Act.keeps_bind (collectAndValidatePostBoot_keeps h.toBookkeeping)
    intro _
    exact Act.keeps_pure ()
  | selectBaselineRollback => exact selectBaselineRollback_keeps h baselineOneShot_sound
  | verifyThenCleanup =>
    -- the last part fails on the missing evidence before it stores anything
    have hstops := sealAuthorities_fails (c := c) (m := m) (R := anyReply)
      (K := Checked (Sound c)) fun _ _ hs => hs.1.unwritten
    exact verifyThenCleanup_keeps h hstops.keeps

theorem apiCall_sound (call : ApiCall) : Act.Keeps anyReply (Sound c) (call.run c) := by
  cases call with
  | transition next => exact advance_keeps sound_bookkeeping next
  | recordIntent operation target => exact amend_keeps sound_bookkeeping fun _ => rfl
  | completeLast evidence => exact complete_keeps sound_bookkeeping evidence
  | backed m call => exact call_sound call

/-! ## §4 Runs -/

theorem Used.sound (h : Used c tx log) : Sound c tx log := by
  induction h with
  | new hnew =>
    obtain rfl := DurableTransaction.new_inv hnew
    exact sound_initial _ fun _ _ hmem => by cases hmem
  | @initialized m preflight bootId tx log hr =>
    have hleads := initializeAndMeasureBaseline_sound (c := c) (m := m) (fun _ => True) preflight
      bootId () [] ⟨trivial, fun _ _ hmem => by cases hmem⟩
    exact (Prog.wp_reaches hleads hr).2 tx rfl
  | call call _ hr ih => exact Prog.wp_reaches (apiCall_sound call _ _ ih) hr

end

/-- After any calls the transaction is sealed, and so is every transaction handed to the
    store, up to any point of the call that comes next. -/
def StaysSealed (c : Codec) : Prop :=
  ∀ tx log, Used c tx log → tx.IsSealed c ∧ PersistedSealed c log ∧
    ∀ call q log', Reaches anyReply (ApiCall.run c call tx) log q log' → PersistedSealed c log'

theorem transactions_stay_sealed (c : Codec) : StaysSealed c := by
  intro tx log h
  refine ⟨h.sound.sealed, h.sound.persisted, ?_⟩
  intro call q log' hr
  have hcall := apiCall_sound call tx log h.sound
  apply Act.wp_always _ hr
  apply Act.wp_mono (Act.wp_weaken hcall fun _ _ hs => hs.persisted)
  intro _ _ _ hs
  exact hs.persisted

end Nemor.Tiering.BootV6
