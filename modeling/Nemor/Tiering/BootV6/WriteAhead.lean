import Nemor.Lib.Log
import Nemor.Tiering.BootV6.Discipline

/-!
# Boot validation v6: intents are stored before mutations

A session is any sequence of calls of the API for one manifest, each on any transaction and
each ended or cut off anywhere, with any replies of the backend. In the log of a session
every mutation comes right after the storing of a transaction that announces it.
-/

namespace Nemor.Tiering.BootV6

open Effectful UnixPath Log

/-! ## §1 Sessions -/

/-- The functions of the API, with the arguments besides manifest and transaction. -/
inductive Call where
  | initializeAndMeasureBaseline (preflight : PreflightObservation) (bootId : String)
  | applyExactTransaction
  | selectExactOneShot
  | activate (stages : List TransactionStage)
  | collectAndValidatePostBoot
  | selectBaselineRollback
  | verifyThenCleanup

/-- The command as a program. -/
def Call.run (c : Codec) (m : PreparedManifest) : Call → Api Unit
  | .initializeAndMeasureBaseline preflight bootId => do
    let _ ← BootV6.initializeAndMeasureBaseline c m preflight bootId
  | .applyExactTransaction => BootV6.applyExactTransaction c m
  | .selectExactOneShot => BootV6.selectExactOneShot c m
  | .activate stages => BootV6.activate c stages
  | .collectAndValidatePostBoot => do
    let _ ← BootV6.collectAndValidatePostBoot c m
  | .selectBaselineRollback => BootV6.selectBaselineRollback c m
  | .verifyThenCleanup => BootV6.verifyThenCleanup c m

/-- A backend call with the function that made it. -/
structure Step where
  call : Call
  event : Event backend

/-- The logs of sessions. Callers validate a manifest when they load it; only
    `selectBaselineRollback` relies on that, the others check what they need. -/
inductive Session (c : Codec) (m : PreparedManifest) : List Step → Prop
  | start : Session c m []
  | call {log log' : List Step} {q : Prog backend DurableTransaction _} (call : Call)
      (tx : DurableTransaction) (loaded : call = .selectBaselineRollback → m.validate c = .ok ()) :
      Session c m log → Reaches (Env.noting (Step.mk call)) (call.run c m tx) log q log' →
      Session c m log'

/-! ## §2 Announced mutations -/

/-- Removals count as mutations in the cleanup only: those of a failed apply undo what was
    announced. -/
def Step.mutates (x : Step) : Bool :=
  x.event.op.forward ||
    match x.call with
    | .verifyThenCleanup => x.event.op.removes
    | _ => false

/-- A mutation comes right after the storing of its open intent, in the same call. -/
def WrittenAhead (c : Codec) (m : PreparedManifest) (pre : List Step) (x : Step) : Prop :=
  x.mutates = true →
    ∃ tx path, pre.getLast? = some ⟨x.call, .persistTransaction tx, .ok ()⟩ ∧
      x.event.op.target? m = some path ∧ Announces c tx path

section

variable {c : Codec} {m : PreparedManifest} {call : Call}

/-- The property of the log, as an invariant of a run. -/
abbrev AllWrittenAhead (c : Codec) (m : PreparedManifest) : DurableTransaction → List Step → Prop :=
  fun _ log => AllPrefixed (WrittenAhead c m) log

theorem writtenAhead_respects :
    Respects c m (Env.noting (Step.mk call)) (AllWrittenAhead c m) where
  edit _ _ _ _ _ _ h := h
  note _ _ _ _ _ _ _ _ _ h := h
  store tx log r log' h heq := by
    subst heq
    apply h.snoc
    intro hmut
    cases call <;> simp [Step.mutates, Op.forward, Op.removes] at hmut
  plain tx log op r log' hp h heq := by
    subst heq
    apply h.snoc
    intro hmut
    -- a plain call is no mutation of any function
    cases call <;> simp [Step.mutates, Op.forward_of_plain hp, Op.removes_of_plain hp] at hmut
  announced tx log log₁ log₂ op r path ht ha h h₁ h₂ := by
    subst h₁ h₂
    apply AllPrefixed.snoc
    · apply h.snoc
      intro hmut
      cases call <;> simp [Step.mutates, Op.forward, Op.removes] at hmut
    · intro _
      exact ⟨tx, path, by simp, ht, ha⟩

theorem writtenAhead_tolerates (hcall : call ≠ .verifyThenCleanup) :
    Tolerates (Env.noting (Step.mk call)) (AllWrittenAhead c m) := by
  intro tx log op r log' hr h heq
  subst heq
  apply h.snoc
  intro hmut
  have hforward : op.forward = false := by cases op <;> first | rfl | cases hr
  cases call <;> simp_all [Step.mutates]

/-! ## §3 Calls and sessions -/

theorem initializeAndMeasureBaseline_writesAhead (preflight : PreflightObservation)
    (bootId : String) :
    Act.Keeps (Env.noting (Step.mk call)) (AllWrittenAhead c m)
      (initializeAndMeasureBaseline c m preflight bootId) := by
  have h : Respects c m (Env.noting (Step.mk call)) (AllWrittenAhead c m) := writtenAhead_respects
  apply Act.keeps_bind (Act.keeps_ofExcept _)
  intro _
  apply Act.keeps_bind (Act.keeps_ofExcept _)
  intro tx
  apply Act.keeps_bind (insist_keeps h.toBookkeeping rfl)
  intro _
  apply Act.keeps_bind (insist_keeps h.toBookkeeping rfl)
  intro _
  apply Act.keeps_locally
  intro _ log hlog
  exact (measureBaseline_leads h preflight).keeps tx log hlog

theorem call_writesAhead (loaded : call = .selectBaselineRollback → m.validate c = .ok ()) :
    Act.Keeps (Env.noting (Step.mk call)) (AllWrittenAhead c m) (call.run c m) := by
  have h : Respects c m (Env.noting (Step.mk call)) (AllWrittenAhead c m) := writtenAhead_respects
  cases call with
  | initializeAndMeasureBaseline preflight bootId =>
    apply Act.keeps_bind (initializeAndMeasureBaseline_writesAhead preflight bootId)
    intro _
    exact Act.keeps_pure ()
  | applyExactTransaction =>
    exact applyExactTransaction_keeps h (writtenAhead_tolerates (by simp))
  | selectExactOneShot => exact selectExactOneShot_keeps h
  | activate stages => exact activate_keeps h.toBookkeeping stages
  | collectAndValidatePostBoot =>
    apply Act.keeps_bind (collectAndValidatePostBoot_keeps h.toBookkeeping)
    intro _
    exact Act.keeps_pure ()
  | selectBaselineRollback =>
    exact selectBaselineRollback_keeps h (recoveryOneShot_keeps h (loaded rfl))
  | verifyThenCleanup =>
    have hblind : SealBlind (AllWrittenAhead c m) := fun _ _ _ _ _ _ _ _ h => h
    exact verifyThenCleanup_keeps h (sealAuthorities_keeps h.toBookkeeping.checked hblind.checked)

end

/-- In every session every mutation is announced durably right before it. -/
def WritesAhead (c : Codec) (m : PreparedManifest) : Prop :=
  ∀ log, Session c m log → AllPrefixed (WrittenAhead c m) log

theorem sessions_write_ahead (c : Codec) (m : PreparedManifest) : WritesAhead c m := by
  intro log h
  induction h with
  | start => exact AllPrefixed.nil _
  | call call tx loaded _ hr ih => exact Act.wp_always (call_writesAhead loaded tx _ ih) hr

end Nemor.Tiering.BootV6
