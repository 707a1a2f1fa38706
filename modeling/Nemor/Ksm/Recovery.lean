import Nemor.Lib.Effectful
import Nemor.Lib.Log

/-!
# KSM: recovery of an owned transaction

`recoverOwned` restores the scanner in three writes: stop it, set its pace back, set `run`
back. Each write can fail, the transaction is marked only after the last one, and a call on a
marked transaction does nothing. The run theorem is about any number of calls with failures
injected anew before each of them.
-/

namespace Nemor.Ksm

open Effectful Log

/-! ## §1 Data -/

/-- Why a call fails. -/
inductive KsmError where
  | unsupported (message : String)
  | unsafeRequest (message : String)
  | invalid (message : String)
  | io (message : String)
  deriving DecidableEq

/-- Who has started the scanner. -/
inductive ScannerOwnership where
  | external
  | nemorOwnedValidation
  | notRunning
  | unknown
  deriving DecidableEq

/-- The registers of the scanner. -/
structure KsmSnapshot where
  run : UInt8
  pagesToScan : UInt64
  sleepMillisecs : UInt64
  preserveOnly : List (String × String)
  deriving DecidableEq

/-- What is needed to undo a change of the scanner. -/
structure KsmTransaction where
  transactionId : String
  ownership : ScannerOwnership
  baseline : KsmSnapshot
  scannerStarted : Bool
  recovered : Bool
  deriving DecidableEq

/-! ## §2 The scanner registers -/

/-- The calls that write the scanner. -/
inductive Op where
  | setRun (value : UInt8)
  | setScanner (pages sleepMs : UInt64)

/-- The calls, each of which may fail. -/
abbrev registers : Iface where
  Op := Op
  Reply _ := Except KsmError Unit

/-- The backend of the tests, which fails after so many calls if it is told to. -/
structure SimulatedBackend where
  current : KsmSnapshot
  mutationCount : UInt64
  failAfter : Option UInt64
  deriving DecidableEq

namespace SimulatedBackend

/-- Count a call, or fail it. -/
def mutate (b : SimulatedBackend) : Except KsmError Unit × SimulatedBackend :=
  if b.failAfter = some b.mutationCount then (.error (.io "injected failure"), b)
  else (.ok (), { b with mutationCount := b.mutationCount + 1 })

/-- Make a mutation, and change the registers if it was let through. -/
def mutating (b : SimulatedBackend) (f : KsmSnapshot → KsmSnapshot) :
    Except KsmError Unit × SimulatedBackend :=
  match b.mutate with
  | (.error e, b') => (.error e, b')
  | (.ok _, b') => (.ok (), { b' with current := f b'.current })

/-- Start or stop the scanner. Value 2 would unmerge everything. -/
def setRun (b : SimulatedBackend) (value : UInt8) : Except KsmError Unit × SimulatedBackend :=
  if value = 2 then (.error (.unsafeRequest "run=2 is globally forbidden"), b)
  else b.mutating fun current => { current with run := value }

/-- Set the speed of the scanner. -/
def setScanner (b : SimulatedBackend) (pages sleepMs : UInt64) :
    Except KsmError Unit × SimulatedBackend :=
  b.mutating fun current => { current with pagesToScan := pages, sleepMillisecs := sleepMs }

end SimulatedBackend

/-- The backend with the values written to `run` so far. -/
structure Bench where
  backend : SimulatedBackend
  written : List UInt8
  deriving DecidableEq

/-- The calls on the backend, with the registers that were written. -/
def Bench.handle : (op : Op) → Bench → Except KsmError Unit × Bench
  | .setRun value, b =>
    match b.backend.setRun value with
    | (.error e, backend) => (.error e, ⟨backend, b.written⟩)
    | (.ok _, backend) => (.ok (), ⟨backend, b.written ++ [value]⟩)
  | .setScanner pages sleepMs, b =>
    let (r, backend) := b.backend.setScanner pages sleepMs
    (r, ⟨backend, b.written⟩)

/-! ## §3 Recovery -/

section Recovery

variable {τ : Type}

/-- A call with `?`. -/
def issue (op : Op) : Act registers τ KsmError Unit :=
  Act.perform (I := registers) op id

/-- Stop the scanner, set it up as before, start it as before. -/
def restore (snapshot : KsmSnapshot) : Act registers τ KsmError Unit := do
  issue (.setRun 0)
  issue (.setScanner snapshot.pagesToScan snapshot.sleepMillisecs)
  issue (.setRun snapshot.run)

end Recovery

/-- The transaction is Nemor's own. -/
def KsmTransaction.owned (tx : KsmTransaction) : Bool :=
  tx.ownership == .nemorOwnedValidation &&
    "nemor-validation-".toList.isPrefixOf tx.transactionId.toList

/-- Restore a transaction that is ours, once. -/
def recoverOwned : Act registers KsmTransaction KsmError Bool := do
  let tx ← Act.current
  if tx.recovered then pure false
  else if !tx.owned then Act.fail (.unsafeRequest "uncertain recovery ownership")
  else do
    restore tx.baseline
    Act.assign fun tx => { tx with scannerStarted := false, recovered := true }
    pure true

/-- The registers have the values of the snapshot. -/
structure Restored (snapshot : KsmSnapshot) (b : Bench) : Prop where
  run : b.backend.current.run = snapshot.run
  pages : b.backend.current.pagesToScan = snapshot.pagesToScan
  sleep : b.backend.current.sleepMillisecs = snapshot.sleepMillisecs

/-- The value 2 has never been written to `run`. -/
def NeverTwo (b : Bench) : Prop := 2 ∉ b.written

theorem neverTwo_handle {op : Op} {b b' : Bench} {r : Except KsmError Unit}
    (hb : NeverTwo b) (h : Bench.handle op b = (r, b')) : NeverTwo b' := by
  cases op with
  | setRun value =>
    by_cases htwo : value = 2
    · -- refused before anything is written
      simp only [Bench.handle, SimulatedBackend.setRun, htwo, if_true] at h
      obtain ⟨rfl, rfl⟩ := Prod.mk.inj h
      exact hb
    · simp only [Bench.handle] at h
      split at h
      · obtain ⟨rfl, rfl⟩ := Prod.mk.inj h
        exact hb
      · obtain ⟨rfl, rfl⟩ := Prod.mk.inj h
        simp only [NeverTwo, List.mem_append, List.mem_singleton, not_or]
        exact ⟨hb, fun heq => htwo heq.symm⟩
  | setScanner pages sleepMs =>
    simp only [Bench.handle] at h
    obtain ⟨rfl, rfl⟩ := Prod.mk.inj h
    exact hb

theorem SimulatedBackend.mutating_ok {b b' : SimulatedBackend} {f : KsmSnapshot → KsmSnapshot}
    {u : Unit} (h : b.mutating f = (.ok u, b')) : b'.current = f b.current := by
  unfold mutating mutate at h
  split_ifs at h
  · cases h
  · obtain ⟨-, rfl⟩ := Prod.mk.inj h
    rfl

theorem current_setRun {b b' : Bench} {value : UInt8} {u : Unit}
    (h : Bench.handle (.setRun value) b = (.ok u, b')) :
    b'.backend.current = { b.backend.current with run := value } := by
  simp only [Bench.handle, SimulatedBackend.setRun] at h
  split at h
  · cases h
  · next v backend hset =>
    obtain ⟨-, rfl⟩ := Prod.mk.inj h
    split_ifs at hset
    · cases hset
    · exact SimulatedBackend.mutating_ok hset

theorem current_setScanner {b b' : Bench} {pages sleepMs : UInt64} {u : Unit}
    (h : Bench.handle (.setScanner pages sleepMs) b = (.ok u, b')) :
    b'.backend.current =
      { b.backend.current with pagesToScan := pages, sleepMillisecs := sleepMs } := by
  simp only [Bench.handle] at h
  obtain ⟨hr, rfl⟩ := Prod.mk.inj h
  exact SimulatedBackend.mutating_ok (Prod.ext hr rfl)

/-- The environment of the simulated backend. -/
abbrev simulated {τ : Type} : Env registers τ Bench := Env.ofHandler Bench.handle

/-- A restore that succeeds has made all three writes. -/
theorem restore_wp {τ : Type} (snapshot : KsmSnapshot) (t : τ) (b : Bench) :
    Act.wp simulated (fun _ _ => True) (restore snapshot)
      (fun r t' b' => t' = t ∧ ∀ u, r = .ok u → Restored snapshot b') t b := by
  simp only [restore, issue, Act.wp_bind, Act.wp_perform, true_and, id]
  intro r₁ b₁ _
  cases r₁ with
  | error e => exact fun _ he => by cases he
  | ok _ =>
    intro r₂ b₂ h₂
    cases r₂ with
    | error e => exact fun _ he => by cases he
    | ok _ =>
      intro r₃ b₃ h₃ u hr
      subst hr
      have hpace := current_setScanner h₂
      have hrun := current_setRun h₃
      rw [hpace] at hrun
      exact ⟨by rw [hrun], by rw [hrun], by rw [hrun]⟩

/-! ## §4 One call -/

/-- The result of a call, the transaction and the bench it leaves. -/
def recover (tx : KsmTransaction) (b : Bench) : (Except KsmError Bool × KsmTransaction) × Bench :=
  (recoverOwned tx).exec Bench.handle b

theorem neverTwo_recover (tx : KsmTransaction) {b : Bench} (h : NeverTwo b) :
    NeverTwo (recover tx b).2 := by
  have hkeeps : Act.Keeps simulated (fun _ => NeverTwo) recoverOwned :=
    Act.keeps_preserved (fun _ _ _ _ _ hb hr => neverTwo_handle hb hr) recoverOwned
  exact Act.wp_exec (hkeeps tx b h)

/-- A call on a marked transaction does nothing. -/
theorem recover_recovered {tx : KsmTransaction} (h : tx.recovered = true) (b : Bench) :
    recover tx b = ((.ok false, tx), b) := by
  have hwp : Act.wp simulated (fun _ _ => True) recoverOwned
      (fun r tx' b' => (r, tx') = (.ok false, tx) ∧ b' = b) tx b := by
    simp [recoverOwned, h]
  obtain ⟨hout, hbench⟩ := Act.wp_exec hwp
  exact Prod.ext hout hbench

/-- A call on an owned transaction that is not marked: an error leaves it unmarked, success
    marks it and leaves the registers at the baseline. -/
theorem recover_owned {tx : KsmTransaction} (howned : tx.owned = true)
    (h : tx.recovered = false) (b : Bench) :
    (∃ e, (recover tx b).1 = (.error e, tx)) ∨
      ((recover tx b).1 = (.ok true, { tx with scannerStarted := false, recovered := true }) ∧
        Restored tx.baseline (recover tx b).2) := by
  have hwp : Act.wp simulated (fun _ _ => True) recoverOwned (fun r tx' b' =>
      (∃ e, (r, tx') = (.error e, tx)) ∨
        ((r, tx') = (.ok true, { tx with scannerStarted := false, recovered := true }) ∧
          Restored tx.baseline b')) tx b := by
    simp only [recoverOwned, Act.wp_bind, Act.wp_current, h, howned, Bool.not_true,
      Bool.false_eq_true, if_false]
    apply Act.wp_mono (restore_wp tx.baseline tx b)
    rintro r tx' b' ⟨rfl, hrestored⟩
    cases r with
    | error e => exact .inl ⟨e, rfl⟩
    | ok u => exact .inr ⟨rfl, hrestored u rfl⟩
  exact Act.wp_exec hwp

/-! ## §5 Any number of calls -/

/-- One call with what it found and what it left. -/
structure Attempt where
  tx : KsmTransaction
  bench : Bench
  result : Except KsmError Bool
  tx' : KsmTransaction
  bench' : Bench
  deriving DecidableEq

/-- Set the failure to inject. -/
def Bench.inject (b : Bench) (failAfter : Option UInt64) : Bench :=
  { b with backend := { b.backend with failAfter := failAfter } }

/-- Calls on one transaction, each with its own injected failure. -/
def attempts : KsmTransaction → Bench → List (Option UInt64) → List Attempt
  | _, _, [] => []
  | tx, b, failAfter :: rest =>
    let b := b.inject failAfter
    let out := recover tx b
    ⟨tx, b, out.1.1, out.1.2, out.2⟩ :: attempts out.1.2 out.2 rest

theorem restored_inject {snapshot : KsmSnapshot} {b : Bench} (failAfter : Option UInt64)
    (h : Restored snapshot b) : Restored snapshot (b.inject failAfter) :=
  ⟨h.run, h.pages, h.sleep⟩

/-- What one call of an owned transaction with the given baseline guarantees. -/
structure Attempt.Sound (baseline : KsmSnapshot) (x : Attempt) : Prop where
  /-- an error leaves the transaction unmarked -/
  failed : ∀ e, x.result = .error e → x.tx'.recovered = false
  /-- success leaves the registers at the baseline -/
  restored : ∀ done, x.result = .ok done → Restored baseline x.bench'
  /-- the forbidden value is never written -/
  neverTwo : NeverTwo x.bench'

/-- A call after a successful one changes nothing. -/
def Idle (pre : List Attempt) (x : Attempt) : Prop :=
  (∃ y ∈ pre, ∃ done, y.result = .ok done) →
    x.result = .ok false ∧ x.tx' = x.tx ∧ x.bench' = x.bench

/-- Calls on a marked transaction whose registers are at the baseline. -/
theorem attempts_recovered {tx : KsmTransaction} (h : tx.recovered = true) (b : Bench)
    (hb : Restored tx.baseline b) (hn : NeverTwo b) (failures : List (Option UInt64)) :
    ∀ x ∈ attempts tx b failures, x.Sound tx.baseline ∧
      x.result = .ok false ∧ x.tx' = x.tx ∧ x.bench' = x.bench := by
  induction failures generalizing b with
  | nil => simp [attempts]
  | cons failAfter rest ih =>
    intro x hx
    simp only [attempts, recover_recovered h, List.mem_cons] at hx
    rcases hx with rfl | hx
    · refine ⟨⟨by simp, ?_, hn⟩, rfl, rfl, rfl⟩
      intro done _
      exact restored_inject failAfter hb
    · exact ih (b.inject failAfter) (restored_inject failAfter hb) hn x hx

/-- The run lemma, from any bench. -/
theorem attempts_sound {tx : KsmTransaction} (howned : tx.owned = true)
    (h : tx.recovered = false) {b : Bench} (hn : NeverTwo b) (failures : List (Option UInt64)) :
    (∀ x ∈ attempts tx b failures, x.Sound tx.baseline) ∧
      AllPrefixed Idle (attempts tx b failures) := by
  induction failures generalizing b with
  | nil => exact ⟨by simp [attempts], AllPrefixed.nil _⟩
  | cons failAfter rest ih =>
    have hn' : NeverTwo (recover tx (b.inject failAfter)).2 := neverTwo_recover tx hn
    have hfirst : Idle [] ⟨tx, b.inject failAfter, (recover tx (b.inject failAfter)).1.1,
        (recover tx (b.inject failAfter)).1.2, (recover tx (b.inject failAfter)).2⟩ := by
      intro hpre
      simp at hpre
    rcases recover_owned howned h (b.inject failAfter) with ⟨e, herror⟩ | ⟨hok, hrestored⟩
    · -- the call failed: the transaction is as before, from a partly restored backend
      obtain ⟨hsound, hidle⟩ := ih hn'
      simp only [attempts, herror] at hfirst ⊢
      constructor
      · intro x hx
        rcases List.mem_cons.1 hx with rfl | hx
        · exact ⟨fun _ _ => h, by simp, hn'⟩
        · exact hsound x hx
      · apply AllPrefixed.cons hfirst
        intro pre y post hlog hpre
        obtain ⟨z, hz, done, hdone⟩ := hpre
        rcases List.mem_cons.1 hz with rfl | hz
        · cases hdone
        · exact hidle pre y post hlog ⟨z, hz, done, hdone⟩
    · -- the call succeeded: the rest finds a marked transaction
      have hrest := @attempts_recovered { tx with scannerStarted := false, recovered := true } rfl
        _ hrestored hn' rest
      simp only [attempts, hok] at hfirst ⊢
      constructor
      · intro x hx
        rcases List.mem_cons.1 hx with rfl | hx
        · exact ⟨by simp, fun _ _ => hrestored, hn'⟩
        · exact (hrest x hx).1
      · apply AllPrefixed.cons hfirst
        intro pre y post hlog _
        exact (hrest y (by simp [hlog])).2

/-- **Recovery under injected failures.** On every owned transaction that is not yet marked, on
    every state of the backend and for every sequence of calls and injected failures, every
    call is sound, and after the first success the calls change nothing. -/
theorem recovery_sound {tx : KsmTransaction} (howned : tx.owned = true)
    (h : tx.recovered = false) (backend : SimulatedBackend) (failures : List (Option UInt64)) :
    (∀ x ∈ attempts tx ⟨backend, []⟩ failures, x.Sound tx.baseline) ∧
      AllPrefixed Idle (attempts tx ⟨backend, []⟩ failures) := by
  have hn : NeverTwo ⟨backend, []⟩ := List.not_mem_nil
  exact attempts_sound howned h hn failures

/-- A validation transaction whose scanner is to be stopped. -/
def sampleTransaction (recovered : Bool) : KsmTransaction where
  transactionId := "nemor-validation-1"
  ownership := .nemorOwnedValidation
  baseline := ⟨0, 100, 20, []⟩
  scannerStarted := true
  recovered := recovered

/-- The scanner is running at another pace. -/
def runningBackend : SimulatedBackend := ⟨⟨1, 200, 50, []⟩, 0, none⟩

/-- The second write fails, then the first, then nothing, and one call more. -/
theorem recovery_sound_sample :
    ((attempts (sampleTransaction false) ⟨runningBackend, []⟩ [some 1, some 1, none, none]).map
        fun x => (x.result.toOption, x.bench'.written)) =
      [(none, [0]), (none, [0]), (some true, [0, 0, 0]), (some false, [0, 0, 0])] ∧
    ∀ x ∈ attempts (sampleTransaction false) ⟨runningBackend, []⟩ [some 1, some 1, none, none],
      x.Sound (sampleTransaction false).baseline :=
  ⟨by decide, (recovery_sound (by decide) rfl _ _).1⟩

/-- A call on a transaction that is marked from the start succeeds without looking at the
    registers. -/
theorem marked_transaction_not_restored :
    (sampleTransaction true).owned = true ∧ (sampleTransaction true).baseline.run = 0 ∧
      ∃ x ∈ attempts (sampleTransaction true) ⟨runningBackend, []⟩ [none],
        x.result = .ok false ∧ ¬ Restored (sampleTransaction true).baseline x.bench' := by
  refine ⟨by decide, rfl, _, List.mem_cons_self .., by decide, ?_⟩
  intro h
  have hrun := h.run
  revert hrun
  decide

end Nemor.Ksm
