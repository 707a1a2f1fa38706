import Mathlib.Tactic.Common

/-!
# Fallible procedures on a state

A procedure changes a state and returns a value or an error; a failed one leaves the state as it
was when the error was raised. How a run is put together from the runs of its parts.
-/

namespace Procedure

variable {ε σ τ α β : Type}

/-! ## §1 Combinators -/

/-- Look at the result of a procedure instead of propagating its error. -/
def attempt (x : EStateM ε σ α) : EStateM ε σ (Except ε α) := fun s =>
  -- the state of a failed run is kept, nothing is rolled back
  match x.run s with
  | .ok a s' => .ok (.ok a) s'
  | .error e s' => .ok (.error e) s'

/-- Run a procedure on a part of the state. -/
def zoom (get : σ → τ) (set : τ → σ → σ) (x : EStateM ε τ α) : EStateM ε σ α := fun s =>
  match x.run (get s) with
  | .ok a t => .ok a (set t s)
  | .error e t => .error e (set t s)

/-- Return a result, or raise its error. -/
def ofResult : Except ε α → EStateM ε σ α
  | .ok a => fun s => .ok a s
  | .error e => fun s => .error e s

/-- Fail with an error, if there is one. -/
def failWith : Option ε → EStateM ε σ Unit
  | none => fun s => .ok () s
  | some e => fun s => .error e s

/-- Fail on a condition. -/
def refuse (c : Prop) [Decidable c] (e : ε) : EStateM ε σ Unit := fun s =>
  if c then .error e s else .ok () s

/-- The state in which a run has ended. -/
def final : EStateM.Result ε σ α → σ
  | .ok _ s => s
  | .error _ s => s

/-- What a run has returned. -/
def result : EStateM.Result ε σ α → Except ε α
  | .ok a _ => .ok a
  | .error e _ => .error e

@[simp] theorem final_ok {a : α} {s : σ} : final (.ok a s : EStateM.Result ε σ α) = s := rfl

@[simp] theorem final_error {e : ε} {s : σ} : final (.error e s : EStateM.Result ε σ α) = s := rfl

/-! ## §2 Runs of a sequence -/

section Sequence

variable {x : EStateM ε σ α} {f : α → EStateM ε σ β} {s s' : σ} {a : α} {e : ε}

/-- A step that succeeds hands its value and its state on. -/
theorem bind_ok (h : x.run s = .ok a s') : (x >>= f).run s = (f a).run s' := by
  show EStateM.bind x f s = (f a).run s'
  unfold EStateM.bind
  rw [show x s = .ok a s' from h]
  rfl

/-- A step that fails ends the sequence. -/
theorem bind_error (h : x.run s = .error e s') : (x >>= f).run s = .error e s' := by
  show EStateM.bind x f s = .error e s'
  unfold EStateM.bind
  rw [show x s = .error e s' from h]

/-- An attempt always hands on. -/
theorem attempt_bind {g : Except ε α → EStateM ε σ β} :
    (attempt x >>= g).run s = (g (result (x.run s))).run (final (x.run s)) := by
  cases h : x.run s with
  | ok a s' =>
    apply bind_ok
    show attempt x s = .ok (.ok a) s'
    unfold attempt
    rw [h]
  | error e s' =>
    apply bind_ok
    show attempt x s = .ok (.error e) s'
    unfold attempt
    rw [h]

@[simp] theorem run_failWith_none : (failWith (.none : Option ε) : EStateM ε σ Unit).run s =
    .ok () s := rfl

@[simp] theorem run_failWith_some : (failWith (some e) : EStateM ε σ Unit).run s = .error e s := rfl

@[simp] theorem run_ofResult_ok : (ofResult (.ok a) : EStateM ε σ α).run s = .ok a s := rfl

theorem run_mapError_ok {g : ε → ε} :
    (ofResult (Except.mapError g (.ok a)) : EStateM ε σ α).run s = .ok a s := rfl

theorem run_mapError_error {g : ε → ε} :
    (ofResult (Except.mapError g (.error e)) : EStateM ε σ α).run s = .error (g e) s := rfl

theorem run_refuse {c : Prop} [Decidable c] (h : c) :
    (refuse c e : EStateM ε σ Unit).run s = .error e s := if_pos h

theorem run_refuse_not {c : Prop} [Decidable c] (h : ¬ c) :
    (refuse c e : EStateM ε σ Unit).run s = .ok () s := if_neg h

end Sequence

/-! ## §3 Procedures that leave the state alone -/

/-- Whatever a procedure returns, the state is as before. -/
def Reads (x : EStateM ε σ α) : Prop := ∀ s, final (x.run s) = s

section ReadsRules

variable {x : EStateM ε σ α} {f : α → EStateM ε σ β}

theorem reads_pure (a : α) : Reads (pure a : EStateM ε σ α) := fun _ => rfl

theorem reads_failWith (e : Option ε) : Reads (failWith e : EStateM ε σ Unit) := by
  intro s
  cases e with
  | none => rfl
  | some e => rfl

theorem reads_ofResult (r : Except ε α) : Reads (ofResult r : EStateM ε σ α) := by
  intro s
  cases r with
  | error e => rfl
  | ok a => rfl

theorem reads_refuse {c : Prop} [Decidable c] (e : ε) : Reads (refuse c e : EStateM ε σ Unit) := by
  intro s
  by_cases hc : c
  · rw [run_refuse hc]
    rfl
  · rw [run_refuse_not hc]
    rfl

theorem reads_bind (hx : Reads x) (hf : ∀ a, Reads (f a)) : Reads (x >>= f) := by
  intro s
  have hs := hx s
  cases h : x.run s with
  | ok a s' =>
    rw [h] at hs
    rw [bind_ok h]
    exact (hf a s').trans hs
  | error e s' =>
    rw [h] at hs
    rw [bind_error h]
    exact hs

end ReadsRules

/-! ## §4 Failing runs -/

/-- The run from a state fails, in a state of `P`. -/
def Fails (P : σ → Prop) (x : EStateM ε σ α) (s : σ) : Prop :=
  ∃ e s', x.run s = .error e s' ∧ P s'

section FailsRules

variable {P : σ → Prop} {x : EStateM ε σ α} {f : α → EStateM ε σ β} {s s' : σ} {a : α}

theorem fails_bind (h : Fails P x s) : Fails P (x >>= f) s := by
  obtain ⟨e, s', hx, hs'⟩ := h
  exact ⟨e, s', bind_error hx, hs'⟩

theorem fails_after (hx : x.run s = .ok a s') (h : Fails P (f a) s') : Fails P (x >>= f) s := by
  obtain ⟨e, s'', hf, hs''⟩ := h
  exact ⟨e, s'', (bind_ok hx).trans hf, hs''⟩

/-- Each step that can fail in the state at hand either does, or hands on to the rest. -/
theorem fails_failWith {o : Option ε} {g : Unit → EStateM ε σ β} (hs : P s)
    (h : o = none → Fails P (g ()) s) : Fails P (failWith o >>= g) s := by
  cases ho : o with
  | some e => exact fails_bind ⟨e, s, rfl, hs⟩
  | none => exact fails_after run_failWith_none (h ho)

theorem fails_ofResult {r : Except ε α} (hs : P s) (h : ∀ a, r = .ok a → Fails P (f a) s) :
    Fails P (ofResult r >>= f) s := by
  cases hr : r with
  | error e => exact fails_bind ⟨e, s, rfl, hs⟩
  | ok a => exact fails_after run_ofResult_ok (h a hr)

theorem fails_refuse {c : Prop} [Decidable c] {e : ε} {g : Unit → EStateM ε σ β} (hs : P s)
    (h : ¬ c → Fails P (g ()) s) : Fails P (refuse c e >>= g) s := by
  by_cases hc : c
  · exact fails_bind ⟨e, s, run_refuse hc, hs⟩
  · exact fails_after (run_refuse_not hc) (h hc)

end FailsRules

/-! ## §5 A part of the state -/

section Part

variable {get : σ → τ} {set : τ → σ → σ} {x : EStateM ε τ α} {s : σ}

@[simp] theorem result_zoom : result ((zoom get set x).run s) = result (x.run (get s)) := by
  show result (zoom get set x s) = _
  unfold zoom
  cases x.run (get s) with
  | ok a t => rfl
  | error e t => rfl

@[simp] theorem final_zoom :
    final ((zoom get set x).run s) = set (final (x.run (get s))) s := by
  show final (zoom get set x s) = _
  unfold zoom
  cases x.run (get s) with
  | ok a t => rfl
  | error e t => rfl

end Part

end Procedure
