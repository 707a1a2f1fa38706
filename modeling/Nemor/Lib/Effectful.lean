import Mathlib.Logic.Basic
import Mathlib.Tactic.Common

/-!
# Effectful programs, their crash points and a crash-aware weakest precondition

A component that talks to the outside only through a fixed set of calls is a
*program over an interface*: a tree whose inner nodes are calls and whose leaves
are results. Three things are fixed by the tree alone, whatever answers the calls:

- a **run** is a path from the root, one environment step for each call;
- a **crash point** is any node of a path: the calls above it were answered, the
  call at it was not issued;
- a **trace** is the list of calls and replies along a path.

Each call node also carries the caller's own mutable memory at the moment the call
is issued, so a crash point says both what the outside holds and what the caller
had in hand.

`Prog.wp R J Q` is the weakest precondition from which every run in the environment
`R` satisfies `J` at every crash point and `Q` at its end. `Act` is the shape of a
fallible procedure with one mutable argument, and `Act.wp` its logic.
-/

namespace Effectful

/-! ## §1 Interfaces and programs -/

/-- A set of calls, each with the type of its reply. -/
structure Iface where
  Op : Type
  Reply : Op → Type

/-- A program over `I`. A node `call mem op k` issues `op` with the caller's memory at
    `mem` and goes on with `k`. -/
inductive Prog (I : Iface) (μ α : Type) where
  | pure (a : α)
  | call (mem : μ) (op : I.Op) (k : I.Reply op → Prog I μ α)

variable {I : Iface} {μ μ' σ τ ε α β : Type}

namespace Prog

/-- Run a program, and then the one that its value selects. -/
def bind : Prog I μ α → (α → Prog I μ β) → Prog I μ β
  | .pure a, f => f a
  | .call m op k, f => .call m op fun r => (k r).bind f

/-- Rename the memory carried by the call nodes. -/
def relabel (f : μ → μ') : Prog I μ α → Prog I μ' α
  | .pure a => .pure a
  | .call m op k => .call (f m) op fun r => (k r).relabel f

end Prog

/-! ## §2 Environments, runs and crash points -/

/-- How the outside can answer: `R m s op r s'` says that in state `s` the call `op`,
    issued with memory `m`, may reply `r` and leave `s'`. -/
abbrev Env (I : Iface) (μ σ : Type) :=
  μ → σ → (op : I.Op) → I.Reply op → σ → Prop

/-- The environment of a deterministic handler. -/
def Env.ofHandler (h : (op : I.Op) → σ → I.Reply op × σ) : Env I μ σ :=
  fun _ s op r s' => h op s = (r, s')

/-- `Reaches R p s q t`: some number of answered calls lead from `p` in `s` to the
    remaining program `q` in `t`. Every such `(q, t)` is a crash point of the run. -/
inductive Reaches (R : Env I μ σ) : Prog I μ α → σ → Prog I μ α → σ → Prop
  | refl (p : Prog I μ α) (s : σ) : Reaches R p s p s
  | step {m : μ} {op : I.Op} {k : I.Reply op → Prog I μ α} {s s' t : σ}
      {r : I.Reply op} {q : Prog I μ α} :
      R m s op r s' → Reaches R (k r) s' q t → Reaches R (.call m op k) s q t

namespace Prog

/-- Run a program to its end against a handler. -/
def exec (h : (op : I.Op) → σ → I.Reply op × σ) : Prog I μ α → σ → α × σ
  | .pure a, s => (a, s)
  | .call _ op k, s => (k (h op s).1).exec h (h op s).2

/-- Answer at most `n` calls, and give the rest of the program with the state reached. -/
def after (h : (op : I.Op) → σ → I.Reply op × σ) : ℕ → Prog I μ α → σ → Prog I μ α × σ
  | 0, p, s => (p, s)
  | _ + 1, .pure a, s => (.pure a, s)
  | n + 1, .call _ op k, s => (k (h op s).1).after h n (h op s).2

/-- The memory at the next call, if the program is not finished. -/
def memory? : Prog I μ α → Option μ
  | .pure _ => none
  | .call m _ _ => some m

theorem exec_reaches (h : (op : I.Op) → σ → I.Reply op × σ) (p : Prog I μ α) (s : σ) :
    Reaches (Env.ofHandler h) p s (.pure (p.exec h s).1) (p.exec h s).2 := by
  induction p generalizing s with
  | pure a => exact .refl _ _
  | call m op k ih => exact .step (r := (h op s).1) rfl (ih _ _)

theorem after_reaches (h : (op : I.Op) → σ → I.Reply op × σ) (n : ℕ) (p : Prog I μ α) (s : σ) :
    Reaches (Env.ofHandler h) p s (p.after h n s).1 (p.after h n s).2 := by
  induction n generalizing p s with
  | zero => exact .refl _ _
  | succ n ih =>
    cases p with
    | pure a => exact .refl _ _
    | call m op k => exact .step (r := (h op s).1) rfl (ih _ _)

end Prog

/-- Runs of a smaller environment are runs of a larger one. -/
theorem Reaches.mono {R R' : Env I μ σ} {p q : Prog I μ α} {s t : σ}
    (hsub : ∀ m s op r s', R m s op r s' → R' m s op r s')
    (h : Reaches R p s q t) : Reaches R' p s q t := by
  induction h with
  | refl => exact .refl _ _
  | step hR _ ih => exact .step (hsub _ _ _ _ _ hR) ih

/-! ## §3 Weakest preconditions with a crash condition -/

namespace Prog

/-- From `s`, every run of the program in `R` meets `J` whenever a call is about to be
    issued, and `Q` when it ends. -/
def wp (R : Env I μ σ) (J : μ → σ → Prop) : Prog I μ α → (α → σ → Prop) → σ → Prop
  | .pure a, Q, s => Q a s
  | .call m op k, Q, s => J m s ∧ ∀ r s', R m s op r s' → (k r).wp R J Q s'

theorem wp_mono {R : Env I μ σ} {J : μ → σ → Prop} {p : Prog I μ α} {Q Q' : α → σ → Prop} {s : σ}
    (h : p.wp R J Q s) (hQ : ∀ a s, Q a s → Q' a s) : p.wp R J Q' s := by
  induction p generalizing s with
  | pure a => exact hQ _ _ h
  | call m op k ih => exact ⟨h.1, fun r s' hR => ih r (h.2 r s' hR)⟩

theorem wp_bind {R : Env I μ σ} {J : μ → σ → Prop} {p : Prog I μ α} {f : α → Prog I μ β}
    {Q : β → σ → Prop} {s : σ} :
    (p.bind f).wp R J Q s ↔ p.wp R J (fun a s => (f a).wp R J Q s) s := by
  induction p generalizing s with
  | pure a => rfl
  | call m op k ih => simp only [bind, wp, ih]

theorem wp_and {R : Env I μ σ} {J J' : μ → σ → Prop} {p : Prog I μ α} {Q Q' : α → σ → Prop} {s : σ}
    (h : p.wp R J Q s) (h' : p.wp R J' Q' s) :
    p.wp R (fun m s => J m s ∧ J' m s) (fun a s => Q a s ∧ Q' a s) s := by
  induction p generalizing s with
  | pure a => exact ⟨h, h'⟩
  | call m op k ih =>
    exact ⟨⟨h.1, h'.1⟩, fun r s' hR => ih r (h.2 r s' hR) (h'.2 r s' hR)⟩

theorem wp_weaken {R : Env I μ σ} {J J' : μ → σ → Prop} {p : Prog I μ α} {Q : α → σ → Prop} {s : σ}
    (h : p.wp R J Q s) (hJ : ∀ m s, J m s → J' m s) : p.wp R J' Q s := by
  induction p generalizing s with
  | pure a => exact h
  | call m op k ih => exact ⟨hJ _ _ h.1, fun r s' hR => ih r (h.2 r s' hR)⟩

/-- Fewer answers, fewer runs. -/
theorem wp_env {R R' : Env I μ σ} {J : μ → σ → Prop} {p : Prog I μ α} {Q : α → σ → Prop} {s : σ}
    (h : p.wp R' J Q s) (hsub : ∀ m s op r s', R m s op r s' → R' m s op r s') : p.wp R J Q s := by
  induction p generalizing s with
  | pure a => exact h
  | call m op k ih => exact ⟨h.1, fun r s' hR => ih r (h.2 r s' (hsub _ _ _ _ _ hR))⟩

theorem wp_trivial {R : Env I μ σ} {p : Prog I μ α} {s : σ} :
    p.wp R (fun _ _ => True) (fun _ _ => True) s := by
  induction p generalizing s with
  | pure a => trivial
  | call m op k ih => exact ⟨trivial, fun r s' _ => ih r⟩

/-- What every call preserves holds at every crash point and at the end. -/
theorem wp_preserved {R : Env I μ σ} {K : σ → Prop} (hR : ∀ m s op r s', K s → R m s op r s' → K s')
    {p : Prog I μ α} {s : σ} (h : K s) : p.wp R (fun _ => K) (fun _ => K) s := by
  induction p generalizing s with
  | pure a => exact h
  | call m op k ih => exact ⟨h, fun r s' hr => ih r (hR m s op r s' h hr)⟩

/-- A weakest precondition travels along every run. -/
theorem wp_reaches {R : Env I μ σ} {J : μ → σ → Prop} {Q : α → σ → Prop}
    {p q : Prog I μ α} {s t : σ} (h : p.wp R J Q s) (hr : Reaches R p s q t) : q.wp R J Q t := by
  induction hr with
  | refl => exact h
  | step hR _ ih => exact ih (h.2 _ _ hR)

/-- What holds at every call and at the end holds at every crash point. -/
theorem wp_always {R : Env I μ σ} {K : σ → Prop} {p q : Prog I μ α} {s t : σ}
    (h : p.wp R (fun _ => K) (fun _ => K) s) (hr : Reaches R p s q t) : K t := by
  have hq := wp_reaches h hr
  cases q with
  | pure a => exact hq
  | call m op k => exact hq.1

/-- What holds along every run is a weakest precondition. -/
theorem wp_of_reaches {R : Env I μ σ} {J : μ → σ → Prop} {Q : α → σ → Prop} {p : Prog I μ α} {s : σ}
    (hJ : ∀ m op k t, Reaches R p s (.call m op k) t → J m t)
    (hQ : ∀ a t, Reaches R p s (.pure a) t → Q a t) : p.wp R J Q s := by
  induction p generalizing s with
  | pure a => exact hQ a s (.refl _ _)
  | call m op k ih =>
    refine ⟨hJ m op k s (.refl _ _), fun r s' hR => ?_⟩
    apply ih r
    · intro m' op' k' t hr
      exact hJ m' op' k' t (.step hR hr)
    · intro a t hr
      exact hQ a t (.step hR hr)

theorem wp_crash {R : Env I μ σ} {J : μ → σ → Prop} {Q : α → σ → Prop} {p q : Prog I μ α}
    {s t : σ} {m : μ} (h : p.wp R J Q s) (hr : Reaches R p s q t) (hm : q.memory? = some m) :
    J m t := by
  have hq := wp_reaches h hr
  cases q with
  | pure a => cases hm
  | call m' op k => cases hm; exact hq.1

theorem wp_exec {h : (op : I.Op) → σ → I.Reply op × σ} {J : μ → σ → Prop} {Q : α → σ → Prop}
    {p : Prog I μ α} {s : σ} (hp : p.wp (Env.ofHandler h) J Q s) :
    Q (p.exec h s).1 (p.exec h s).2 :=
  wp_reaches hp (exec_reaches h p s)

theorem wp_relabel {R : Env I μ' σ} {J : μ' → σ → Prop} {f : μ → μ'} {p : Prog I μ α}
    {Q : α → σ → Prop} {s : σ} :
    (p.relabel f).wp R J Q s ↔
      p.wp (fun m s op r s' => R (f m) s op r s') (fun m => J (f m)) Q s := by
  induction p generalizing s with
  | pure a => rfl
  | call m op k ih => simp only [relabel, wp, ih]

end Prog

/-- Every call that the program can issue, whatever is answered, is one of `P`. -/
def Prog.Only (P : I.Op → Prop) : Prog I μ α → Prop
  | .pure _ => True
  | .call _ op k => P op ∧ ∀ r, (k r).Only P

namespace Prog

theorem Only.bind {P : I.Op → Prop} {p : Prog I μ α} {f : α → Prog I μ β} (hp : p.Only P)
    (hf : ∀ a, (f a).Only P) : (p.bind f).Only P := by
  induction p with
  | pure a => exact hf a
  | call m op k ih => exact ⟨hp.1, fun r => ih r (hp.2 r)⟩

/-- What the calls of a program preserve holds at every crash point and at the end. -/
theorem Only.wp {R : Env I μ σ} {P : I.Op → Prop} {K : σ → Prop}
    (hR : ∀ m s op r s', P op → K s → R m s op r s' → K s') {p : Prog I μ α} {s : σ}
    (hp : p.Only P) (h : K s) : p.wp R (fun _ => K) (fun _ => K) s := by
  induction p generalizing s with
  | pure a => exact h
  | call m op k ih => exact ⟨h, fun r s' hr => ih r (hp.2 r) (hR m s op r s' hp.1 h hr)⟩

end Prog

/-! ## §4 Possible runs -/

namespace Prog

/-- From `s`, some run of the program in `R` ends with `Q`. -/
def may (R : Env I μ σ) : Prog I μ α → (α → σ → Prop) → σ → Prop
  | .pure a, Q, s => Q a s
  | .call m op k, Q, s => ∃ r s', R m s op r s' ∧ (k r).may R Q s'

theorem may_bind {R : Env I μ σ} {p : Prog I μ α} {f : α → Prog I μ β} {Q : β → σ → Prop} {s : σ} :
    (p.bind f).may R Q s ↔ p.may R (fun a s => (f a).may R Q s) s := by
  induction p generalizing s with
  | pure a => rfl
  | call m op k ih => simp only [bind, may, ih]

theorem may_mono {R : Env I μ σ} {p : Prog I μ α} {Q Q' : α → σ → Prop} {s : σ}
    (h : p.may R Q s) (hQ : ∀ a s, Q a s → Q' a s) : p.may R Q' s := by
  induction p generalizing s with
  | pure a => exact hQ _ _ h
  | call m op k ih =>
    obtain ⟨r, s', hR, h⟩ := h
    exact ⟨r, s', hR, ih r h⟩

theorem may_relabel {R : Env I μ' σ} {f : μ → μ'} {p : Prog I μ α} {Q : α → σ → Prop} {s : σ} :
    (p.relabel f).may R Q s ↔ p.may (fun m s op r s' => R (f m) s op r s') Q s := by
  induction p generalizing s with
  | pure a => rfl
  | call m op k ih => simp only [relabel, may, ih]

/-- A possible end is reached by a run. -/
theorem may_reaches {R : Env I μ σ} {p : Prog I μ α} {Q : α → σ → Prop} {s : σ}
    (h : p.may R Q s) : ∃ a t, Reaches R p s (.pure a) t ∧ Q a t := by
  induction p generalizing s with
  | pure a => exact ⟨a, s, .refl _ _, h⟩
  | call m op k ih =>
    obtain ⟨r, s', hR, h⟩ := h
    obtain ⟨a, t, hr, hQ⟩ := ih r h
    exact ⟨a, t, .step hR hr, hQ⟩

end Prog

/-! ## §5 Fallible procedures with one mutable argument -/

/-- A procedure that mutates an argument of type `τ` and returns a value or an error.
    The argument keeps what was assigned to it also when the procedure fails. -/
def Act (I : Iface) (τ ε α : Type) := τ → Prog I τ (Except ε α × τ)

namespace Act

/-- Return a value. -/
def ret (a : α) : Act I τ ε α := fun t => .pure (.ok a, t)

/-- Raise an error. -/
def fail (e : ε) : Act I τ ε α := fun t => .pure (.error e, t)

/-- Go on with the value, or stop with the error and the argument as it was left. -/
def andThen (m : Act I τ ε α) (f : α → Act I τ ε β) : Act I τ ε β := fun t =>
  (m t).bind fun out =>
    match out with
    | (.ok a, t') => f a t'
    | (.error e, t') => .pure (.error e, t')

instance : Monad (Act I τ ε) where
  pure := ret
  bind := andThen

/-- Issue a call and hand its reply back as a value. -/
def request (op : I.Op) : Act I τ ε (I.Reply op) := fun t =>
  .call t op fun r => .pure (.ok r, t)

/-- Issue a call that may fail and go on with its value. -/
def perform (op : I.Op) (read : I.Reply op → Except ε α) : Act I τ ε α := fun t =>
  .call t op fun r => .pure (read r, t)

/-- The mutable argument. -/
def current : Act I τ ε τ := fun t => .pure (.ok t, t)

/-- Assign to the mutable argument. -/
def assign (f : τ → τ) : Act I τ ε Unit := fun t => .pure (.ok (), f t)

/-- Return or raise what was computed. -/
def ofExcept : Except ε α → Act I τ ε α
  | .ok a => ret a
  | .error e => fail e

/-- Run a procedure and look at its result instead of propagating the error. -/
def attempt (m : Act I τ ε α) : Act I τ ε (Except ε α) := fun t =>
  (m t).bind fun out => .pure (.ok out.1, out.2)

/-- Run a procedure on a local variable of the caller; the variable's final value is
    dropped with it. -/
def locally {τ' : Type} (x : τ') (m : Act I τ' ε α) : Act I τ ε α := fun t =>
  ((m x).relabel fun _ => t).bind fun out => .pure (out.1, t)

/-- Run a procedure on a part of the mutable argument. -/
def focus {τ' : Type} (get : τ → τ') (set : τ' → τ → τ) (m : Act I τ' ε α) : Act I τ ε α := fun t =>
  ((m (get t)).relabel fun x => set x t).bind fun out => .pure (out.1, set out.2 t)

/-- Every run from `t`, `s` meets `J` at each call and `Q` at its end. -/
def wp (R : Env I τ σ) (J : τ → σ → Prop) (m : Act I τ ε α)
    (Q : Except ε α → τ → σ → Prop) (t : τ) (s : σ) : Prop :=
  (m t).wp R J (fun out s => Q out.1 out.2 s) s

theorem wp_always {R : Env I τ σ} {K : σ → Prop} {m : Act I τ ε α} {t : τ} {s s' : σ}
    {q : Prog I τ (Except ε α × τ)} (h : wp R (fun _ => K) m (fun _ _ => K) t s)
    (hr : Reaches R (m t) s q s') : K s' :=
  Prog.wp_always h hr

/-- A run against a handler ends as the weakest precondition says. -/
theorem wp_exec {h : (op : I.Op) → σ → I.Reply op × σ} {J : τ → σ → Prop} {m : Act I τ ε α}
    {Q : Except ε α → τ → σ → Prop} {t : τ} {s : σ} (hm : wp (Env.ofHandler h) J m Q t s) :
    Q ((m t).exec h s).1.1 ((m t).exec h s).1.2 ((m t).exec h s).2 :=
  Prog.wp_exec hm

section Rules

variable {R : Env I τ σ} {J : τ → σ → Prop} {t : τ} {s : σ}

@[simp] theorem wp_pure {a : α} {Q : Except ε α → τ → σ → Prop} :
    wp R J (pure a : Act I τ ε α) Q t s ↔ Q (.ok a) t s := Iff.rfl

@[simp] theorem wp_fail {e : ε} {Q : Except ε α → τ → σ → Prop} :
    wp R J (fail e : Act I τ ε α) Q t s ↔ Q (.error e) t s := Iff.rfl

@[simp] theorem wp_current {Q : Except ε τ → τ → σ → Prop} :
    wp R J (current : Act I τ ε τ) Q t s ↔ Q (.ok t) t s := Iff.rfl

@[simp] theorem wp_assign {f : τ → τ} {Q : Except ε Unit → τ → σ → Prop} :
    wp R J (assign f : Act I τ ε Unit) Q t s ↔ Q (.ok ()) (f t) s := Iff.rfl

@[simp] theorem wp_request {op : I.Op} {Q : Except ε (I.Reply op) → τ → σ → Prop} :
    wp R J (request op : Act I τ ε _) Q t s ↔
      J t s ∧ ∀ r s', R t s op r s' → Q (.ok r) t s' := Iff.rfl

@[simp] theorem wp_perform {op : I.Op} {read : I.Reply op → Except ε α}
    {Q : Except ε α → τ → σ → Prop} :
    wp R J (perform op read : Act I τ ε α) Q t s ↔
      J t s ∧ ∀ r s', R t s op r s' → Q (read r) t s' := Iff.rfl

@[simp] theorem wp_ofExcept {x : Except ε α} {Q : Except ε α → τ → σ → Prop} :
    wp R J (ofExcept x : Act I τ ε α) Q t s ↔ Q x t s := by
  cases x <;> rfl

@[simp] theorem wp_bind {m : Act I τ ε α} {f : α → Act I τ ε β} {Q : Except ε β → τ → σ → Prop} :
    wp R J (m >>= f) Q t s ↔
      wp R J m (fun r t s =>
        match r with
        | .ok a => wp R J (f a) Q t s
        | .error e => Q (.error e) t s) t s := by
  show ((m t).bind _).wp R J _ s ↔ _
  rw [Prog.wp_bind]
  constructor <;> intro h <;> refine Prog.wp_mono h ?_
  · rintro ⟨_ | _, _⟩ _ hQ <;> exact hQ
  · rintro ⟨_ | _, _⟩ _ hQ <;> exact hQ

@[simp] theorem wp_attempt {m : Act I τ ε α} {Q : Except ε (Except ε α) → τ → σ → Prop} :
    wp R J (attempt m) Q t s ↔ wp R J m (fun r t s => Q (.ok r) t s) t s := by
  show ((m t).bind _).wp R J _ s ↔ _
  rw [Prog.wp_bind]
  rfl

theorem wp_locally {τ' : Type} {x : τ'} {m : Act I τ' ε α} {Q : Except ε α → τ → σ → Prop} :
    wp R J (locally x m) Q t s ↔
      wp (fun _ => R t) (fun _ => J t) m (fun r _ s => Q r t s) x s := by
  show (((m x).relabel _).bind _).wp R J _ s ↔ _
  rw [Prog.wp_bind, Prog.wp_relabel]
  rfl

theorem wp_focus {τ' : Type} {get : τ → τ'} {set : τ' → τ → τ} {m : Act I τ' ε α}
    {Q : Except ε α → τ → σ → Prop} :
    wp R J (focus get set m) Q t s ↔
      wp (fun x => R (set x t)) (fun x => J (set x t)) m (fun r x s => Q r (set x t) s) (get t) s := by
  show (((m (get t)).relabel _).bind _).wp R J _ s ↔ _
  rw [Prog.wp_bind, Prog.wp_relabel]
  rfl

/-- On one argument only the program counts. -/
theorem wp_of_eq {m m' : Act I τ ε α} {Q : Except ε α → τ → σ → Prop} (h : m t = m' t)
    (hwp : wp R J m' Q t s) : wp R J m Q t s := by
  unfold wp at hwp ⊢
  rw [h]
  exact hwp

theorem wp_mono {m : Act I τ ε α} {Q Q' : Except ε α → τ → σ → Prop}
    (h : wp R J m Q t s) (hQ : ∀ r t s, Q r t s → Q' r t s) : wp R J m Q' t s :=
  Prog.wp_mono h fun _ _ hq => hQ _ _ _ hq

theorem wp_and {J' : τ → σ → Prop} {m : Act I τ ε α} {Q Q' : Except ε α → τ → σ → Prop}
    (h : wp R J m Q t s) (h' : wp R J' m Q' t s) :
    wp R (fun t s => J t s ∧ J' t s) m (fun r t s => Q r t s ∧ Q' r t s) t s :=
  Prog.wp_and h h'

theorem wp_weaken {J' : τ → σ → Prop} {m : Act I τ ε α} {Q : Except ε α → τ → σ → Prop}
    (h : wp R J m Q t s) (hJ : ∀ t s, J t s → J' t s) : wp R J' m Q t s :=
  Prog.wp_weaken h hJ

theorem wp_env {R' : Env I τ σ} {m : Act I τ ε α} {Q : Except ε α → τ → σ → Prop}
    (h : wp R' J m Q t s) (hsub : ∀ m s op r s', R m s op r s' → R' m s op r s') : wp R J m Q t s :=
  Prog.wp_env h hsub

theorem wp_trivial {m : Act I τ ε α} : wp R (fun _ _ => True) m (fun _ _ _ => True) t s :=
  Prog.wp_trivial

theorem wp_ite {c : Prop} [Decidable c] {m m' : Act I τ ε α} {Q : Except ε α → τ → σ → Prop} :
    wp R J (if c then m else m') Q t s ↔
      (c → wp R J m Q t s) ∧ (¬ c → wp R J m' Q t s) := by
  by_cases hc : c <;> simp [hc]

end Rules

/-- `K` survives every run of `m`, at each call and at the end. -/
def Keeps (R : Env I τ σ) (K : τ → σ → Prop) (m : Act I τ ε α) : Prop :=
  ∀ t s, K t s → wp R K m (fun _ => K) t s

section KeepsRules

variable {R : Env I τ σ} {K : τ → σ → Prop}

theorem keeps_pure (a : α) : Keeps R K (pure a : Act I τ ε α) := fun _ _ h => h

theorem keeps_fail (e : ε) : Keeps R K (fail e : Act I τ ε α) := fun _ _ h => h

theorem keeps_current : Keeps R K (current : Act I τ ε τ) := fun _ _ h => h

theorem keeps_ofExcept (x : Except ε α) : Keeps R K (ofExcept x : Act I τ ε α) :=
  fun _ _ h => wp_ofExcept.2 h

/-- The value that is gone on with is the one computed. -/
theorem keeps_ofExcept_bind {x : Except ε α} {f : α → Act I τ ε β}
    (hf : ∀ a, x = .ok a → Keeps R K (f a)) : Keeps R K (ofExcept x >>= f) := by
  cases x with
  | ok a => exact hf a rfl
  | error e => exact fun _ _ h => h

theorem keeps_assign {f : τ → τ} (h : ∀ t s, K t s → K (f t) s) :
    Keeps R K (assign f : Act I τ ε Unit) := h

/-- What every call preserves is kept by every procedure. -/
theorem keeps_preserved {L : σ → Prop} (hR : ∀ t s op r s', L s → R t s op r s' → L s')
    (m : Act I τ ε α) : Keeps R (fun _ => L) m := fun _ _ h =>
  Prog.wp_preserved hR h

theorem keeps_ite {c : Prop} [Decidable c] {m m' : Act I τ ε α} (hm : c → Keeps R K m)
    (hm' : ¬ c → Keeps R K m') : Keeps R K (if c then m else m') := fun t s h =>
  wp_ite.2 ⟨fun hc => hm hc t s h, fun hc => hm' hc t s h⟩

theorem keeps_request {op : I.Op} (h : ∀ t s r s', K t s → R t s op r s' → K t s') :
    Keeps R K (request op : Act I τ ε _) := fun t s hK =>
  ⟨hK, fun r s' hR => h t s r s' hK hR⟩

theorem keeps_perform {op : I.Op} {read : I.Reply op → Except ε α}
    (h : ∀ t s r s', K t s → R t s op r s' → K t s') :
    Keeps R K (perform op read : Act I τ ε α) := fun t s hK =>
  ⟨hK, fun r s' hR => h t s r s' hK hR⟩

theorem keeps_attempt {m : Act I τ ε α} (h : Keeps R K m) : Keeps R K (attempt m) := fun t s hK =>
  wp_attempt.2 (h t s hK)

/-- What the invariant says of the mutable argument may be used with its value. -/
theorem keeps_current_bind {f : τ → Act I τ ε β} (hf : ∀ t, (∃ s, K t s) → Keeps R K (f t)) :
    Keeps R K (current >>= f) := fun t s hK =>
  wp_bind.2 (hf t ⟨s, hK⟩ t s hK)

theorem keeps_focus {τ' : Type} {get : τ → τ'} {set : τ' → τ → τ} {m : Act I τ' ε α}
    (h : ∀ t s, K t s →
      wp (fun x => R (set x t)) (fun x => K (set x t)) m (fun _ x s => K (set x t) s) (get t) s) :
    Keeps R K (focus get set m) := fun t s hK =>
  wp_focus.2 (h t s hK)

theorem keeps_locally {τ' : Type} {x : τ'} {m : Act I τ' ε α}
    (h : ∀ t s, K t s → wp (fun _ => R t) (fun _ => K t) m (fun _ _ => K t) x s) :
    Keeps R K (locally x m) := fun t s hK =>
  wp_locally.2 (h t s hK)

/-- From `K`, every run of `m` keeps `K`, and ends with `K'` if it ends with a value. -/
def Leads (R : Env I τ σ) (K : τ → σ → Prop) (K' : α → τ → σ → Prop) (m : Act I τ ε α) : Prop :=
  ∀ t s, K t s → wp R K m (fun r t s => K t s ∧ ∀ a, r = .ok a → K' a t s) t s

theorem Leads.keeps {K' : α → τ → σ → Prop} {m : Act I τ ε α} (h : Leads R K K' m) :
    Keeps R K m := fun t s hK =>
  wp_mono (h t s hK) fun _ _ _ hK' => hK'.1

/-- What a value is known to satisfy when it comes first, the rest may use. -/
theorem leads_bind {K₁ : α → τ → σ → Prop} {K₂ : β → τ → σ → Prop} {m : Act I τ ε α}
    {f : α → Act I τ ε β} (hm : Leads R K K₁ m)
    (hf : ∀ a, Leads R (fun t s => K t s ∧ K₁ a t s) K₂ (f a)) : Leads R K K₂ (m >>= f) := by
  intro t s h
  apply wp_bind.2
  apply wp_mono (hm t s h)
  intro r t' s' h'
  cases r with
  | ok a =>
    apply wp_mono (wp_weaken (hf a t' s' ⟨h'.1, h'.2 a rfl⟩) fun _ _ hK => hK.1)
    intro r t'' s'' h''
    exact ⟨h''.1.1, h''.2⟩
  | error e => exact ⟨h'.1, fun b hb => by cases hb⟩

/-- What the invariant says at the end. -/
theorem Keeps.leads {K' : α → τ → σ → Prop} {m : Act I τ ε α} (h : Keeps R K m)
    (hK : ∀ a t s, K t s → K' a t s) : Leads R K K' m := fun t s hs =>
  wp_mono (h t s hs) fun _ t' s' hK' => ⟨hK', fun a _ => hK a t' s' hK'⟩

theorem Keeps.trivially {m : Act I τ ε α} (h : Keeps R K m) : Leads R K (fun _ _ _ => True) m :=
  h.leads fun _ _ _ _ => trivial

/-- A part that is only known to keep the invariant comes first. -/
theorem leads_after {K' : β → τ → σ → Prop} {m : Act I τ ε α} {f : α → Act I τ ε β}
    (hm : Keeps R K m) (hf : ∀ a, Leads R K K' (f a)) : Leads R K K' (m >>= f) :=
  leads_bind hm.trivially fun a => by simpa only [and_true] using hf a

theorem leads_pure {K' : α → τ → σ → Prop} {a : α} (h : ∀ t s, K t s → K' a t s) :
    Leads R K K' (pure a : Act I τ ε α) :=
  fun t s hK => ⟨hK, fun _ he => by cases he; exact h t s hK⟩

theorem leads_fail {K' : α → τ → σ → Prop} (e : ε) : Leads R K K' (fail e : Act I τ ε α) :=
  fun _ _ h => ⟨h, fun _ he => by cases he⟩

theorem leads_current {K' : τ → τ → σ → Prop} (h : ∀ t s, K t s → K' t t s) :
    Leads R K K' (current : Act I τ ε τ) :=
  fun t s hK => ⟨hK, fun _ he => by cases he; exact h t s hK⟩

theorem leads_ite {K' : α → τ → σ → Prop} {c : Prop} [Decidable c] {m m' : Act I τ ε α}
    (hm : c → Leads R K K' m) (hm' : ¬ c → Leads R K K' m') : Leads R K K' (if c then m else m') :=
  fun t s h => wp_ite.2 ⟨fun hc => hm hc t s h, fun hc => hm' hc t s h⟩

theorem keeps_after {K' : α → τ → σ → Prop} {m : Act I τ ε α} {f : α → Act I τ ε β}
    (hm : Leads R K K' m) (hf : ∀ a, Keeps R (fun t s => K t s ∧ K' a t s) (f a)) :
    Keeps R K (m >>= f) :=
  (leads_bind hm fun a => (hf a).trivially).keeps

theorem keeps_bind {m : Act I τ ε α} {f : α → Act I τ ε β} (hm : Keeps R K m)
    (hf : ∀ a, Keeps R K (f a)) : Keeps R K (m >>= f) :=
  (leads_after hm fun a => (hf a).trivially).keeps

end KeepsRules

/-- Every call that the procedure can issue is one of `P`. -/
def Only (P : I.Op → Prop) (m : Act I τ ε α) : Prop := ∀ t, (m t).Only P

section OnlyRules

variable {P : I.Op → Prop}

theorem only_pure (a : α) : Only P (pure a : Act I τ ε α) := fun _ => trivial

theorem only_fail (e : ε) : Only P (fail e : Act I τ ε α) := fun _ => trivial

theorem only_current : Only P (current : Act I τ ε τ) := fun _ => trivial

theorem only_assign (f : τ → τ) : Only P (assign f : Act I τ ε Unit) := fun _ => trivial

theorem only_ofExcept (x : Except ε α) : Only P (ofExcept x : Act I τ ε α) := by
  cases x with
  | error e => exact only_fail e
  | ok a => exact only_pure a

theorem only_request {op : I.Op} (h : P op) : Only P (request op : Act I τ ε _) :=
  fun _ => ⟨h, fun _ => trivial⟩

theorem only_perform {op : I.Op} {read : I.Reply op → Except ε α} (h : P op) :
    Only P (perform op read : Act I τ ε α) :=
  fun _ => ⟨h, fun _ => trivial⟩

theorem only_bind {m : Act I τ ε α} {f : α → Act I τ ε β} (hm : Only P m)
    (hf : ∀ a, Only P (f a)) : Only P (m >>= f) := fun t =>
  (hm t).bind fun out =>
    match out with
    | (.ok a, t') => hf a t'
    | (.error _, _) => trivial

theorem only_attempt {m : Act I τ ε α} (hm : Only P m) : Only P (attempt m) := fun t =>
  (hm t).bind fun _ => trivial

theorem only_ite {c : Prop} [Decidable c] {m m' : Act I τ ε α} (hm : Only P m)
    (hm' : Only P m') : Only P (if c then m else m') := by
  by_cases hc : c <;> simpa [hc]

/-- A procedure keeps what its calls preserve. -/
theorem Only.keeps {R : Env I τ σ} {K : σ → Prop} {m : Act I τ ε α} (hm : Only P m)
    (hR : ∀ t s op r s', P op → K s → R t s op r s' → K s') : Keeps R (fun _ => K) m :=
  fun t _ h => (hm t).wp hR h

end OnlyRules

/-- Where a run ends: with a value in `Q`, or with an error in `E`. -/
def Ends (Q : α → σ → Prop) (E : σ → Prop) : Except ε α → σ → Prop
  | .ok a, s => Q a s
  | .error _, s => E s

/-- From `P`, every run of `m` that ends with a value leaves the outside in `Q`, and every one
    that ends with an error leaves it in `E`. -/
def Triple (R : Env I τ σ) (P : σ → Prop) (m : Act I τ ε α) (Q : α → σ → Prop) (E : σ → Prop) :
    Prop :=
  ∀ t s, P s → wp R (fun _ _ => True) m (fun r _ s' => Ends Q E r s') t s

section TripleRules

variable {R : Env I τ σ} {P P' E E' : σ → Prop} {Q Q' : α → σ → Prop} {S : β → σ → Prop}

theorem triple_pure {a : α} (h : ∀ s, P s → Q a s) : Triple R P (pure a : Act I τ ε α) Q E :=
  fun _ s hs => h s hs

theorem triple_fail {e : ε} (h : ∀ s, P s → E s) : Triple R P (fail e : Act I τ ε α) Q E :=
  fun _ s hs => h s hs

theorem triple_ofExcept {x : Except ε α} (h : ∀ s, P s → Ends Q E x s) :
    Triple R P (ofExcept x : Act I τ ε α) Q E :=
  fun _ s hs => wp_ofExcept.2 (h s hs)

theorem triple_request {op : I.Op} {Q : I.Reply op → σ → Prop}
    (h : ∀ t s r s', P s → R t s op r s' → Q r s') :
    Triple R P (request op : Act I τ ε _) Q E :=
  fun t s hs => ⟨trivial, fun r s' hR => h t s r s' hs hR⟩

theorem triple_perform {op : I.Op} {read : I.Reply op → Except ε α}
    (h : ∀ t s r s', P s → R t s op r s' → Ends Q E (read r) s') :
    Triple R P (perform op read : Act I τ ε α) Q E :=
  fun t s hs => ⟨trivial, fun r s' hR => h t s r s' hs hR⟩

theorem triple_bind {m : Act I τ ε α} {f : α → Act I τ ε β} (hm : Triple R P m Q E)
    (hf : ∀ a, Triple R (Q a) (f a) S E) : Triple R P (m >>= f) S E := by
  intro t s hs
  apply wp_bind.2
  apply wp_mono (hm t s hs)
  intro r t' s' h'
  cases r with
  | ok a => exact hf a t' s' h'
  | error e => exact h'

/-- A procedure that looks at the result of another one. -/
theorem triple_attempt_bind {m : Act I τ ε α} {f : Except ε α → Act I τ ε β}
    (hm : Triple R P m Q E) (hok : ∀ a, Triple R (Q a) (f (.ok a)) S E')
    (herror : ∀ e, Triple R E (f (.error e)) S E') : Triple R P (attempt m >>= f) S E' := by
  intro t s hs
  apply wp_bind.2
  apply wp_attempt.2
  apply wp_mono (hm t s hs)
  intro r t' s' h'
  cases r with
  | ok a => exact hok a t' s' h'
  | error e => exact herror e t' s' h'

theorem triple_ite {c : Prop} [Decidable c] {m m' : Act I τ ε α} (hm : c → Triple R P m Q E)
    (hm' : ¬ c → Triple R P m' Q E) : Triple R P (if c then m else m') Q E :=
  fun t s h => wp_ite.2 ⟨fun hc => hm hc t s h, fun hc => hm' hc t s h⟩

theorem Triple.mono {m : Act I τ ε α} (h : Triple R P m Q E) (hP : ∀ s, P' s → P s)
    (hQ : ∀ a s, Q a s → Q' a s) (hE : ∀ s, E s → E' s) : Triple R P' m Q' E' := by
  intro t s hs
  apply wp_mono (h t s (hP s hs))
  intro r t' s' h'
  cases r with
  | ok a => exact hQ a s' h'
  | error e => exact hE s' h'

/-- What the precondition says apart from the state may be used. -/
theorem triple_of_pre {m : Act I τ ε α} (h : (∃ s, P s) → Triple R P m Q E) :
    Triple R P m Q E :=
  fun t s hs => h ⟨s, hs⟩ t s hs

/-- Another postcondition for errors. -/
theorem Triple.orElse {m : Act I τ ε α} (h : Triple R P m Q E) (hE : ∀ s, E s → E' s) :
    Triple R P m Q E' :=
  h.mono (fun _ hs => hs) (fun _ _ hs => hs) hE

theorem Triple.and {P₁ E₁ : σ → Prop} {Q₁ : α → σ → Prop} {m : Act I τ ε α}
    (h : Triple R P m Q E) (h₁ : Triple R P₁ m Q₁ E₁) :
    Triple R (fun s => P s ∧ P₁ s) m (fun a s => Q a s ∧ Q₁ a s) (fun s => E s ∧ E₁ s) := by
  intro t s hs
  apply wp_mono (wp_weaken (wp_and (h t s hs.1) (h₁ t s hs.2)) fun _ _ _ => trivial)
  intro r t' s' h'
  cases r with
  | ok a => exact h'
  | error e => exact h'

theorem Keeps.triple {m : Act I τ ε α} (h : Keeps R (fun _ => P) m) :
    Triple R P m (fun _ => P) P := by
  intro t s hs
  apply wp_mono (wp_weaken (h t s hs) fun _ _ _ => trivial)
  intro r t' s' h'
  cases r with
  | ok a => exact h'
  | error e => exact h'

/-- A run that has ended has ended as the triple says. -/
theorem Triple.reaches {m : Act I τ ε α} (h : Triple R P m Q E) {t t' : τ} {s s' : σ}
    {r : Except ε α} (hs : P s) (hr : Reaches R (m t) s (.pure (r, t')) s') : Ends Q E r s' :=
  Prog.wp_reaches (h t s hs) hr

end TripleRules

/-- Some run from `t`, `s` ends with `Q`. -/
def may (R : Env I τ σ) (m : Act I τ ε α) (Q : Except ε α → τ → σ → Prop) (t : τ) (s : σ) : Prop :=
  (m t).may R (fun out s => Q out.1 out.2 s) s

section PossibleRules

variable {R : Env I τ σ} {t : τ} {s : σ}

@[simp] theorem may_pure {a : α} {Q : Except ε α → τ → σ → Prop} :
    may R (pure a : Act I τ ε α) Q t s ↔ Q (.ok a) t s := Iff.rfl

@[simp] theorem may_fail {e : ε} {Q : Except ε α → τ → σ → Prop} :
    may R (fail e : Act I τ ε α) Q t s ↔ Q (.error e) t s := Iff.rfl

@[simp] theorem may_current {Q : Except ε τ → τ → σ → Prop} :
    may R (current : Act I τ ε τ) Q t s ↔ Q (.ok t) t s := Iff.rfl

@[simp] theorem may_assign {f : τ → τ} {Q : Except ε Unit → τ → σ → Prop} :
    may R (assign f : Act I τ ε Unit) Q t s ↔ Q (.ok ()) (f t) s := Iff.rfl

@[simp] theorem may_request {op : I.Op} {Q : Except ε (I.Reply op) → τ → σ → Prop} :
    may R (request op : Act I τ ε _) Q t s ↔ ∃ r s', R t s op r s' ∧ Q (.ok r) t s' := Iff.rfl

@[simp] theorem may_perform {op : I.Op} {read : I.Reply op → Except ε α}
    {Q : Except ε α → τ → σ → Prop} :
    may R (perform op read : Act I τ ε α) Q t s ↔
      ∃ r s', R t s op r s' ∧ Q (read r) t s' := Iff.rfl

@[simp] theorem may_ofExcept {x : Except ε α} {Q : Except ε α → τ → σ → Prop} :
    may R (ofExcept x : Act I τ ε α) Q t s ↔ Q x t s := by
  cases x <;> rfl

@[simp] theorem may_bind {m : Act I τ ε α} {f : α → Act I τ ε β} {Q : Except ε β → τ → σ → Prop} :
    may R (m >>= f) Q t s ↔
      may R m (fun r t s =>
        match r with
        | .ok a => may R (f a) Q t s
        | .error e => Q (.error e) t s) t s := by
  show ((m t).bind _).may R _ s ↔ _
  rw [Prog.may_bind]
  constructor <;> intro h <;> refine Prog.may_mono h ?_
  · rintro ⟨_ | _, _⟩ _ hQ <;> exact hQ
  · rintro ⟨_ | _, _⟩ _ hQ <;> exact hQ

@[simp] theorem may_attempt {m : Act I τ ε α} {Q : Except ε (Except ε α) → τ → σ → Prop} :
    may R (attempt m) Q t s ↔ may R m (fun r t s => Q (.ok r) t s) t s := by
  show ((m t).bind _).may R _ s ↔ _
  rw [Prog.may_bind]
  rfl

theorem may_focus {τ' : Type} {get : τ → τ'} {set : τ' → τ → τ} {m : Act I τ' ε α}
    {Q : Except ε α → τ → σ → Prop} :
    may R (focus get set m) Q t s ↔
      may (fun x => R (set x t)) m (fun r x s => Q r (set x t) s) (get t) s := by
  show (((m (get t)).relabel _).bind _).may R _ s ↔ _
  rw [Prog.may_bind, Prog.may_relabel]
  rfl

theorem may_of_eq {m m' : Act I τ ε α} {Q : Except ε α → τ → σ → Prop} (h : m t = m' t)
    (hmay : may R m' Q t s) : may R m Q t s := by
  unfold may at hmay ⊢
  rw [h]
  exact hmay

theorem may_mono {m : Act I τ ε α} {Q Q' : Except ε α → τ → σ → Prop}
    (h : may R m Q t s) (hQ : ∀ r t s, Q r t s → Q' r t s) : may R m Q' t s :=
  Prog.may_mono h fun _ _ hq => hQ _ _ _ hq

theorem may_ite {c : Prop} [Decidable c] {m m' : Act I τ ε α} {Q : Except ε α → τ → σ → Prop} :
    may R (if c then m else m') Q t s ↔
      (c → may R m Q t s) ∧ (¬ c → may R m' Q t s) := by
  by_cases hc : c <;> simp [hc]

end PossibleRules

end Act

/-! ## §6 Traces -/

/-- One answered call. -/
structure Event (I : Iface) where
  op : I.Op
  reply : I.Reply op

/-- The environment that answers every call in every way and notes it in a log. -/
def Env.noting {β : Type} (note : Event I → β) : Env I μ (List β) :=
  fun _ log op r log' => log' = log ++ [note ⟨op, r⟩]

end Effectful
