import Nemor.Lib.Effectful

/-!
# Linking: calls that are programs themselves

A program over one interface, with an implementation of every call over a lower interface,
is a program over the lower one. What the lower calls keep, the linked program keeps, provided
that the upper program issues only calls whose implementation keeps it. Which calls those are
can depend on the answers before them: `Asks Pre Post` says that every call a program issues
is in `Pre` as long as the answers so far were in `Post`.
-/

namespace Effectful

variable {I J : Iface} {μ σ τ ε α β : Type}

/-! ## §1 Linking -/

namespace Prog

/-- Replace every call by its implementation. The caller's memory is what it was at the call
    for as long as the implementation runs. -/
def link (impl : (op : I.Op) → Prog J Unit (I.Reply op)) : Prog I μ α → Prog J μ α
  | .pure a => .pure a
  | .call m op k => ((impl op).relabel fun _ => m).bind fun r => (k r).link impl

/-- Every call is one of `Pre`, as long as every answer is one of `Post`. -/
def Asks (Pre : I.Op → Prop) (Post : (op : I.Op) → I.Reply op → Prop) : Prog I μ α → Prop
  | .pure _ => True
  | .call _ op k => Pre op ∧ ∀ r, Post op r → (k r).Asks Pre Post

variable {Pre : I.Op → Prop} {Post : (op : I.Op) → I.Reply op → Prop}

theorem Asks.bind {p : Prog I μ α} {f : α → Prog I μ β} (hp : p.Asks Pre Post)
    (hf : ∀ a, (f a).Asks Pre Post) : (p.bind f).Asks Pre Post := by
  induction p with
  | pure a => exact hf a
  | call m op k ih => exact ⟨hp.1, fun r hr => ih r (hp.2 r hr)⟩

theorem Asks.relabel {μ' : Type} {f : μ → μ'} {p : Prog I μ α} (hp : p.Asks Pre Post) :
    (p.relabel f).Asks Pre Post := by
  induction p with
  | pure a => trivial
  | call m op k ih => exact ⟨hp.1, fun r hr => ih r (hp.2 r hr)⟩

/-- **A linked program keeps what its implementations keep.** -/
theorem Asks.wp_link {R : σ → (op : J.Op) → J.Reply op → σ → Prop} {K : σ → Prop}
    {impl : (op : I.Op) → Prog J Unit (I.Reply op)}
    (himpl : ∀ op, Pre op → ∀ s, K s →
      (impl op).wp (fun _ => R) (fun _ => K) (fun r s' => K s' ∧ Post op r) s)
    {p : Prog I μ α} (hp : p.Asks Pre Post) {s : σ} (h : K s) :
    (p.link impl).wp (fun _ => R) (fun _ => K) (fun _ => K) s := by
  induction p generalizing s with
  | pure a => exact h
  | call m op k ih =>
    -- the implementation ends with an answer in `Post`, and the rest goes on from there
    apply wp_bind.2
    apply wp_mono (wp_relabel.2 (himpl op hp.1 s h))
    intro r s' hr
    exact ih r (hp.2 r hr.2) hr.1

end Prog

/-! ## §2 Fallible procedures -/

namespace Act

/-- Every call of the procedure is one of `Pre`, as long as every answer is one of `Post`. -/
def Asks (Pre : I.Op → Prop) (Post : (op : I.Op) → I.Reply op → Prop) (m : Act I τ ε α) : Prop :=
  ∀ t, (m t).Asks Pre Post

section AsksRules

variable {Pre : I.Op → Prop} {Post : (op : I.Op) → I.Reply op → Prop}

theorem asks_pure (a : α) : Asks Pre Post (pure a : Act I τ ε α) := fun _ => trivial

theorem asks_fail (e : ε) : Asks Pre Post (fail e : Act I τ ε α) := fun _ => trivial

theorem asks_assign (f : τ → τ) : Asks Pre Post (assign f : Act I τ ε Unit) := fun _ => trivial

theorem asks_perform {op : I.Op} {read : I.Reply op → Except ε α} (h : Pre op) :
    Asks Pre Post (perform op read : Act I τ ε α) :=
  fun _ => ⟨h, fun _ _ => trivial⟩

theorem asks_bind {m : Act I τ ε α} {f : α → Act I τ ε β} (hm : Asks Pre Post m)
    (hf : ∀ a, Asks Pre Post (f a)) : Asks Pre Post (m >>= f) := fun t =>
  (hm t).bind fun out =>
    match out with
    | (.ok a, t') => hf a t'
    | (.error _, _) => trivial

theorem asks_current_bind {f : τ → Act I τ ε β} (hf : ∀ t, Asks Pre Post (f t)) :
    Asks Pre Post (current >>= f) := fun t => hf t t

/-- The value that is gone on with was read from an answer in `Post`. -/
theorem asks_perform_bind {op : I.Op} {read : I.Reply op → Except ε α} {f : α → Act I τ ε β}
    (h : Pre op) (hf : ∀ r a, Post op r → read r = .ok a → Asks Pre Post (f a)) :
    Asks Pre Post (perform op read >>= f) := by
  intro t
  refine ⟨h, fun r hr => ?_⟩
  cases hread : read r with
  | ok a => simpa [Prog.bind, hread] using hf r a hr hread t
  | error e => simp [Prog.bind, hread, Prog.Asks]

/-- The answer that is looked at is one of `Post`. -/
theorem asks_request_bind {op : I.Op} {f : I.Reply op → Act I τ ε β} (h : Pre op)
    (hf : ∀ r, Post op r → Asks Pre Post (f r)) : Asks Pre Post (request op >>= f) :=
  fun t => ⟨h, fun r hr => hf r hr t⟩

theorem asks_ite {c : Prop} [Decidable c] {m m' : Act I τ ε α} (hm : c → Asks Pre Post m)
    (hm' : ¬ c → Asks Pre Post m') : Asks Pre Post (if c then m else m') := by
  by_cases hc : c
  · simpa [hc] using hm hc
  · simpa [hc] using hm' hc

theorem asks_locally {τ' : Type} {x : τ'} {m : Act I τ' ε α} (hm : Asks Pre Post m) :
    Asks Pre Post (locally x m : Act I τ ε α) := fun _ =>
  ((hm x).relabel).bind fun _ => trivial

end AsksRules

/-- An implementation written as a procedure: it answers with its result. -/
def result (m : Act J Unit ε α) : Prog J Unit (Except ε α) := (m ()).bind fun out => .pure out.1

theorem wp_result {R : Env J Unit σ} {P : Unit → σ → Prop} {m : Act J Unit ε α}
    {Q : Except ε α → σ → Prop} {s : σ} :
    m.result.wp R P Q s ↔ wp R P m (fun r _ s => Q r s) () s :=
  Prog.wp_bind

/-- What a linked procedure keeps holds at every crash point. -/
theorem Asks.reaches_link {Pre : I.Op → Prop} {Post : (op : I.Op) → I.Reply op → Prop}
    {R : σ → (op : J.Op) → J.Reply op → σ → Prop} {K : σ → Prop}
    {impl : (op : I.Op) → Prog J Unit (I.Reply op)}
    (himpl : ∀ op, Pre op → ∀ s, K s →
      (impl op).wp (fun _ => R) (fun _ => K) (fun r s' => K s' ∧ Post op r) s)
    {m : Act I τ ε α} (hm : Asks Pre Post m) {t : τ} {s s' : σ}
    {q : Prog J τ (Except ε α × τ)} (h : K s)
    (hr : Reaches (fun _ => R) ((m t).link impl) s q s') : K s' :=
  Prog.wp_always ((hm t).wp_link himpl h) hr

end Act

end Effectful
