import Nemor.Lib.Log

/-!
# Machines that answer each input

A machine reads one input at a time, moves to a new state and gives an answer. Its transcript
is the log of the inputs with their answers. What the state knows about the transcript is an
invariant of one step; what each answer says about the entries before it is then a property
of the whole transcript.
-/

namespace Machine

open Log

variable {σ ι ο : Type} (step : σ → ι → σ × ο)

/-- The state after a list of inputs. -/
def after (s : σ) (inputs : List ι) : σ := inputs.foldl (fun t x => (step t x).1) s

/-- The inputs with the answers given to them. -/
def transcript (s : σ) : List ι → List (ι × ο)
  | [] => []
  | x :: inputs => (x, (step s x).2) :: transcript (step s x).1 inputs

@[simp] theorem after_cons (s : σ) (x : ι) (inputs : List ι) :
    after step s (x :: inputs) = after step (step s x).1 inputs := rfl

theorem after_snoc (s : σ) (inputs : List ι) (x : ι) :
    after step s (inputs ++ [x]) = (step (after step s inputs) x).1 := by
  simp [after]

theorem transcript_snoc (s : σ) (inputs : List ι) (x : ι) :
    transcript step s (inputs ++ [x]) =
      transcript step s inputs ++ [(x, (step (after step s inputs) x).2)] := by
  induction inputs generalizing s with
  | nil => rfl
  | cons y inputs ih => simp [transcript, ih]

@[simp] theorem map_fst_transcript (s : σ) (inputs : List ι) :
    (transcript step s inputs).map Prod.fst = inputs := by
  induction inputs generalizing s with
  | nil => rfl
  | cons x inputs ih => simp [transcript, ih]

/-- What holds of the empty transcript and the first state, and is kept by every step, holds
    of every transcript and the state it leads to. -/
theorem transcript_induction (Inv : List (ι × ο) → σ → Prop) {s : σ} (h : Inv [] s)
    (hstep : ∀ log t x, Inv log t → Inv (log ++ [(x, (step t x).2)]) (step t x).1)
    (inputs : List ι) : Inv (transcript step s inputs) (after step s inputs) := by
  induction inputs using List.reverseRecOn with
  | nil => exact h
  | append_singleton inputs x ih =>
    rw [transcript_snoc, after_snoc]
    exact hstep _ _ x ih

/-- The same for inputs that stand in a relation: each step may then use that its input stands
    in the relation with all the inputs before it. -/
theorem transcript_induction_pairwise (R : ι → ι → Prop) (Inv : List (ι × ο) → σ → Prop) {s : σ}
    (h : Inv [] s)
    (hstep : ∀ log t x, (∀ e ∈ log, R e.1 x) → Inv log t →
      Inv (log ++ [(x, (step t x).2)]) (step t x).1)
    {inputs : List ι} (hinputs : inputs.Pairwise R) :
    Inv (transcript step s inputs) (after step s inputs) := by
  -- the relation moves into the invariant, stated over the inputs the transcript keeps
  have hinv := transcript_induction step
    (fun log t => log.Pairwise (fun a b => R a.1 b.1) → Inv log t) (fun _ => h)
    (by
      intro log t x ih hpair
      obtain ⟨hlog, -, hnew⟩ := List.pairwise_append.1 hpair
      exact hstep log t x (fun e he => hnew e he _ (List.mem_singleton_self _)) (ih hlog))
    inputs
  apply hinv
  rw [← List.pairwise_map, map_fst_transcript]
  exact hinputs

/-- With such an invariant, a property of one answer and the entries before it holds all along
    the transcript. -/
theorem transcript_allPrefixed (Inv : List (ι × ο) → σ → Prop) {P : List (ι × ο) → ι × ο → Prop}
    {s : σ} (h : Inv [] s)
    (hstep : ∀ log t x, Inv log t → Inv (log ++ [(x, (step t x).2)]) (step t x).1)
    (hanswer : ∀ log t x, Inv log t → P log (x, (step t x).2)) (inputs : List ι) :
    AllPrefixed P (transcript step s inputs) := by
  induction inputs using List.reverseRecOn with
  | nil => exact AllPrefixed.nil P
  | append_singleton inputs x ih =>
    rw [transcript_snoc]
    exact ih.snoc _ (hanswer _ _ x (transcript_induction step Inv h hstep inputs))

end Machine
