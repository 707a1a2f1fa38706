import Mathlib.Logic.Function.Basic
import Mathlib.Logic.Relation
import Nemor.Capacity.Evidence

/-!
# The command files of the external target

The controller of a level tells the external target what to do through three files of the
target's directory, one for each kind of command. It does not wait for an answer. The target
looks at the files one after the other in every round of its loop: it reads a file, removes it,
checks what it has read and acts. A file can appear between any two of these steps.

A round that has passed the file of one command and then finds the file of a later one sees
the two in the wrong order. The commands are acted upon in the order written as long as no
command is written in such a gap.
-/

namespace Nemor.Capacity.CommandProtocol

/-! ## §1 Commands and files -/

/-- The commands, each with the nonce of the session. -/
inductive CapacityExternalTargetCommand where
  | start (nonce : String)
  | refaultCold (nonce : String)
  | stop (nonce : String)
  deriving DecidableEq

/-- The files of the commands, in the order in which the target looks at them. -/
inductive CommandFile where
  -- command-start.json
  | start
  -- command-refault.json
  | refault
  -- command-stop.json
  | stop
  deriving DecidableEq

namespace CommandFile

/-- The place of a file in a round of the loop. -/
def rank : CommandFile → ℕ
  | .start => 0
  | .refault => 1
  | .stop => 2

theorem eq_of_rank_eq {f g : CommandFile} (h : f.rank = g.rank) : f = g := by
  cases f <;> cases g <;> simp_all [rank]

theorem rank_le_stop (f : CommandFile) : f.rank ≤ CommandFile.stop.rank := by
  cases f <;> decide

end CommandFile

namespace CapacityExternalTargetCommand

/-- The nonce that a command carries. -/
def nonce : CapacityExternalTargetCommand → String
  | .start nonce => nonce
  | .refaultCold nonce => nonce
  | .stop nonce => nonce

/-- The file `write_command` puts a command in. -/
def file : CapacityExternalTargetCommand → CommandFile
  | .start _ => .start
  | .refaultCold _ => .refault
  | .stop _ => .stop

/-- A command is its kind and its nonce. -/
theorem eq_of_file_of_nonce {a b : CapacityExternalTargetCommand} (hfile : a.file = b.file)
    (hnonce : a.nonce = b.nonce) : a = b := by
  cases a <;> cases b <;> simp_all [file, nonce]

end CapacityExternalTargetCommand

/-! ## §2 The target and its controller -/

/-- Why a target gives up. -/
inductive TargetFailure where
  | nonceMismatch
  | startTransition
  | coldRefault
  | stopCommand
  | host (text : String)
  deriving DecidableEq

namespace TargetFailure

/-- The text of the error. -/
def message : TargetFailure → String
  | .nonceMismatch => "external target command nonce mismatch"
  | .startTransition => "invalid external target START transition"
  | .coldRefault => "invalid or repeated external target COLD refault"
  | .stopCommand => "invalid external target STOP command"
  | .host text => text

end TargetFailure

/-- Where the target stands in its loop. -/
inductive LoopPoint where
  -- the loop's condition
  | top
  -- about to read a file
  | check (file : CommandFile)
  -- a file has been read and is about to be removed
  | remove (file : CommandFile) (command : CapacityExternalTargetCommand)
  -- the round's progress record
  | progress
  -- past the loop: the workers are joined and the last progress record is written
  | stopping
  | ended (result : Except TargetFailure Unit)

/-- The controller, the command files and the target. -/
structure TargetSession where
  -- what the controller has still to write, and what it has written
  remaining : List CapacityExternalTargetCommand
  written : List CapacityExternalTargetCommand
  files : CommandFile → Option CapacityExternalTargetCommand
  point : LoopPoint
  state : CapacityExternalTargetState
  controlledRefaults : ℕ
  /-- The state in the last progress record. -/
  published : CapacityExternalTargetState
  /-- The commands acted upon, oldest first. -/
  acted : List CapacityExternalTargetCommand

/-- Where the loop goes after a file that was not there. -/
def LoopPoint.past : CommandFile → LoopPoint
  | .start => .check .refault
  | .refault => .check .stop
  | .stop => .progress

/-- What the loop does with a command it has read from a file and removed. -/
def act (nonce : String) (s : TargetSession) (file : CommandFile)
    (command : CapacityExternalTargetCommand) : Except TargetFailure TargetSession :=
  if command.nonce ≠ nonce then
    .error .nonceMismatch
  else
    match file, command with
    | .start, .start _ =>
      if s.state ≠ .ready then
        .error .startTransition
      else
        .ok { s with
          state := .active
          acted := s.acted ++ [command]
          point := .check .refault }
    | .start, _ => .error .startTransition
    | .refault, .refaultCold _ =>
      if s.state ≠ .active ∨ s.controlledRefaults ≠ 0 then
        .error .coldRefault
      else
        .ok { s with
          controlledRefaults := 1
          acted := s.acted ++ [command]
          point := .check .stop }
    | .refault, _ => .error .coldRefault
    -- a stop is taken in any state
    | .stop, .stop _ => .ok { s with acted := s.acted ++ [command], point := .stopping }
    | .stop, _ => .error .stopCommand

/-- Remove a command file that was read, and act upon the command. -/
def removeAndAct (nonce : String) (s : TargetSession) (file : CommandFile)
    (command : CapacityExternalTargetCommand) : TargetSession :=
  -- the file is gone also when its command is refused
  let removed := { s with files := Function.update s.files file none }
  match act nonce removed file command with
  | .ok s' => s'
  | .error e => { removed with point := .ended (.error e) }

/-- The next step of the target, with every call to the host answered. -/
def poll (nonce : String) (s : TargetSession) : Option TargetSession :=
  match s.point with
  | .top => some { s with point := .check .start }
  | .check file =>
    match s.files file with
    | none => some { s with point := .past file }
    | some command => some { s with point := .remove file command }
  | .remove file command => some (removeAndAct nonce s file command)
  | .progress => some { s with published := s.state, point := .top }
  | .stopping => some { s with published := .stopped, point := .ended (.ok ()) }
  | .ended _ => none

/-- The next command of the controller. It is staged under a name that the target does not
    look at, so it is there from the rename on and not before. -/
def writeCommand (s : TargetSession) : Option TargetSession :=
  match s.remaining with
  | [] => none
  | command :: rest =>
    some { s with
      remaining := rest
      written := s.written ++ [command]
      files := Function.update s.files command.file (some command) }

/-- Who moves next. -/
inductive SessionMove where
  -- the controller writes its next command
  | write
  -- the target makes its next step
  | poll
  -- the target's running time is over at the loop's condition
  | expire
  -- a call to the host fails, or a worker or the final content does
  | fail (text : String)

/-- What a move does, if it can be made. -/
def move (nonce : String) (s : TargetSession) : SessionMove → Option TargetSession
  | .write => writeCommand s
  | .poll => poll nonce s
  | .expire =>
    match s.point with
    | .top => some { s with point := .stopping }
    | _ => none
  | .fail text =>
    match s.point with
    | .ended _ => none
    | _ => some { s with point := .ended (.error (.host text)) }

/-- The commands of a controller: one start, a refault if it wants one, and at least one stop. -/
def commandPlan (nonce : String) (refault : Bool) (moreStops : ℕ) :
    List CapacityExternalTargetCommand :=
  .start nonce :: ((if refault then [.refaultCold nonce] else []) ++
    List.replicate (moreStops + 1) (.stop nonce))

/-- A target that has just published that it is ready. -/
def readySession (commands : List CapacityExternalTargetCommand) : TargetSession where
  remaining := commands
  written := []
  files := fun _ => none
  point := .top
  state := .ready
  controlledRefaults := 0
  published := .ready
  acted := []

/-! ## §3 Runs and what is asked of them -/

/-- Any interleaving of the controller with the target. -/
def SessionRun (nonce : String) : TargetSession → TargetSession → Prop :=
  Relation.ReflTransGen fun s s' => ∃ m, move nonce s m = some s'

/-- A command is written in time unless an earlier command still lies in its file, the round has
    passed that file, and the round has not yet passed the file of the new command. -/
def Timely (s : TargetSession) : SessionMove → Prop
  | .write =>
    ∀ command ∈ s.remaining.head?, ∀ earlier current : CommandFile,
      earlier.rank < current.rank → current.rank ≤ command.file.rank →
        s.files earlier ≠ none → s.point ≠ .check current
  | _ => True

/-- A run in which no command is written too early. -/
def TimelyRun (nonce : String) : TargetSession → TargetSession → Prop :=
  Relation.ReflTransGen fun s s' => ∃ m, Timely s m ∧ move nonce s m = some s'

/-- What the protocol promises at every moment of a session. -/
structure InOrder (s : TargetSession) : Prop where
  /-- Each kind of command is acted upon at most once. -/
  once : (s.acted.map CapacityExternalTargetCommand.file).Nodup
  /-- The commands are acted upon in the order written. -/
  ordered : s.acted.Sublist s.written
  /-- The target does not fail over a command it has seen. -/
  accepted : ∀ e, s.point = .ended (.error e) → ∃ text, e = .host text
  /-- A target that has acted upon a stop has acted upon everything written before it. -/
  complete : ∀ stop ∈ s.acted, stop.file = .stop →
    ∀ command ∈ s.written, command.file ≠ .stop → command ∈ s.acted

/-! ## §4 The invariant of a timely session -/

/-- The file a round is at, from the reading of it to its removal. -/
def LoopPoint.scans : LoopPoint → Option CommandFile
  | .check file => some file
  | .remove file _ => some file
  | _ => none

/-- One command may be written after another. -/
def Follows (a b : CapacityExternalTargetCommand) : Prop :=
  a.file.rank < b.file.rank ∨ a.file = .stop ∧ b.file = .stop

/-- The invariant of a timely run: what was written and what was acted on go together. -/
structure Orderly (nonce : String) (commands : List CapacityExternalTargetCommand)
    (s : TargetSession) : Prop where
  planned : s.written ++ s.remaining = commands
  filed : ∀ f c, s.files f = some c → c.file = f ∧ c ∈ s.written
  processed : ∀ c ∈ s.written, c.file ≠ .stop → c ∈ s.acted ∨ s.files c.file ≠ none
  /-- Two commands do not lie in their files while the round is past the first of them. -/
  gapless : ∀ f g h, f.rank < h.rank → h.rank ≤ g.rank → s.files f ≠ none → s.files g ≠ none →
    s.point.scans ≠ some h
  reading : ∀ h c, s.point = .remove h c →
    c.file = h ∧ c ∈ s.written ∧ s.files h ≠ none ∧ ∀ f, f.rank < h.rank → s.files f = none
  actedWritten : ∀ a ∈ s.acted, a ∈ s.written
  increasing : s.acted.Pairwise fun a b => a.file.rank < b.file.rank
  consumed : ∀ a ∈ s.acted, ∀ f, f.rank ≤ a.file.rank → f ≠ .stop → s.files f = none
  leaving : ∀ a ∈ s.acted, a.file = .stop → s.point = .stopping ∨ ∃ r, s.point = .ended r
  active : (∃ a ∈ s.acted, a.file = .start) → s.state = .active
  ready : (∀ a ∈ s.acted, a.file ≠ .start) → s.state = .ready
  unrefaulted : (∀ a ∈ s.acted, a.file ≠ .refault) → s.controlledRefaults = 0
  accepted : ∀ e, s.point = .ended (.error e) → ∃ text, e = .host text

/-- What the order of the commands is needed for. -/
structure WellPlanned (nonce : String) (commands : List CapacityExternalTargetCommand) : Prop where
  follows : commands.Pairwise Follows
  nonces : ∀ c ∈ commands, c.nonce = nonce
  startFirst : ∀ written rest, written ++ rest = commands → written ≠ [] → .start nonce ∈ written

theorem follows_stop (a : CapacityExternalTargetCommand) (nonce : String) :
    Follows a (.stop nonce) := by
  cases a with
  | start _ => exact .inl Nat.two_pos
  | refaultCold _ => exact .inl Nat.one_lt_two
  | stop _ => exact .inr ⟨rfl, rfl⟩

theorem wellPlanned_commandPlan (nonce : String) (refault : Bool) (moreStops : ℕ) :
    WellPlanned nonce (commandPlan nonce refault moreStops) := by
  refine ⟨?_, ?_, ?_⟩
  · -- a stop follows every command, another stop included
    have hafter : ∀ a, ∀ c ∈ List.replicate (moreStops + 1)
        (CapacityExternalTargetCommand.stop nonce), Follows a c := by
      intro a c hc
      rw [List.eq_of_mem_replicate hc]
      exact follows_stop a nonce
    have hstops : (List.replicate (moreStops + 1)
        (CapacityExternalTargetCommand.stop nonce)).Pairwise Follows :=
      List.pairwise_replicate.2 (.inr (follows_stop _ nonce))
    cases refault with
    | false => exact List.pairwise_cons.2 ⟨hafter _, hstops⟩
    | true =>
      refine List.pairwise_cons.2 ⟨?_, List.pairwise_cons.2 ⟨hafter _, hstops⟩⟩
      intro c hc
      rcases List.mem_cons.1 hc with rfl | hc
      · exact .inl Nat.one_pos
      · exact hafter _ c hc
  · intro c hc
    simp only [commandPlan, List.mem_cons, List.mem_append, List.mem_replicate] at hc
    rcases hc with rfl | hc | ⟨-, rfl⟩
    · rfl
    · cases refault with
      | false => simp at hc
      | true =>
        simp only [if_true, List.mem_singleton] at hc
        subst hc
        rfl
    · rfl
  · intro written rest h hne
    cases written with
    | nil => exact absurd rfl hne
    | cons c written =>
      simp only [commandPlan, List.cons_append, List.cons.injEq] at h
      rw [h.1]
      exact List.mem_cons_self

section Preserved

variable {nonce : String} {commands : List CapacityExternalTargetCommand} {s s' : TargetSession}

theorem orderly_readySession : Orderly nonce commands (readySession commands) where
  planned := rfl
  filed := by simp [readySession]
  processed := by simp [readySession]
  gapless := by simp [readySession]
  reading := by simp [readySession]
  actedWritten := by simp [readySession]
  increasing := by simp [readySession]
  consumed := by simp [readySession]
  leaving := by simp [readySession]
  active := by simp [readySession]
  ready := by simp [readySession]
  unrefaulted := by simp [readySession]
  accepted := by simp [readySession]

/-- A command is written after all that were written before it. -/
theorem Orderly.follows (h : Orderly nonce commands s) (hplan : WellPlanned nonce commands)
    {c : CapacityExternalTargetCommand} {rest : List CapacityExternalTargetCommand}
    (hc : s.remaining = c :: rest) {a : CapacityExternalTargetCommand} (ha : a ∈ s.written) :
    Follows a c := by
  have hpair := hplan.follows
  rw [← h.planned, hc] at hpair
  exact (List.pairwise_append.1 hpair).2.2 a ha c List.mem_cons_self

/-- A command is not written behind one that lies in its file or has been read. -/
theorem Orderly.rank_lt_of_filed (h : Orderly nonce commands s) (hplan : WellPlanned nonce commands)
    {c : CapacityExternalTargetCommand} {rest : List CapacityExternalTargetCommand}
    (hc : s.remaining = c :: rest) {g : CommandFile} (hg : s.files g ≠ none) (hne : g ≠ c.file) :
    g.rank < c.file.rank := by
  obtain ⟨a, ha⟩ := Option.ne_none_iff_exists'.1 hg
  obtain ⟨rfl, hwritten⟩ := h.filed g a ha
  rcases h.follows hplan hc hwritten with hlt | ⟨hstop, hstop'⟩
  · exact hlt
  · exact absurd (hstop.trans hstop'.symm) hne

/-- A timely write closes no gap behind the round. -/
theorem Orderly.gapless_write (h : Orderly nonce commands s) (hplan : WellPlanned nonce commands)
    (htimely : Timely s .write) {c : CapacityExternalTargetCommand}
    {rest : List CapacityExternalTargetCommand} (hc : s.remaining = c :: rest)
    {f g x : CommandFile} (hfx : f.rank < x.rank) (hxg : x.rank ≤ g.rank)
    (hf : Function.update s.files c.file (some c) f ≠ none)
    (hg : Function.update s.files c.file (some c) g ≠ none) : s.point.scans ≠ some x := by
  by_cases hgc : g = c.file
  · -- the new command is the later one
    subst hgc
    have hfc : f ≠ c.file := by
      rintro rfl
      omega
    rw [Function.update_of_ne hfc] at hf
    intro hscan
    cases hpoint : s.point with
    | check y =>
      simp only [hpoint, LoopPoint.scans, Option.some.injEq] at hscan
      subst hscan
      -- this is what the write in time excludes
      exact htimely c (by rw [hc]; rfl) f y hfx hxg hf hpoint
    | remove y a =>
      simp only [hpoint, LoopPoint.scans, Option.some.injEq] at hscan
      subst hscan
      -- a file is read only if nothing lies before it
      exact hf ((h.reading y a hpoint).2.2.2 f hfx)
    | top => simp [hpoint, LoopPoint.scans] at hscan
    | progress => simp [hpoint, LoopPoint.scans] at hscan
    | stopping => simp [hpoint, LoopPoint.scans] at hscan
    | ended r => simp [hpoint, LoopPoint.scans] at hscan
  · -- the two commands lay there before
    rw [Function.update_of_ne hgc] at hg
    have hlt := h.rank_lt_of_filed hplan hc hg hgc
    have hfc : f ≠ c.file := by
      rintro rfl
      omega
    rw [Function.update_of_ne hfc] at hf
    exact h.gapless f g x hfx hxg hf hg

/-- A timely write keeps the order. -/
theorem Orderly.writeCommand (h : Orderly nonce commands s) (hplan : WellPlanned nonce commands)
    (htimely : Timely s .write) (hmove : writeCommand s = some s') : Orderly nonce commands s' := by
  unfold CommandProtocol.writeCommand at hmove
  split at hmove
  · cases hmove
  rename_i c rest hc
  obtain rfl : _ = s' := Option.some.inj hmove
  refine { h with
    planned := ?_, filed := ?_, processed := ?_, gapless := ?_, reading := ?_, actedWritten := ?_,
    consumed := ?_ }
  · show s.written ++ [c] ++ rest = commands
    rw [← h.planned, hc]
    simp
  · intro f a ha
    show a.file = f ∧ a ∈ s.written ++ [c]
    by_cases hf : f = c.file
    · subst hf
      simp only [Function.update_self, Option.some.injEq] at ha
      subst ha
      exact ⟨rfl, by simp⟩
    · simp only [Function.update_of_ne hf] at ha
      exact ⟨(h.filed f a ha).1, by simp [(h.filed f a ha).2]⟩
  · intro a ha hstop
    simp only [List.mem_append, List.mem_singleton] at ha
    rcases ha with ha | rfl
    · rcases h.processed a ha hstop with hacted | hpending
      · exact .inl hacted
      · right
        by_cases hf : a.file = c.file
        · simp [hf]
        · simpa [Function.update_of_ne hf] using hpending
    · right
      simp
  · intro f g x hfx hxg hf hg
    exact h.gapless_write hplan htimely hc hfx hxg hf hg
  · -- the file that is being read may be written once more, but none before it
    intro x a hpoint
    obtain ⟨hfile, hwritten, hpending, hearlier⟩ := h.reading x a hpoint
    refine ⟨hfile, by simp [hwritten], ?_, ?_⟩
    · by_cases hx : x = c.file
      · simp [hx]
      · simpa [Function.update_of_ne hx] using hpending
    · intro f hf
      have hfc : f ≠ c.file := by
        rintro rfl
        by_cases hx : x = c.file
        · subst hx
          omega
        · have := h.rank_lt_of_filed hplan hc hpending hx
          omega
      simpa [Function.update_of_ne hfc] using hearlier f hf
  · intro a ha
    simp [h.actedWritten a ha]
  · intro a ha f hf hstop
    -- nothing is written that comes before a command already acted upon
    have hfc : f ≠ c.file := by
      rintro rfl
      rcases h.follows hplan hc (h.actedWritten a ha) with hlt | ⟨-, hstop'⟩
      · omega
      · exact hstop hstop'
    simpa [Function.update_of_ne hfc] using h.consumed a ha f hf hstop

/-- A step of the target that only moves on. -/
theorem Orderly.moveOn (h : Orderly nonce commands s) {p : LoopPoint}
    {q : CapacityExternalTargetState}
    (hscan : ∀ x, p.scans = some x → ∀ f g, f.rank < x.rank → x.rank ≤ g.rank →
      s.files f ≠ none → s.files g ≠ none → False)
    (hread : ∀ x c, p = .remove x c → c.file = x ∧ c ∈ s.written ∧ s.files x ≠ none ∧
      ∀ f, f.rank < x.rank → s.files f = none)
    (hleave : ∀ a ∈ s.acted, a.file = .stop → p = .stopping ∨ ∃ r, p = .ended r)
    (haccept : ∀ e, p = .ended (.error e) → ∃ text, e = .host text) :
    Orderly nonce commands { s with point := p, published := q } :=
  { h with
    gapless := fun f g x hfx hxg hf hg hx => hscan x hx f g hfx hxg hf hg
    reading := hread
    leaving := hleave
    accepted := haccept }

/-- A step to a point between two looks. -/
theorem Orderly.rest (h : Orderly nonce commands s) {p : LoopPoint}
    {q : CapacityExternalTargetState} (hscan : p.scans = none)
    (hleave : ∀ a ∈ s.acted, a.file = .stop → p = .stopping ∨ ∃ r, p = .ended r)
    (haccept : ∀ e, p = .ended (.error e) → ∃ text, e = .host text) :
    Orderly nonce commands { s with point := p, published := q } := by
  apply h.moveOn _ _ hleave haccept
  · intro x hx
    rw [hscan] at hx
    cases hx
  · intro x c hp
    rw [hp] at hscan
    cases hscan

/-- In the loop no stop has been acted upon. -/
theorem Orderly.no_stop (h : Orderly nonce commands s) (hstopping : s.point ≠ .stopping)
    (hended : ∀ r, s.point ≠ .ended r) : ∀ a ∈ s.acted, a.file ≠ .stop := by
  intro a ha hstop
  rcases h.leaving a ha hstop with hp | ⟨r, hp⟩
  · exact hstopping hp
  · exact hended r hp

/-- Past a file that is not there. -/
theorem Orderly.past (h : Orderly nonce commands s) {x : CommandFile} (hpoint : s.point = .check x)
    (hx : s.files x = none) : Orderly nonce commands { s with point := .past x } := by
  have hstop := h.no_stop (by simp [hpoint]) (by simp [hpoint])
  have hbefore : ∀ f g, f.rank < x.rank → x.rank ≤ g.rank → s.files f ≠ none →
      s.files g ≠ none → False := by
    intro f g hfx hxg hf hg
    exact h.gapless f g x hfx hxg hf hg (by rw [hpoint]; rfl)
  have hnext : ∀ y, (LoopPoint.past x).scans = some y → y.rank = x.rank + 1 := by
    intro y hy
    cases x <;> simp [LoopPoint.past, LoopPoint.scans] at hy <;> subst hy <;> rfl
  refine h.moveOn ?_ ?_ ?_ ?_
  · intro y hy f g hfy hyg hf hg
    have hrank := hnext y hy
    by_cases hfx : f = x
    · subst hfx
      exact hf hx
    · have : f.rank ≠ x.rank := fun heq => hfx (CommandFile.eq_of_rank_eq heq)
      exact hbefore f g (by omega) (by omega) hf hg
  · intro y c hy
    cases x <;> simp [LoopPoint.past] at hy
  · intro a ha hfile
    exact absurd hfile (hstop a ha)
  · intro e he
    cases x <;> simp [LoopPoint.past] at he

/-- A file that is there is read. -/
theorem Orderly.read (h : Orderly nonce commands s) {x : CommandFile} (hpoint : s.point = .check x)
    {c : CapacityExternalTargetCommand} (hx : s.files x = some c) :
    Orderly nonce commands { s with point := .remove x c } := by
  have hstop := h.no_stop (by simp [hpoint]) (by simp [hpoint])
  have hscan : s.point.scans = some x := by
    rw [hpoint]
    rfl
  refine h.moveOn ?_ ?_ ?_ ?_
  · intro y hy f g hfy hyg hf hg
    simp only [LoopPoint.scans, Option.some.injEq] at hy
    subst hy
    exact h.gapless f g x hfy hyg hf hg hscan
  · intro y a hy
    simp only [LoopPoint.remove.injEq] at hy
    obtain ⟨rfl, rfl⟩ := hy
    refine ⟨(h.filed x c hx).1, (h.filed x c hx).2, by simp [hx], ?_⟩
    intro f hf
    -- a command before it would leave a gap behind the round
    by_contra hpending
    exact h.gapless f x x hf (Nat.le_refl _) hpending (by simp [hx]) hscan
  · intro a ha hfile
    exact absurd hfile (hstop a ha)
  · intro e he
    cases he

/-- What has been acted upon comes before what has been read. -/
theorem Orderly.acted_before (h : Orderly nonce commands s) {x : CommandFile}
    {c : CapacityExternalTargetCommand} (hpoint : s.point = .remove x c) :
    ∀ a ∈ s.acted, a.file.rank < x.rank := by
  intro a ha
  by_contra hle
  -- a stop ends the loop; any other file was emptied when its command was acted upon
  by_cases hx : x = .stop
  · have hstop : a.file = .stop := by
      subst hx
      have := a.file.rank_le_stop
      exact CommandFile.eq_of_rank_eq (by omega)
    exact h.no_stop (by simp [hpoint]) (by simp [hpoint]) a ha hstop
  · exact (h.reading x c hpoint).2.2.1 (h.consumed a ha x (by omega) hx)

/-- A command that has been read is removed and acted upon. -/
theorem Orderly.performed (h : Orderly nonce commands s) (hplan : WellPlanned nonce commands)
    {x : CommandFile} {c : CapacityExternalTargetCommand} (hpoint : s.point = .remove x c)
    {p : LoopPoint} {q : CapacityExternalTargetState} {n : ℕ}
    (hscan : ∀ y, p.scans = some y → y.rank = x.rank + 1) (hread : ∀ y a, p ≠ .remove y a)
    (hleave : x = .stop → p = .stopping) (haccept : ∀ e, p ≠ .ended (.error e))
    (hactive : (∃ a ∈ s.acted ++ [c], a.file = .start) → q = .active)
    (hready : (∀ a ∈ s.acted ++ [c], a.file ≠ .start) → q = .ready)
    (hrefault : (∀ a ∈ s.acted ++ [c], a.file ≠ .refault) → n = 0) :
    Orderly nonce commands { s with
      files := Function.update s.files x none, acted := s.acted ++ [c], point := p, state := q,
      controlledRefaults := n } := by
  obtain ⟨hfile, hwritten, hpending, hearlier⟩ := h.reading x c hpoint
  have hbefore := h.acted_before hpoint
  have hnonces : ∀ a ∈ s.written, a.nonce = nonce := by
    intro a ha
    exact hplan.nonces a (h.planned ▸ List.mem_append_left _ ha)
  have hfiles : ∀ f, s.files f = none → Function.update s.files x none f = none := by
    intro f hf
    by_cases hfx : f = x
    · simp [hfx]
    · simpa [Function.update_of_ne hfx] using hf
  have hpresent : ∀ f, Function.update s.files x none f ≠ none → f ≠ x ∧ s.files f ≠ none := by
    intro f hf
    refine ⟨?_, fun hnone => hf (hfiles f hnone)⟩
    rintro rfl
    simp at hf
  refine { h with
    filed := ?_, processed := ?_, gapless := ?_, reading := ?_, actedWritten := ?_,
    increasing := ?_, consumed := ?_, leaving := ?_, active := hactive, ready := hready,
    unrefaulted := hrefault, accepted := ?_ }
  · intro f a ha
    have hsome : Function.update s.files x none f = some a := ha
    have hf := (hpresent f (by simp [hsome])).1
    rw [Function.update_of_ne hf] at hsome
    exact h.filed f a hsome
  · intro a ha hstop
    by_cases hax : a.file = x
    · left
      have hac : a = c := CapacityExternalTargetCommand.eq_of_file_of_nonce (hax.trans hfile.symm)
        ((hnonces a ha).trans (hnonces c hwritten).symm)
      simp [hac]
    · rcases h.processed a ha hstop with hacted | hfiled
      · exact .inl (by simp [hacted])
      · exact .inr (by simpa [Function.update_of_ne hax] using hfiled)
  · intro f g y hfy hyg hf hg hy
    -- the round is one file further, and everything up to this one is gone
    obtain ⟨hfx, hf⟩ := hpresent f hf
    have hrank := hscan y hy
    have hne : f.rank ≠ x.rank := fun heq => hfx (CommandFile.eq_of_rank_eq heq)
    exact hf (hearlier f (by omega))
  · intro y a hy
    exact absurd hy (hread y a)
  · intro a ha
    simp only [List.mem_append, List.mem_singleton] at ha
    rcases ha with ha | rfl
    · exact h.actedWritten a ha
    · exact hwritten
  · refine List.pairwise_append.2 ⟨h.increasing, List.pairwise_singleton _ _, ?_⟩
    intro a ha b hb
    simp only [List.mem_singleton] at hb
    subst hb
    rw [hfile]
    exact hbefore a ha
  · intro a ha f hf hstop
    simp only [List.mem_append, List.mem_singleton] at ha
    rcases ha with ha | rfl
    · exact hfiles f (h.consumed a ha f hf hstop)
    · by_cases hfx : f = x
      · simp [hfx]
      · have hne : f.rank ≠ x.rank := fun heq => hfx (CommandFile.eq_of_rank_eq heq)
        rw [hfile] at hf
        exact hfiles f (hearlier f (by omega))
  · intro a ha hstop
    left
    simp only [List.mem_append, List.mem_singleton] at ha
    rcases ha with ha | rfl
    · exact absurd hstop (h.no_stop (by simp [hpoint]) (by simp [hpoint]) a ha)
    · exact hleave (hfile.symm.trans hstop)
  · intro e he
    exact absurd he (haccept e)

/-- The start has been acted upon when a later command is read. -/
theorem Orderly.started (h : Orderly nonce commands s) (hplan : WellPlanned nonce commands)
    {x : CommandFile} {c : CapacityExternalTargetCommand} (hpoint : s.point = .remove x c)
    (hx : CommandFile.start.rank < x.rank) :
    CapacityExternalTargetCommand.start nonce ∈ s.acted := by
  obtain ⟨-, hwritten, -, hearlier⟩ := h.reading x c hpoint
  have hstart := hplan.startFirst s.written s.remaining h.planned (List.ne_nil_of_mem hwritten)
  rcases h.processed _ hstart (by simp [CapacityExternalTargetCommand.file]) with hacted | hfiled
  · exact hacted
  · exact absurd (hearlier .start hx) hfiled

/-- The target accepts the command it has read, and its session stays in order. -/
theorem Orderly.removeAndAct (h : Orderly nonce commands s) (hplan : WellPlanned nonce commands)
    {x : CommandFile} {c : CapacityExternalTargetCommand} (hpoint : s.point = .remove x c) :
    Orderly nonce commands (removeAndAct nonce s x c) := by
  obtain ⟨rfl, hwritten, -, -⟩ := h.reading x c hpoint
  have hbefore := h.acted_before hpoint
  have hnonce : c.nonce = nonce := hplan.nonces c (h.planned ▸ List.mem_append_left _ hwritten)
  cases c with
  | start n =>
    -- nothing comes before a start, so the target is still ready
    have hnone : ∀ a ∈ s.acted, False := fun a ha => absurd (hbefore a ha) (Nat.not_lt_zero _)
    have hready := h.ready fun a ha => (hnone a ha).elim
    have hzero := h.unrefaulted fun a ha => (hnone a ha).elim
    simp only [CommandProtocol.removeAndAct, act, hnonce, hready,
      CapacityExternalTargetCommand.file, ne_eq, not_true_eq_false, if_false]
    refine h.performed hplan hpoint ?_ nofun nofun nofun (fun _ => rfl) ?_ (fun _ => hzero)
    · intro y hy
      cases hy
      rfl
    · intro hstart
      exact absurd rfl (hstart (.start n) (by simp))
  | refaultCold n =>
    have hstarted := h.started hplan hpoint Nat.one_pos
    have hactive := h.active ⟨_, hstarted, rfl⟩
    have hzero := h.unrefaulted fun a ha hfile => by
      have := hbefore a ha
      rw [hfile] at this
      exact absurd this (Nat.lt_irrefl _)
    simp only [CommandProtocol.removeAndAct, act, hnonce, hactive, hzero,
      CapacityExternalTargetCommand.file, ne_eq, not_true_eq_false, or_self, if_false]
    refine h.performed hplan hpoint ?_ nofun nofun nofun (fun _ => rfl) ?_ ?_
    · intro y hy
      cases hy
      rfl
    · intro hstart
      exact absurd rfl (hstart (.start nonce) (by simp [hstarted]))
    · intro hrefault
      exact absurd rfl (hrefault (.refaultCold n) (by simp))
  | stop n =>
    have hstarted := h.started hplan hpoint Nat.two_pos
    have hactive := h.active ⟨_, hstarted, rfl⟩
    simp only [CommandProtocol.removeAndAct, act, hnonce, CapacityExternalTargetCommand.file, ne_eq,
      not_true_eq_false, if_false]
    refine h.performed hplan hpoint nofun nofun (fun _ => rfl) nofun (fun _ => hactive) ?_ ?_
    · intro hstart
      exact absurd rfl (hstart (.start nonce) (by simp [hstarted]))
    · intro hrefault
      exact h.unrefaulted fun a ha => hrefault a (by simp [ha])

theorem Orderly.poll (h : Orderly nonce commands s) (hplan : WellPlanned nonce commands)
    (hmove : poll nonce s = some s') : Orderly nonce commands s' := by
  unfold CommandProtocol.poll at hmove
  cases hpoint : s.point with
  | top =>
    simp only [hpoint, Option.some.injEq] at hmove
    subst hmove
    have hstop := h.no_stop (by simp [hpoint]) (by simp [hpoint])
    -- a round begins at the first file, so nothing is behind it
    refine h.moveOn ?_ nofun (fun a ha hfile => absurd hfile (hstop a ha)) nofun
    intro x hx f g hf
    obtain rfl : CommandFile.start = x := Option.some.inj hx
    exact absurd hf (Nat.not_lt_zero _)
  | check x =>
    cases hx : s.files x with
    | none =>
      simp only [hpoint, hx, Option.some.injEq] at hmove
      subst hmove
      exact h.past hpoint hx
    | some c =>
      simp only [hpoint, hx, Option.some.injEq] at hmove
      subst hmove
      exact h.read hpoint hx
  | remove x c =>
    simp only [hpoint, Option.some.injEq] at hmove
    subst hmove
    exact h.removeAndAct hplan hpoint
  | progress =>
    simp only [hpoint, Option.some.injEq] at hmove
    subst hmove
    have hstop := h.no_stop (by simp [hpoint]) (by simp [hpoint])
    exact h.rest rfl (fun a ha hfile => absurd hfile (hstop a ha)) nofun
  | stopping =>
    simp only [hpoint, Option.some.injEq] at hmove
    subst hmove
    exact h.rest rfl (fun _ _ _ => .inr ⟨_, rfl⟩) nofun
  | ended r =>
    simp [hpoint] at hmove

theorem Orderly.expire (h : Orderly nonce commands s) (hmove : move nonce s .expire = some s') :
    Orderly nonce commands s' := by
  simp only [move] at hmove
  split at hmove
  · obtain rfl : _ = s' := Option.some.inj hmove
    exact h.rest rfl (fun _ _ _ => .inl rfl) nofun
  · cases hmove

theorem Orderly.fail (h : Orderly nonce commands s) {text : String}
    (hmove : move nonce s (.fail text) = some s') : Orderly nonce commands s' := by
  simp only [move] at hmove
  split at hmove
  · cases hmove
  · obtain rfl : _ = s' := Option.some.inj hmove
    apply h.rest rfl (fun _ _ _ => .inr ⟨_, rfl⟩)
    intro e he
    cases he
    exact ⟨text, rfl⟩

/-- One timely step keeps the order. -/
theorem Orderly.move (h : Orderly nonce commands s) (hplan : WellPlanned nonce commands)
    {m : SessionMove} (htimely : Timely s m) (hmove : move nonce s m = some s') :
    Orderly nonce commands s' := by
  cases m with
  | write => exact h.writeCommand hplan htimely hmove
  | poll => exact h.poll hplan hmove
  | expire => exact h.expire hmove
  | fail text => exact h.fail hmove

/-- A timely run keeps the order. -/
theorem Orderly.timelyRun (h : Orderly nonce commands s) (hplan : WellPlanned nonce commands)
    (hrun : TimelyRun nonce s s') : Orderly nonce commands s' := by
  induction hrun with
  | refl => exact h
  | tail _ hstep ih =>
    obtain ⟨m, htimely, hmove⟩ := hstep
    exact ih.move hplan htimely hmove

end Preserved

/-! ## §5 The commands are acted upon in order -/

/-- Of a list in which ranks do not fall, a list of its members with rising ranks is a part. -/
theorem sublist_of_rising {acted written : List CapacityExternalTargetCommand}
    (hwritten : written.Pairwise Follows)
    (hacted : acted.Pairwise fun a b => a.file.rank < b.file.rank)
    (hmem : ∀ a ∈ acted, a ∈ written) : acted.Sublist written := by
  induction written generalizing acted with
  | nil =>
    have hnil : acted = [] := List.eq_nil_iff_forall_not_mem.2 fun a ha => by simpa using hmem a ha
    simp [hnil]
  | cons w written ih =>
    obtain ⟨hw, htail⟩ := List.pairwise_cons.1 hwritten
    cases acted with
    | nil => exact List.nil_sublist _
    | cons a acted =>
      obtain ⟨ha, hrest⟩ := List.pairwise_cons.1 hacted
      by_cases haw : a = w
      · subst haw
        refine (ih htail hrest ?_).cons_cons a
        intro b hb
        rcases List.mem_cons.1 (hmem b (List.mem_cons_of_mem _ hb)) with rfl | hb'
        · exact absurd (ha _ hb) (Nat.lt_irrefl _)
        · exact hb'
      · -- `w` was not acted upon: it stands in front of `a`, whose rank is not below its own
        have hamem : a ∈ written := by
          rcases List.mem_cons.1 (hmem a List.mem_cons_self) with h | h
          · exact absurd h haw
          · exact h
        refine (ih htail hacted ?_).cons w
        intro b hb
        rcases List.mem_cons.1 hb with rfl | hb
        · exact hamem
        · rcases List.mem_cons.1 (hmem b (List.mem_cons_of_mem _ hb)) with rfl | hb'
          · have hab := ha _ hb
            rcases hw a hamem with hlt | ⟨hstop, hstop'⟩
            · omega
            · rw [hstop, hstop'] at hab
              exact absurd hab (Nat.lt_irrefl _)
          · exact hb'

theorem Orderly.inOrder {nonce : String} {commands : List CapacityExternalTargetCommand}
    {s : TargetSession} (h : Orderly nonce commands s) (hplan : WellPlanned nonce commands) :
    InOrder s where
  once := by
    have hlt : (s.acted.map CapacityExternalTargetCommand.file).Pairwise
        fun f g => f.rank < g.rank := List.pairwise_map.2 h.increasing
    apply hlt.imp
    rintro f g hfg rfl
    exact absurd hfg (Nat.lt_irrefl _)
  ordered := by
    have hpair := hplan.follows
    rw [← h.planned] at hpair
    exact sublist_of_rising (List.pairwise_append.1 hpair).1 h.increasing h.actedWritten
  accepted := h.accepted
  complete := by
    intro a ha hstop c hc hne
    rcases h.processed c hc hne with hacted | hfiled
    · exact hacted
    · refine absurd (h.consumed a ha c.file ?_ hne) hfiled
      rw [hstop]
      exact c.file.rank_le_stop

/-- In every interleaving in which no command is written behind the round, while an earlier one
    is still unread, the target acts upon each kind of command at most once and in the order
    written, refuses none of them, and acts upon a stop only after everything before it. -/
theorem timelyRun_inOrder (nonce : String) (refault : Bool) (moreStops : ℕ) (s : TargetSession)
    (h : TimelyRun nonce (readySession (commandPlan nonce refault moreStops)) s) : InOrder s :=
  (orderly_readySession.timelyRun (wellPlanned_commandPlan nonce refault moreStops) h).inOrder
    (wellPlanned_commandPlan nonce refault moreStops)

/-- A start that is written when the round has passed its file and nothing lies in a file before
    it, a refault after the last look of that round, and a stop when the start has been read and
    is not yet removed. -/
theorem punctual_commands_inOrder :
    ∃ s, TimelyRun "7f" (readySession (commandPlan "7f" true 0)) s ∧ s.published = .stopped ∧
      s.acted = commandPlan "7f" true 0 ∧ InOrder s := by
  have hrun : TimelyRun "7f" (readySession (commandPlan "7f" true 0)) _ :=
    .head ⟨.poll, trivial, rfl⟩ <| .head ⟨.poll, trivial, rfl⟩ <| .head ⟨.poll, trivial, rfl⟩ <|
    .head ⟨.write, fun _ _ _ _ _ _ hfiled => absurd rfl hfiled, rfl⟩ <|
    .head ⟨.poll, trivial, rfl⟩ <|
    -- the start lies in its file, and the round is over
    .head ⟨.write, fun _ _ _ _ _ _ _ h => (by cases h), rfl⟩ <|
    .head ⟨.poll, trivial, rfl⟩ <| .head ⟨.poll, trivial, rfl⟩ <| .head ⟨.poll, trivial, rfl⟩ <|
    -- both lie in their files, and the round is at the first
    .head ⟨.write, fun _ _ _ _ _ _ _ h => (by cases h), rfl⟩ <|
    .head ⟨.poll, trivial, rfl⟩ <| .head ⟨.poll, trivial, rfl⟩ <| .head ⟨.poll, trivial, rfl⟩ <|
    .head ⟨.poll, trivial, rfl⟩ <| .head ⟨.poll, trivial, rfl⟩ <| .single ⟨.poll, trivial, rfl⟩
  exact ⟨_, hrun, rfl, rfl, timelyRun_inOrder "7f" true 0 _ hrun⟩

theorem sessionRun_of_moves {nonce : String} {s s' : TargetSession} (moves : List SessionMove)
    (h : moves.foldlM (move nonce) s = some s') : SessionRun nonce s s' := by
  induction moves generalizing s with
  | nil =>
    obtain rfl : s = s' := Option.some.inj h
    exact .refl
  | cons m moves ih =>
    obtain ⟨t, ht, hrest⟩ := Option.bind_eq_some_iff.1 h
    exact .head ⟨m, ht⟩ (ih hrest)

/-- Written between two looks of one round, a start is missed: the refault behind it is refused,
    and the stop behind it is acted upon with the start still in its file. -/
theorem commands_between_looks_out_of_order :
    (∃ s, SessionRun "7f" (readySession (commandPlan "7f" true 0)) s ∧
      s.point = .ended (.error .coldRefault) ∧ ¬ InOrder s) ∧
    (∃ s, SessionRun "7f" (readySession (commandPlan "7f" false 0)) s ∧ s.published = .stopped ∧
      s.acted = [.stop "7f"] ∧ .start "7f" ∈ s.written ∧ ¬ InOrder s) := by
  constructor
  · refine ⟨_, sessionRun_of_moves [.poll, .poll, .write, .write, .poll, .poll] rfl, rfl, ?_⟩
    intro h
    obtain ⟨text, htext⟩ := h.accepted .coldRefault rfl
    cases htext
  · refine ⟨_, sessionRun_of_moves
      [.poll, .poll, .poll, .write, .write, .poll, .poll, .poll] rfl, rfl, rfl, by decide, ?_⟩
    intro h
    have hstart := h.complete (.stop "7f") (by decide) rfl (.start "7f") (by decide) (by decide)
    revert hstart
    decide

end Nemor.Capacity.CommandProtocol
