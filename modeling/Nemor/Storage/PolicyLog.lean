import Mathlib.Data.List.Chain
import Nemor.Lib.Machine
import Nemor.Lib.Table
import Nemor.Policy.Hysteresis

/-!
# The log of policy decisions

`insert_policy_decision` leaves out a decision that repeats the last stored one, until the
heartbeat interval has passed. The log is then smaller than the history. §3 says what it
still tells: the last row up to a time is the decision that was in force at that time.
-/

namespace Nemor.Storage

open MachineNumbers Log Policy

/-! ## §1 The table -/

/-- An error with the context the code adds to it. -/
structure StorageError where
  context : Option String
  cause : String
  deriving DecidableEq

/-- The state, as the column holds it. -/
def stateText : PressureState → String
  | .normal => "NORMAL"
  | .watch => "WATCH"
  | .pressure => "PRESSURE"
  | .critical => "CRITICAL"
  | .emergency => "EMERGENCY"
  | .stabilizing => "STABILIZING"

/-- The part of a decision that is kept as JSON. -/
structure PolicyActionAudit where
  previousState : Option PressureState
  stateChanged : Bool
  stateSinceNs : Int64
  candidateState : Option PressureState
  evidence : List PolicyEvidence
  rejectedCandidates : List CandidateRejection
  plannedActions : List PlannedAction
  rejectedActions : List RejectedAction
  dryRun : Bool
  transitionReason : String

/-- What is kept of a decision for an audit. -/
def PolicyActionAudit.of (value : PolicyDecision) : PolicyActionAudit where
  previousState := value.previousState
  stateChanged := value.stateChanged
  stateSinceNs := value.stateSinceNs
  candidateState := value.candidateState
  evidence := value.evidence
  rejectedCandidates := value.rejectedCandidates
  plannedActions := value.plannedActions
  rejectedActions := value.rejectedActions
  dryRun := value.dryRun
  transitionReason := value.transitionReason

/-- A row of `policy_decisions`. The JSON columns are the values they encode: only the planned
    and the rejected actions are ever read back, and these hold no floating-point numbers. The
    columns that are always NULL are left out. -/
structure PolicyDecisionRow where
  sessionId : Int64
  timestampNs : Int64
  pressureState : String
  policyName : String
  inputFeatures : PolicyInput
  actions : PolicyActionAudit
  ruleVersion : String

/-- The table with the sessions its foreign key refers to. -/
structure PolicyDatabase where
  sessions : Finset Int64
  policyDecisions : Table PolicyDecisionRow

/-- A table without a row. -/
def PolicyDatabase.fresh (sessions : Finset Int64) : PolicyDatabase := ⟨sessions, .empty⟩

/-! ## §2 Inserting a decision -/

/-- The heartbeat in nanoseconds, capped at the largest timestamp. -/
def heartbeatNs (heartbeatSeconds : UInt64) : Int64 :=
  (tryFromNat (min (heartbeatSeconds.toNat * 1000000000) (2 ^ 128 - 1))).getD Int64.maxValue

theorem toInt_heartbeatNs (heartbeatSeconds : UInt64) :
    (heartbeatNs heartbeatSeconds).toInt =
      min ((heartbeatSeconds.toNat : ℤ) * 1000000000) (2 ^ 63 - 1) := by
  have hlt := heartbeatSeconds.toNat_lt
  rw [heartbeatNs, toInt_tryFromNat_getD]
  omega

/-- One call of `insert_policy_decision`, with what SQLite may report for the two statements
    of the method. -/
structure PolicyCall where
  sessionId : Int64
  decision : PolicyDecision
  heartbeatSeconds : UInt64
  readFault : Option String
  insertFault : Option String

namespace PolicyCall

/-- When the decision was. -/
def time (call : PolicyCall) : ℤ := call.decision.timestampNs.toInt

/-- The row the call stores. -/
def row (call : PolicyCall) : PolicyDecisionRow where
  sessionId := call.sessionId
  timestampNs := call.decision.timestampNs
  pressureState := stateText call.decision.currentState
  policyName := call.decision.policyName
  inputFeatures := call.decision.inputFeatures
  actions := PolicyActionAudit.of call.decision
  ruleVersion := call.decision.ruleVersion

/-- The row says the same as the decision and is within the heartbeat interval. -/
def Repeats (call : PolicyCall) (old : PolicyDecisionRow) : Bool :=
  old.pressureState = stateText call.decision.currentState &&
    (old.actions.plannedActions = call.decision.plannedActions &&
      old.actions.rejectedActions = call.decision.rejectedActions) &&
    saturatingSub call.decision.timestampNs old.timestampNs < heartbeatNs call.heartbeatSeconds

end PolicyCall

/-- When the decision of a row was. -/
def PolicyDecisionRow.time (row : PolicyDecisionRow) : ℤ := row.timestampNs.toInt

namespace PolicyDatabase

/-- `WHERE session_id=?1 ORDER BY timestamp_ns DESC, id DESC LIMIT 1`. -/
def previous (db : PolicyDatabase) (sessionId : Int64) : Option PolicyDecisionRow :=
  db.policyDecisions.latest PolicyDecisionRow.time fun r => decide (r.sessionId = sessionId)

/-- `insert_policy_decision`: `false` for a decision that was left out. -/
def insertPolicyDecision (db : PolicyDatabase) (call : PolicyCall) :
    PolicyDatabase × Except StorageError Bool :=
  match call.readFault with
  -- the query for the last row carries a context, the INSERT does not
  | some cause => (db, .error ⟨some "cannot read previous policy decision", cause⟩)
  | none =>
    if (db.previous call.sessionId).any call.Repeats then (db, .ok false)
    else
      match call.insertFault with
      | some cause => (db, .error ⟨none, cause⟩)
      | none =>
        -- the foreign key is checked by the INSERT, so a repetition is left out before it
        if call.sessionId ∉ db.sessions then
          (db, .error ⟨none, "FOREIGN KEY constraint failed"⟩)
        else
          ({ db with policyDecisions := db.policyDecisions.insert call.row }, .ok true)

/-- A call fails and changes nothing, is left out as a repetition, or stores its row. -/
theorem insertPolicyDecision_cases (db : PolicyDatabase) (call : PolicyCall) :
    (∃ e, db.insertPolicyDecision call = (db, .error e)) ∨
      (∃ old, db.previous call.sessionId = some old ∧ call.Repeats old ∧
        db.insertPolicyDecision call = (db, .ok false)) ∨
      ((∀ old, db.previous call.sessionId = some old → ¬ call.Repeats old) ∧
        db.insertPolicyDecision call =
          ({ db with policyDecisions := db.policyDecisions.insert call.row }, .ok true)) := by
  unfold insertPolicyDecision
  cases call.readFault with
  | some cause => exact .inl ⟨_, rfl⟩
  | none =>
    dsimp only
    by_cases hrepeats : (db.previous call.sessionId).any call.Repeats
    · obtain ⟨old, hold, hr⟩ := (Option.any_eq_true _ _).1 hrepeats
      exact .inr (.inl ⟨old, hold, hr, by rw [if_pos hrepeats]⟩)
    · rw [if_neg hrepeats]
      cases call.insertFault with
      | some cause => exact .inl ⟨_, rfl⟩
      | none =>
        by_cases hsession : call.sessionId ∈ db.sessions
        · right; right
          refine ⟨?_, by simp [hsession]⟩
          intro old hold hr
          exact hrepeats ((Option.any_eq_true _ _).2 ⟨old, hold, hr⟩)
        · exact .inl ⟨⟨none, "FOREIGN KEY constraint failed"⟩, by simp [hsession]⟩

end PolicyDatabase

/-! ## §3 What the log tells -/

/-- The calls so far with their answers. -/
abbrev PolicyTranscript := List (PolicyCall × Except StorageError Bool)

/-- The call was made for the session and answered without an error. -/
def Accepted (sid : Int64) (e : PolicyCall × Except StorageError Bool) : Prop :=
  e.1.sessionId = sid ∧ ∃ b, e.2 = .ok b

/-- The answer of a call that stored its row. -/
def isStored : Except StorageError Bool → Bool
  | .ok stored => stored
  | .error _ => false

/-- The calls of the session that stored a row. -/
def storedCalls (sid : Int64) (log : PolicyTranscript) : List PolicyCall :=
  (log.filter fun e => decide (e.1.sessionId = sid) && isStored e.2).map Prod.fst

theorem storedCalls_snoc (sid : Int64) (log : PolicyTranscript)
    (e : PolicyCall × Except StorageError Bool) :
    storedCalls sid (log ++ [e]) =
      storedCalls sid log ++ if e.1.sessionId = sid ∧ isStored e.2 then [e.1] else [] := by
  unfold storedCalls
  by_cases hsid : e.1.sessionId = sid <;> by_cases hst : isStored e.2 <;>
    simp [List.filter_append, hsid, hst]

/-- A stored call was made for the session and is in the log. -/
theorem mem_storedCalls {sid : Int64} {log : PolicyTranscript} {call : PolicyCall}
    (h : call ∈ storedCalls sid log) : call.sessionId = sid ∧ ∃ e ∈ log, e.1 = call := by
  obtain ⟨e, he, rfl⟩ := List.mem_map.1 h
  obtain ⟨hmem, hsid⟩ := List.mem_filter.1 he
  simp only [Bool.and_eq_true, decide_eq_true_eq] at hsid
  exact ⟨hsid.1, e, hmem, rfl⟩

/-- The timestamps of the session's calls never go back. -/
def InOrder (sid : Int64) (a b : PolicyCall) : Prop :=
  a.sessionId = sid → b.sessionId = sid → a.time ≤ b.time

/-- The last stored row of the session with a timestamp of at most `t`. -/
def PolicyDatabase.latestAt (db : PolicyDatabase) (sid : Int64) (t : ℤ) :
    Option PolicyDecisionRow :=
  db.policyDecisions.latest PolicyDecisionRow.time fun r =>
    decide (r.sessionId = sid) && decide (r.time ≤ t)

/-- The row has the decision's state, planned and rejected actions. -/
structure PolicyDecisionRow.Tells (row : PolicyDecisionRow) (d : PolicyDecision) : Prop where
  state : row.pressureState = stateText d.currentState
  planned : row.actions.plannedActions = d.plannedActions
  rejected : row.actions.rejectedActions = d.rejectedActions

/-- Two rows with the same state, planned and rejected actions are a heartbeat apart, that of
    the call which stored the second one. -/
def HeartbeatApart (a b : PolicyCall) : Prop :=
  a.row.Tells b.decision →
    min ((b.heartbeatSeconds.toNat : ℤ) * 1000000000) (2 ^ 63 - 1) ≤ b.time - a.time

/-- What the table says about the calls of a session. -/
structure Faithful (sid : Int64) (log : PolicyTranscript) (db : PolicyDatabase) : Prop where
  rows : db.policyDecisions.select (fun r => decide (r.sessionId = sid)) =
    (storedCalls sid log).map PolicyCall.row
  last : db.previous sid = (storedCalls sid log).getLast?.map PolicyCall.row
  /-- The last decision of each timestamp can be read back. -/
  lossless : ∀ pre e post, log = pre ++ e :: post → Accepted sid e →
    (∀ later ∈ post, Accepted sid later → later.1.time ≠ e.1.time) →
    ∃ row, db.latestAt sid e.1.time = some row ∧ row.Tells e.1.decision
  apart : (storedCalls sid log).IsChain HeartbeatApart

theorem faithful_fresh (sid : Int64) (sessions : Finset Int64) :
    Faithful sid [] (.fresh sessions) where
  rows := rfl
  last := rfl
  lossless := by
    intro pre e post h
    simp at h
  apart := List.IsChain.nil

/-! ### The kinds of calls -/

/-- What a call leaves alone: it changed nothing the session's rows show, and it is no accepted
    call of the session. -/
theorem Faithful.unseen {sid : Int64} {log : PolicyTranscript} {db db' : PolicyDatabase}
    (h : Faithful sid log db) (e : PolicyCall × Except StorageError Bool)
    (hnot : ¬ Accepted sid e)
    (hrows : ∀ p : PolicyDecisionRow → Bool, (∀ r, r.sessionId ≠ sid → p r = false) →
      db'.policyDecisions.select p = db.policyDecisions.select p ∧
        db'.policyDecisions.latest PolicyDecisionRow.time p =
          db.policyDecisions.latest PolicyDecisionRow.time p) :
    Faithful sid (log ++ [e]) db' := by
  have hstored : storedCalls sid (log ++ [e]) = storedCalls sid log := by
    rw [storedCalls_snoc, if_neg, List.append_nil]
    rintro ⟨hsid, hst⟩
    apply hnot
    obtain ⟨call, answer⟩ := e
    cases answer with
    | error err => simp [isStored] at hst
    | ok b => exact ⟨hsid, b, rfl⟩
  have hsid : ∀ r : PolicyDecisionRow, r.sessionId ≠ sid → decide (r.sessionId = sid) = false :=
    fun r hr => by simp [hr]
  refine ⟨?_, ?_, ?_, ?_⟩
  · -- every query of the session reads the rows as they were
    rw [hstored, (hrows _ hsid).1]
    exact h.rows
  · rw [hstored, PolicyDatabase.previous, (hrows _ hsid).2]
    exact h.last
  · intro pre a post hlog hacc hlater
    rcases split_snoc hlog with ⟨-, rfl, -⟩ | ⟨post', rfl, hlog'⟩
    · exact absurd hacc hnot
    · obtain ⟨row, hrow, htells⟩ := h.lossless pre a post' hlog' hacc fun b hb =>
        hlater b (by simp [hb])
      refine ⟨row, ?_, htells⟩
      rw [PolicyDatabase.latestAt, (hrows _ fun r hr => by simp [hr]).2]
      exact hrow
  · rw [hstored]
    exact h.apart

/-- The rows of the session are not newer than its next call. -/
theorem Faithful.rows_le {sid : Int64} {log : PolicyTranscript} {db : PolicyDatabase}
    (h : Faithful sid log db) {call : PolicyCall} (hsid : call.sessionId = sid)
    (horder : ∀ e ∈ log, InOrder sid e.1 call) :
    ∀ r ∈ db.policyDecisions.select (fun r => decide (r.sessionId = sid)), r.time ≤ call.time := by
  rw [h.rows]
  intro r hr
  obtain ⟨stored, hstored, rfl⟩ := List.mem_map.1 hr
  obtain ⟨hs, e, he, rfl⟩ := mem_storedCalls hstored
  exact horder e he hs hsid

/-- A repetition leaves the last row in force. -/
theorem Faithful.repeated {sid : Int64} {log : PolicyTranscript} {db : PolicyDatabase}
    (h : Faithful sid log db) {call : PolicyCall} (hsid : call.sessionId = sid)
    (horder : ∀ e ∈ log, InOrder sid e.1 call) {old : PolicyDecisionRow}
    (hold : db.previous sid = some old) (hrep : call.Repeats old) :
    Faithful sid (log ++ [(call, .ok false)]) db := by
  have hstored : storedCalls sid (log ++ [(call, .ok false)]) = storedCalls sid log := by
    simp [storedCalls_snoc, isStored]
  refine ⟨?_, ?_, ?_, ?_⟩
  · rw [hstored]
    -- no row is written: what the table says of earlier decisions stays
    exact h.rows
  · rw [hstored]
    exact h.last
  · intro pre a post hlog hacc hlater
    rcases split_snoc hlog with ⟨-, rfl, -⟩ | ⟨post', rfl, hlog'⟩
    · -- the call itself: no row is newer, so the last row is the last one up to its time
      refine ⟨old, ?_, ?_⟩
      · rw [← hold]
        apply Table.latest_congr
        intro r hr
        by_cases hr' : r.2.sessionId = sid
        · have hle := h.rows_le hsid horder r.2 (Table.mem_select.2 ⟨⟨r.1, hr⟩, by simp [hr']⟩)
          simp [hr', hle]
        · simp [hr']
      · simp only [PolicyCall.Repeats, Bool.and_eq_true, decide_eq_true_eq] at hrep
        exact ⟨hrep.1.1, hrep.1.2.1, hrep.1.2.2⟩
    · exact h.lossless pre a post' hlog' hacc fun b hb => hlater b (by simp [hb])
  · rw [hstored]
    exact h.apart

/-- A row that does not repeat the last one, or comes a heartbeat later. -/
theorem PolicyCall.heartbeatApart_of_not_repeats {a call : PolicyCall} (hle : a.time ≤ call.time)
    (hnot : ¬ call.Repeats a.row) : HeartbeatApart a call := by
  intro htells
  have hnlt : ¬ saturatingSub call.decision.timestampNs a.row.timestampNs <
      heartbeatNs call.heartbeatSeconds := by
    intro hlt
    apply hnot
    simp only [PolicyCall.Repeats, Bool.and_eq_true, decide_eq_true_eq]
    exact ⟨⟨htells.state, htells.planned, htells.rejected⟩, hlt⟩
  have hsub := toInt_saturatingSub_of_le (a := call.decision.timestampNs)
    (b := a.row.timestampNs) hle
  rw [Int64.lt_iff_toInt_lt, toInt_heartbeatNs, hsub] at hnlt
  show _ ≤ call.decision.timestampNs.toInt - a.row.timestampNs.toInt
  omega

/-- A stored row is in force from its time on. -/
theorem Faithful.stored {sid : Int64} {log : PolicyTranscript} {db : PolicyDatabase}
    (h : Faithful sid log db) {call : PolicyCall} (hsid : call.sessionId = sid)
    (horder : ∀ e ∈ log, InOrder sid e.1 call)
    (hnot : ∀ old, db.previous sid = some old → ¬ call.Repeats old) :
    Faithful sid (log ++ [(call, .ok true)])
      { db with policyDecisions := db.policyDecisions.insert call.row } := by
  have hstored : storedCalls sid (log ++ [(call, .ok true)]) = storedCalls sid log ++ [call] := by
    simp [storedCalls_snoc, isStored, hsid]
  have hrow : call.row.sessionId = sid := hsid
  have hle := h.rows_le hsid horder
  refine ⟨?_, ?_, ?_, ?_⟩
  · rw [hstored, Table.select_insert, h.rows]
    simp [hrow]
  · rw [hstored, PolicyDatabase.previous, Table.latest_insert (by simp [hrow]) hle]
    simp
  · intro pre a post hlog hacc hlater
    rcases split_snoc hlog with ⟨-, rfl, -⟩ | ⟨post', rfl, hlog'⟩
    · -- the call itself: its row is the last one up to its own time
      refine ⟨call.row, ?_, rfl, rfl, rfl⟩
      apply Table.latest_insert
      · simp [hsid, PolicyDecisionRow.time, PolicyCall.row, PolicyCall.time]
      · intro r hr
        obtain ⟨hmem, hr'⟩ := Table.mem_select.1 hr
        simp only [Bool.and_eq_true, decide_eq_true_eq] at hr'
        exact hr'.2
    · -- an earlier decision: the new row is strictly newer
      have hle' := horder a (by simp [hlog']) hacc.1 hsid
      have hne : call.time ≠ a.1.time := hlater (call, .ok true) (by simp) ⟨hsid, true, rfl⟩
      have hgt : ¬ call.row.time ≤ a.1.time := fun hge => hne (le_antisymm hge hle')
      obtain ⟨row, hrow', htells⟩ := h.lossless pre a post' hlog' hacc fun b hb =>
        hlater b (by simp [hb])
      refine ⟨row, ?_, htells⟩
      rw [PolicyDatabase.latestAt, Table.latest_insert_other (by simp [hgt])]
      exact hrow'
  · rw [hstored]
    -- only the row before the new one matters, and it is the one the call was compared with
    refine List.isChain_append.2 ⟨h.apart, List.isChain_singleton call, ?_⟩
    intro a ha b hb
    simp only [List.head?_cons, Option.mem_def, Option.some.injEq] at hb
    subst hb
    have hlast : db.previous sid = some a.row := by
      rw [h.last, ha]
      rfl
    have htime : a.time ≤ call.time := by
      obtain ⟨hs, e, he, rfl⟩ := mem_storedCalls (List.mem_of_getLast? ha)
      exact horder e he hs hsid
    exact PolicyCall.heartbeatApart_of_not_repeats htime (hnot a.row hlast)

/-- One call keeps the table faithful. -/
theorem Faithful.call {sid : Int64} {log : PolicyTranscript} {db : PolicyDatabase}
    (h : Faithful sid log db) (call : PolicyCall) (horder : ∀ e ∈ log, InOrder sid e.1 call) :
    Faithful sid (log ++ [(call, (db.insertPolicyDecision call).2)])
      (db.insertPolicyDecision call).1 := by
  -- a call that failed or was made for another session is unseen
  rcases db.insertPolicyDecision_cases call with ⟨err, heq⟩ | ⟨old, hold, hrep, heq⟩ | ⟨hnot, heq⟩
  · rw [heq]
    apply h.unseen
    · rintro ⟨-, b, hb⟩
      cases hb
    · intro p _
      exact ⟨rfl, rfl⟩
  · rw [heq]
    by_cases hsid : call.sessionId = sid
    · subst hsid
      exact h.repeated rfl horder hold hrep
    · apply h.unseen
      · exact fun hacc => hsid hacc.1
      · intro p _
        exact ⟨rfl, rfl⟩
  · rw [heq]
    by_cases hsid : call.sessionId = sid
    · subst hsid
      exact h.stored rfl horder hnot
    · apply h.unseen
      · exact fun hacc => hsid hacc.1
      · intro p hp
        have hrow : p call.row = false := hp call.row hsid
        refine ⟨?_, Table.latest_insert_other hrow⟩
        rw [Table.select_insert, hrow]
        simp

/-- The calls of a list, made one after the other on a table without rows. -/
def policyTranscript (sessions : Finset Int64) (calls : List PolicyCall) : PolicyTranscript :=
  Machine.transcript PolicyDatabase.insertPolicyDecision (.fresh sessions) calls

/-- The table after a sequence of calls. -/
def policyDatabaseAfter (sessions : Finset Int64) (calls : List PolicyCall) : PolicyDatabase :=
  Machine.after PolicyDatabase.insertPolicyDecision (.fresh sessions) calls

/-- **The decision log.** Calls may be made for any sessions and may fail. For a session whose
    timestamps never go back: the stored rows are those of the calls that were answered with
    `true`; for the last accepted decision of each timestamp the last row up to that time has
    its state, its planned and its rejected actions; and two rows in a row with the same state
    and actions are at least a heartbeat apart. -/
theorem policy_log_faithful (sid : Int64) (sessions : Finset Int64) (calls : List PolicyCall)
    (horder : calls.Pairwise (InOrder sid)) :
    Faithful sid (policyTranscript sessions calls) (policyDatabaseAfter sessions calls) := by
  apply Machine.transcript_induction_pairwise PolicyDatabase.insertPolicyDecision (InOrder sid)
    (Faithful sid) (faithful_fresh sid sessions) _ horder
  intro log db call hnew hlog
  exact hlog.call call hnew

/-- A decision at a time with nothing planned, and its call for the first session. -/
def callAt (timestampNs : Int64) (state : PressureState) (heartbeatSeconds : UInt64) :
    PolicyCall where
  sessionId := 1
  decision :=
    { timestampNs := timestampNs
      currentState := state
      previousState := none
      stateChanged := false
      stateSinceNs := timestampNs
      candidateState := none
      policyName := Policy.policyName
      ruleVersion := Policy.ruleVersion
      inputFeatures := inputAt timestampNs 50 0 0
      evidence := []
      rejectedCandidates := []
      plannedActions := []
      rejectedActions := []
      expectedGainBytes := none
      expectedCostScore := none
      dryRun := true
      transitionReason := "" }
  heartbeatSeconds := heartbeatSeconds
  readFault := none
  insertFault := none

/-- A repetition after one second is left out, one after two heartbeats is stored. -/
theorem policy_log_heartbeat :
    (policyTranscript {1} [callAt 1 .normal 300, callAt 1000000001 .normal 300,
        callAt 600000000001 .normal 300]).map Prod.snd = [.ok true, .ok false, .ok true] ∧
      Faithful 1 (policyTranscript {1} [callAt 1 .normal 300, callAt 1000000001 .normal 300,
          callAt 600000000001 .normal 300])
        (policyDatabaseAfter {1} [callAt 1 .normal 300, callAt 1000000001 .normal 300,
          callAt 600000000001 .normal 300]) :=
  ⟨rfl, policy_log_faithful 1 _ _ (by simp [InOrder, PolicyCall.time, callAt])⟩

/-- Of two decisions with one timestamp the later row hides the earlier one, and a heartbeat
    beyond the range of timestamps counts as the end of that range. -/
theorem policy_log_loses :
    ([callAt 1 .normal 300, callAt 1 .emergency 300].Pairwise (InOrder 1) ∧
      ¬ ∀ e ∈ policyTranscript {1} [callAt 1 .normal 300, callAt 1 .emergency 300],
        Accepted 1 e → ∃ row, (policyDatabaseAfter {1} [callAt 1 .normal 300,
          callAt 1 .emergency 300]).latestAt 1 e.1.time = some row ∧ row.Tells e.1.decision) ∧
    ([callAt 0 .normal 18446744073709551615,
        callAt Int64.maxValue .normal 18446744073709551615].Pairwise (InOrder 1) ∧
      ¬ (storedCalls 1 (policyTranscript {1} [callAt 0 .normal 18446744073709551615,
          callAt Int64.maxValue .normal 18446744073709551615])).IsChain fun a b =>
        a.row.Tells b.decision →
          (b.heartbeatSeconds.toNat : ℤ) * 1000000000 ≤ b.time - a.time) := by
  have hmax : (0 : ℤ) ≤ Int64.maxValue.toInt := by decide
  refine ⟨⟨by simp [InOrder, PolicyCall.time, callAt], ?_⟩,
    by simp [InOrder, PolicyCall.time, callAt, hmax], ?_⟩
  · intro h
    obtain ⟨row, hrow, htells⟩ :=
      h (callAt 1 .normal 300, .ok true) (List.Mem.head _) ⟨rfl, true, rfl⟩
    have hlast : (policyDatabaseAfter {1} [callAt 1 .normal 300, callAt 1 .emergency 300]).latestAt
        1 (callAt 1 .normal 300).time = some (callAt 1 .emergency 300).row := rfl
    rw [hlast] at hrow
    cases hrow
    have hstate : stateText .emergency = stateText .normal := htells.state
    exact absurd hstate (by decide)
  · have hstored : storedCalls 1 (policyTranscript {1} [callAt 0 .normal 18446744073709551615,
        callAt Int64.maxValue .normal 18446744073709551615]) =
        [callAt 0 .normal 18446744073709551615,
          callAt Int64.maxValue .normal 18446744073709551615] := rfl
    rw [hstored]
    intro h
    have hapart := (List.isChain_cons_cons.1 h).1 ⟨rfl, rfl, rfl⟩
    exact absurd hapart (by decide)

end Nemor.Storage
