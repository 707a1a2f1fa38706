import Nemor.Lib.MachineNumbers
import Nemor.Lib.Rotation

/-!
# Which processes are looked at closely

Reading the memory maps of a process is expensive, so that a pass reads those of a few processes
only and the next pass goes on behind them. The cursor is kept from pass to pass while the list
of processes changes.

- §1: a pass
- §2: the selection as a window
- §3: many passes
- §4: fairness
-/

namespace Nemor.Collector

open MachineNumbers Rotation

/-! ## §1 A pass -/

/-- The selection of a pass and the cursor for the next one. The additions to the cursor wrap
around, as they do without overflow checks. -/
def selectSmaps (pids : List UInt32) (enabled : Bool) (budget cursor : UInt64) :
    Finset UInt32 × UInt64 :=
  if !enabled || pids.isEmpty || budget = 0 then (∅, cursor)
  else
    let len := UInt64.ofNat pids.length
    let count := min budget len
    let selected := (List.range count.toNat).filterMap fun offset =>
      pids[((cursor + .ofNat offset) % len).toNat]?
    (selected.toFinset, (cursor + count) % len)

/-- A list that fits into memory, four bytes for each process. -/
def Fits (pids : List UInt32) : Prop := 4 * pids.length < 2 ^ 63

/-- The places of a pass do not go over the end of the type. -/
def NoOverflow (pids : List UInt32) (budget cursor : UInt64) : Prop :=
  cursor.toNat + min budget.toNat pids.length < 2 ^ 64

/-! ## §2 The selection as a window -/

section Selection

variable {pids : List UInt32} {budget cursor : UInt64}

theorem toNat_len (h : Fits pids) : (UInt64.ofNat pids.length).toNat = pids.length := by
  have hlt : pids.length < 2 ^ 64 := by
    unfold Fits at h
    omega
  exact UInt64.toNat_ofNat_of_lt' hlt

theorem toNat_count (h : Fits pids) :
    (min budget (UInt64.ofNat pids.length)).toNat = min budget.toNat pids.length := by
  rw [U64.toNat_min, toNat_len h]

/-- A pass that selects. -/
theorem selectSmaps_of_pos (hpids : pids ≠ []) (hbudget : budget ≠ 0) :
    selectSmaps pids true budget cursor =
      (((List.range (min budget (.ofNat pids.length)).toNat).filterMap fun offset =>
          pids[((cursor + .ofNat offset) % .ofNat pids.length).toNat]?).toFinset,
        (cursor + min budget (.ofNat pids.length)) % .ofNat pids.length) := by
  simp [selectSmaps, hpids, hbudget]

/-- Without an overflow the cursor is moved behind the selection. -/
theorem selectSmaps_cursor (hfits : Fits pids) (h : NoOverflow pids budget cursor)
    (hpids : pids ≠ []) (hbudget : budget ≠ 0) :
    (selectSmaps pids true budget cursor).2.toNat =
      (cursor.toNat + min budget.toNat pids.length) % pids.length := by
  rw [selectSmaps_of_pos hpids hbudget, UInt64.toNat_mod, UInt64.toNat_add, toNat_count hfits,
    toNat_len hfits, Nat.mod_eq_of_lt h]

/-- **Without an overflow a pass selects the next processes on the list.** -/
theorem selectSmaps_eq (hfits : Fits pids) (h : NoOverflow pids budget cursor) :
    (selectSmaps pids true budget cursor).1 =
      window pids cursor.toNat (min budget.toNat pids.length) := by
  by_cases hpids : pids = []
  · simp [hpids, selectSmaps, window]
  by_cases hbudget : budget = 0
  · simp [hbudget, selectSmaps, window]
  rw [selectSmaps_of_pos hpids hbudget, toNat_count hfits, window,
    ← filterMap_eq_take_rotate (Nat.min_le_right _ _)]
  refine congrArg List.toFinset (List.filterMap_congr fun offset hoffset => ?_)
  rw [List.mem_range] at hoffset
  have hplace : (cursor + UInt64.ofNat offset).toNat = cursor.toNat + offset := by
    unfold NoOverflow at h
    rw [UInt64.toNat_add, UInt64.toNat_ofNat_of_lt' (show offset < 2 ^ 64 by omega)]
    exact Nat.mod_eq_of_lt (by omega)
  rw [UInt64.toNat_mod, hplace, toNat_len hfits]

end Selection

/-! ## §3 Many passes -/

/-- What a pass is given. -/
structure SmapsPass where
  pids : List UInt32
  enabled : Bool
  budget : UInt64

/-- The selections of passes one after the other, and the cursor after them. -/
def smapsRun : List SmapsPass → UInt64 → List (Finset UInt32) × UInt64
  | [], cursor => ([], cursor)
  | pass :: passes, cursor =>
    let (selected, cursor) := selectSmaps pass.pids pass.enabled pass.budget cursor
    let (rest, cursor) := smapsRun passes cursor
    (selected :: rest, cursor)

/-- No pass selects more than its budget or a process that is not on its list. -/
theorem selectSmaps_within (pids : List UInt32) (enabled : Bool) (budget cursor : UInt64) :
    (selectSmaps pids enabled budget cursor).1.card ≤ budget.toNat ∧
      (selectSmaps pids enabled budget cursor).1 ⊆ pids.toFinset := by
  unfold selectSmaps
  split_ifs with hnone
  · simp
  · constructor
    · refine (List.toFinset_card_le _).trans ((List.length_filterMap_le _ _).trans ?_)
      rw [List.length_range, U64.toNat_min]
      exact Nat.min_le_left _ _
    · intro pid hpid
      obtain ⟨_, -, hat⟩ := List.mem_filterMap.1 (List.mem_toFinset.1 hpid)
      exact List.mem_toFinset.2 (List.mem_of_getElem? hat)

theorem smapsRun_within (passes : List SmapsPass) (cursor : UInt64) :
    List.Forall₂ (fun pass selected => selected.card ≤ pass.budget.toNat ∧
      selected ⊆ pass.pids.toFinset) passes (smapsRun passes cursor).1 := by
  induction passes generalizing cursor with
  | nil => exact .nil
  | cons pass passes ih =>
    exact .cons (selectSmaps_within pass.pids pass.enabled pass.budget cursor) (ih _)

/-! ## §4 Fairness -/

/-- The cursor after some enabled passes over one list. -/
def cursorAfter (pids : List UInt32) (budget cursor : UInt64) : ℕ → UInt64
  | 0 => cursor
  | k + 1 => (selectSmaps pids true budget (cursorAfter pids budget cursor k)).2

/-- The selection of the pass behind `k` others. -/
def selectionAt (pids : List UInt32) (budget cursor : UInt64) (k : ℕ) : Finset UInt32 :=
  (selectSmaps pids true budget (cursorAfter pids budget cursor k)).1

section Fair

variable {pids : List UInt32} {budget cursor : UInt64}

/-- A cursor that lies in the list leads to no overflow. -/
theorem noOverflow_of_lt (hfits : Fits pids) (h : cursor.toNat < 2 ^ 61) :
    NoOverflow pids budget cursor := by
  unfold Fits at hfits
  unfold NoOverflow
  omega

/-- The cursor stays on its way round the list, reduced by the length after each pass. -/
theorem cursorAfter_spec (hfits : Fits pids) (h : NoOverflow pids budget cursor)
    (hpids : pids ≠ []) (hbudget : budget ≠ 0) (k : ℕ) :
    NoOverflow pids budget (cursorAfter pids budget cursor k) ∧
      (cursorAfter pids budget cursor k).toNat % pids.length =
        (cursor.toNat + k * min budget.toNat pids.length) % pids.length := by
  induction k with
  | zero => simpa [cursorAfter] using h
  | succ k ih =>
    obtain ⟨hno, hplace⟩ := ih
    have hnext := selectSmaps_cursor hfits hno hpids hbudget
    have hlt : (cursorAfter pids budget cursor (k + 1)).toNat < pids.length := by
      rw [cursorAfter, hnext]
      exact Nat.mod_lt _ (List.length_pos_iff.2 hpids)
    refine ⟨noOverflow_of_lt hfits (by unfold Fits at hfits; omega), ?_⟩
    rw [cursorAfter, hnext, Nat.mod_mod, Nat.add_mod, hplace, ← Nat.add_mod, Nat.succ_mul,
      Nat.add_assoc]

/-- The pass behind `k` others has the window that lies `k` budgets further on. -/
theorem selectionAt_eq (hfits : Fits pids) (h : NoOverflow pids budget cursor)
    (hpids : pids ≠ []) (hbudget : budget ≠ 0) (k : ℕ) :
    selectionAt pids budget cursor k =
      window pids (cursor.toNat + k * min budget.toNat pids.length)
        (min budget.toNat pids.length) := by
  obtain ⟨hno, hplace⟩ := cursorAfter_spec hfits h hpids hbudget k
  rw [selectionAt, selectSmaps_eq hfits hno, ← window_mod, hplace, window_mod]

/-- As many passes as it takes to spend the budget on each process once. -/
theorem length_le_rounds (hbudget : 0 < budget.toNat) :
    pids.length ≤ (pids.length + budget.toNat - 1) / budget.toNat *
      min budget.toNat pids.length := by
  by_cases h : budget.toNat ≤ pids.length
  · rw [Nat.min_eq_left h]
    have hdiv := Nat.lt_div_mul_add (a := pids.length + budget.toNat - 1) hbudget
    omega
  · rw [Nat.min_eq_right (by omega)]
    cases hlength : pids.length with
    | zero => simp
    | succ n =>
      have hone : 1 ≤ (n + 1 + budget.toNat - 1) / budget.toNat :=
        (Nat.one_le_div_iff hbudget).2 (by omega)
      exact Nat.le_mul_of_pos_left _ hone

/-- A pass leaves a cursor that is a place on its list, or the one that it was given. -/
theorem selectSmaps_cursor_lt (hfits : Fits pids) (enabled : Bool) (h : cursor.toNat < 2 ^ 61) :
    (selectSmaps pids enabled budget cursor).2.toNat < 2 ^ 61 := by
  by_cases hselects : enabled = true ∧ pids ≠ [] ∧ budget ≠ 0
  · obtain ⟨henabled, hpids, hbudget⟩ := hselects
    rw [henabled, selectSmaps_cursor hfits (noOverflow_of_lt hfits h) hpids hbudget]
    have hlt := Nat.mod_lt (cursor.toNat + min budget.toNat pids.length)
      (List.length_pos_iff.2 hpids)
    unfold Fits at hfits
    omega
  · unfold selectSmaps
    split_ifs with hnone
    · exact h
    · exact absurd (by simpa [not_or, and_assoc] using hnone) hselects

theorem smapsRun_cursor_lt {passes : List SmapsPass} (hfits : ∀ pass ∈ passes, Fits pass.pids)
    (h : cursor.toNat < 2 ^ 61) : (smapsRun passes cursor).2.toNat < 2 ^ 61 := by
  induction passes generalizing cursor with
  | nil => exact h
  | cons pass passes ih =>
    exact ih (fun p hp => hfits p (List.mem_cons_of_mem _ hp))
      (selectSmaps_cursor_lt (hfits pass List.mem_cons_self) pass.enabled h)

end Fair

/-- **The budget goes round.** Passes over one list select as many processes as they may, and as
many passes as it takes select all of them, from each cursor whose places do not overflow. That
is each one that a run from the start leads to. And however lists and budgets change, no pass
selects more than its budget or something else than what is on its list. -/
theorem smaps_budget_fair :
    (∀ (pids : List UInt32) (budget cursor : UInt64), Fits pids → pids.Nodup → 0 < budget.toNat →
      NoOverflow pids budget cursor → ∀ first : ℕ,
        (selectionAt pids budget cursor first).card = min budget.toNat pids.length ∧
        ∀ pid ∈ pids, ∃ k < (pids.length + budget.toNat - 1) / budget.toNat,
          pid ∈ selectionAt pids budget cursor (first + k)) ∧
    (∀ (passes : List SmapsPass) (cursor : UInt64),
      List.Forall₂ (fun pass selected => selected.card ≤ pass.budget.toNat ∧
        selected ⊆ pass.pids.toFinset) passes (smapsRun passes cursor).1) ∧
    ∀ passes : List SmapsPass, (∀ pass ∈ passes, Fits pass.pids) →
      ∀ (pids : List UInt32) (budget : UInt64), Fits pids →
        NoOverflow pids budget (smapsRun passes 0).2 := by
  refine ⟨?_, smapsRun_within, ?_⟩
  · intro pids budget cursor hfits hnodup hpos hno first
    have hbudget : budget ≠ 0 := by
      rintro rfl
      simp at hpos
    by_cases hpids : pids = []
    · subst hpids
      simp [selectionAt, selectSmaps]
    constructor
    · rw [selectionAt_eq hfits hno hpids hbudget, card_window hnodup, min_assoc, min_self]
    · intro pid hpid
      -- the windows of the passes lie one after the other around the list
      have hcovered : ∃ k < (pids.length + budget.toNat - 1) / budget.toNat, pid ∈
          window pids (cursor.toNat + first * min budget.toNat pids.length +
            k * min budget.toNat pids.length) (min budget.toNat pids.length) :=
        exists_window hpid (length_le_rounds hpos)
      obtain ⟨k, hk, hmem⟩ := hcovered
      refine ⟨k, hk, ?_⟩
      rwa [selectionAt_eq hfits hno hpids hbudget, Nat.add_mul, ← Nat.add_assoc]
  · intro passes hpasses pids budget hfits
    exact noOverflow_of_lt hfits (smapsRun_cursor_lt hpasses (by decide))

/-- Behind the largest cursor the places start again at zero, and a pass selects one process
twice. -/
theorem selection_at_the_end_of_the_type :
    (selectSmaps [1, 2, 3] true 2 18446744073709551615).1 = {1} ∧
      min (2 : UInt64).toNat [1, 2, 3].length = 2 := by
  decide +kernel

/-- Three processes with a budget of two, from a cursor that an earlier and longer list has left
behind. -/
theorem short_list_covered :
    (selectionAt [1, 2, 3] 2 7 0).card = 2 ∧
      ∀ pid ∈ [1, 2, 3], ∃ k < 2, pid ∈ selectionAt [1, 2, 3] 2 7 (0 + k) := by
  have hfits : Fits [1, 2, 3] := by simp [Fits]
  exact smaps_budget_fair.1 [1, 2, 3] 2 7 hfits (by decide) (by decide)
    (noOverflow_of_lt hfits (by decide)) 0

end Nemor.Collector
