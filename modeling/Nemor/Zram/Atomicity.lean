import Mathlib.Data.Fintype.EquivFin
import Nemor.Zram.NoSwapLoss

/-!
# zram: what a failed transaction leaves behind

One backend operation of the forward part of `applyPlan` fails and every operation of the
rollback inside it succeeds. If the machine had swap at the start, the devices and the active
swaps are then those from before the call. If it had none, the rollback's own capacity check
refuses to go on once the replacement is switched off, and the replacement stays: that
happens exactly when the transaction fails after the replacement was activated.
-/

namespace Nemor.Zram

open Effectful

/-! ## §1 A rollback that meets no failure -/

/-- With the original as before and the replacement gone, everything is as it was. -/
theorem Confined.sameSwaps {s₀ s : Machine} {m : MutationSnapshot} (h : Confined s₀ m s)
    (horig : OriginalAsBefore m s)
    (hgone : ∀ r, m.replacementName = some r → s.devices.lookup r = none) : s.SameSwaps s₀ := by
  refine Machine.sameSwaps_of_lookup fun name => ?_
  by_cases hname : name = m.original.name
  · subst hname
    rw [h.original₀]
    exact horig
  · by_cases hrep : m.replacementName = some name
    · rw [hgone name hrep, h.fresh name hrep]
    · rw [h.others name hname hrep]

/-- Every operation issued with this snapshot succeeds. -/
def Succeeds (R : Env zramBackend MutationSnapshot Machine) (m : MutationSnapshot) : Prop :=
  ∀ s op r s', R m s op r s' → op.succeeded r = true

section Specs

variable {R : Env zramBackend MutationSnapshot Machine} {J : MutationSnapshot → Machine → Prop}
  {s₀ s : Machine} {m : MutationSnapshot}

/-- A capacity check that succeeds and finds swap. -/
theorem ensureSwap_ok (hR : Atomic R)
    (hS : ∀ s r s', R m s .effectiveValidSwapCapacity r s' →
      ZramOp.effectiveValidSwapCapacity.succeeded r = true) (hJ : ∀ m s, J m s)
    (hpos : 0 < s.capacity) {Q : Except ZramError Unit → MutationSnapshot → Machine → Prop}
    (hok : Q (.ok ()) m s) : Act.wp R J ensureSwap Q m s := by
  unfold ensureSwap
  refine Act.wp_bind.2 (Act.wp_perform.2 ⟨hJ _ _, fun r s' hr => ?_⟩)
  obtain ⟨rfl, hc⟩ := hR _ _ _ _ _ hr
  cases r with
  | error e => cases hS _ _ _ hr
  | ok c =>
    change c.toNat = s'.capacity at hc
    refine Act.wp_ite.2 ⟨fun h0 => ?_, fun _ => hok⟩
    rw [h0] at hc
    simp at hc
    omega

/-- The original is switched on again only if there was swap before. -/
theorem restoreOriginal_ok (hR : Atomic R) (hS : Succeeds R m) (hJ : ∀ m s, J m s)
    (h : Live s₀ m s) :
    Act.wp R J (restoreOriginal m.original)
      (fun r m' s' => r = .ok () ∧ m' = m ∧ Standing s₀ m s' ∧
        (ReplacementIdle m s → ReplacementIdle m s')) m s := by
  unfold restoreOriginal
  refine Act.wp_ite.2 ⟨fun hon => ?_, fun hoff =>
    ⟨rfl, rfl, ⟨h, h.confined.idle (by simpa using hoff)⟩, fun hidle => hidle⟩⟩
  refine Act.wp_bind.2 (Act.wp_perform.2 ⟨hJ _ _, fun r s' hr => ?_⟩)
  obtain ⟨rfl, hv⟩ := hR _ _ _ _ _ hr
  cases r with
  | error e => cases hS _ _ _ _ hr
  | ok current =>
    change s'.devices.lookup m.original.name = some current at hv
    refine Act.wp_ite.2 ⟨fun hinactive => ?_, fun hactive =>
      ⟨rfl, rfl, ⟨h, ?_⟩, fun hidle => hidle⟩⟩
    · refine Act.wp_bind.2 (Act.wp_perform.2 ⟨hJ _ _, fun r s'' hr => ?_⟩)
      have hch := hR _ _ _ _ _ hr
      cases r with
      | error e => cases hS _ _ _ _ hr
      | ok u =>
        obtain ⟨-, rfl⟩ : _ ∧ s'' = s'.modify m.original.name _ := hch
        have hstanding := h.switchedOn hon hv (m.original.priority.getD 100)
        -- the original was found off, so the machine did not start dry
        have hcap : 0 < s₀.capacity := by
          by_contra h0
          have hbefore := h.dry (by omega)
          unfold OriginalAsBefore at hbefore
          rw [hv, hon, Option.map_some, Option.some.injEq] at hbefore
          simp [hbefore] at hinactive
        refine ensureSwap_ok hR (fun s => hS s _) hJ (hstanding.capacity_pos hcap)
          ⟨rfl, rfl, hstanding, ?_⟩
        intro hidle r hr
        unfold Machine.isActive
        rw [Machine.lookup_modify_of_ne (h.confined.replacement_ne hr).symm]
        exact hidle r hr
    · unfold OriginalAsBefore
      rw [hv, hon]
      simpa using hactive

theorem removeManagedDevice_ok (hR : Atomic R) (hS : Succeeds R m) (hJ : ∀ m s, J m s)
    (h : Standing s₀ m s) {r : String} (hrep : m.replacementName = some r) :
    Act.wp R J (removeManagedDevice r)
      (fun reply m' s' => reply = .ok () ∧ m' = m ∧ s'.SameSwaps s₀) m s := by
  refine Act.wp_perform.2 ⟨hJ _ _, fun reply s' hr => ?_⟩
  have hch := hR _ _ _ _ _ hr
  cases reply with
  | error e => cases hS _ _ _ _ hr
  | ok u =>
    obtain ⟨-, rfl⟩ : _ ∧ s' = s.remove r := hch
    refine ⟨rfl, rfl, (h.confined.of_lookup hrep fun name hne =>
      lookup_remove_of_ne hne).sameSwaps
        (h.original.of_lookup (lookup_remove_of_ne (h.confined.replacement_ne hrep))) ?_⟩
    intro r' hr'
    obtain rfl : r = r' := by
      rw [hrep] at hr'
      exact Option.some.inj hr'
    exact Finmap.lookup_erase _ _

theorem discardReplacement_ok (hR : Atomic R) (hS : Succeeds R m) (hJ : ∀ m s, J m s)
    (h : Standing s₀ m s) (hcap : 0 < s₀.capacity ∨ ReplacementIdle m s) :
    Act.wp R J (discardReplacement m.replacementName)
      (fun reply m' s' => reply = .ok () ∧ m' = m ∧ s'.SameSwaps s₀) m s := by
  unfold discardReplacement
  cases hrep : m.replacementName with
  | none =>
    exact ⟨rfl, rfl, h.confined.sameSwaps h.original fun r hr => by rw [hrep] at hr; cases hr⟩
  | some r =>
    refine Act.wp_bind.2 (Act.wp_perform.2 ⟨hJ _ _, fun (owned : Bool) s' hr => ?_⟩)
    obtain ⟨rfl, howned⟩ := hR _ _ _ _ _ hr
    refine Act.wp_ite.2 ⟨fun _ => ?_, fun hnot => ?_⟩
    · refine Act.wp_bind.2 (Act.wp_perform.2 ⟨hJ _ _, fun reply s'' hr => ?_⟩)
      obtain ⟨rfl, hv⟩ := hR _ _ _ _ _ hr
      cases reply with
      | error e => cases hS _ _ _ _ hr
      | ok current =>
        change s''.devices.lookup r = some current at hv
        refine Act.wp_ite.2 ⟨fun hactive => ?_, fun _ => removeManagedDevice_ok hR hS hJ h hrep⟩
        refine Act.wp_bind.2 (Act.wp_perform.2 ⟨hJ _ _, fun reply s' hr => ?_⟩)
        have h' := h.change hrep (hR _ _ _ _ _ hr)
        cases reply with
        | error e => cases hS _ _ _ _ hr
        | ok u =>
          -- an active replacement is not idle, so there was swap before
          have hpos : 0 < s₀.capacity := by
            rcases hcap with hcap | hidle
            · exact hcap
            · have hoff := hidle r hrep
              unfold Machine.isActive at hoff
              rw [hv, Option.any_some, hactive] at hoff
              cases hoff
          exact Act.wp_bind.2 (ensureSwap_ok hR (fun s => hS s _) hJ (h'.toLive.capacity_pos hpos)
            (removeManagedDevice_ok hR hS hJ h' hrep))
    · have hmem := (h.registered r hrep).2
      change owned = decide (r ∈ s'.owned) at howned
      rw [howned] at hnot
      simp [hmem] at hnot

/-- **A rollback that meets no failure restores everything**, if there was swap before or the
    replacement is not in use. -/
theorem rollback_restores (hR : Atomic R) (hS : Succeeds R m) (hJ : ∀ m s, J m s)
    (h : Live s₀ m s) (hcap : 0 < s₀.capacity ∨ ReplacementIdle m s) :
    Act.wp R J rollback (fun _ _ s' => s'.SameSwaps s₀) m s := by
  unfold rollback
  refine Act.wp_bind.2 (Act.wp_current.2 (Act.wp_ite.2
    ⟨fun hdone => absurd hdone h.phase, fun _ => ?_⟩))
  refine Act.wp_bind.2 (Act.wp_mono (restoreOriginal_ok hR hS hJ h) ?_)
  rintro r m' s' ⟨rfl, rfl, hstand, hidle⟩
  refine Act.wp_bind.2 (Act.wp_mono
    (discardReplacement_ok hR hS hJ hstand (hcap.imp_right hidle)) ?_)
  rintro r m'' s'' ⟨rfl, rfl, hsame⟩
  exact hsame

end Specs

/-! ## §2 One failing operation of the forward part -/

/-- The backend operations of the forward part, in the order they are issued. -/
inductive ForwardStep where
  | readCapacity
  | create
  | configure
  | setSize
  | verifySize
  | activate
  | checkActivated
  | deactivateOriginal
  | checkMigrated
  | verifyActive
  deriving DecidableEq

/-- Which step of the forward part an operation is, told by the phase it is issued in. -/
def forwardStep (phase : MutationPhase) : ZramOp → Option ForwardStep
  | .effectiveValidSwapCapacity =>
    match phase with
    | .activated => some .checkActivated
    | .originalDeactivated => some .checkMigrated
    | _ => some .readCapacity
  | .createIsolatedManagedDevice => some .create
  | .configureUninitialized _ _ => some .configure
  | .initializeDevice _ _ => some .setSize
  | .activate _ _ => some .activate
  | .deactivate _ => some .deactivateOriginal
  | .verify _ => if phase = .initialized then some .verifySize else some .verifyActive
  | .removeManagedDevice _ => none
  | .isOwned _ => none

/-- An atomic backend on which exactly the given step of the forward part fails: the failing
    operation leaves the machine as it was. The forward part runs with `rollbackPending` unset,
    the rollback inside `applyPlan` with it set. -/
def singleFault (step : ForwardStep) : Env zramBackend MutationSnapshot Machine :=
  fun m s op r s' => answers s op r s' ∧
    op.succeeded r = (m.rollbackPending || forwardStep m.phase op ≠ some step)

/-- The steps up to and including the activation of the replacement. -/
def ForwardStep.early : ForwardStep → Bool
  | .readCapacity | .create | .configure | .setSize | .verifySize | .activate => true
  | _ => false

/-- `applyPlan` goes as far as activating the replacement if no operation fails. -/
def MutationSnapshot.proceeds (m : MutationSnapshot) : Bool :=
  !m.requestedPlan.dryRun && m.requestedPlan.allowed && ownedOrAdopted m.original &&
    m.requestedPlan.equipped

/-- The transaction fails after the replacement was activated on a machine without swap. -/
def strands (s₀ : Machine) (m : MutationSnapshot) (step : ForwardStep) : Prop :=
  m.proceeds = true ∧ s₀.capacity = 0 ∧ step.early = false ∧
    (m.requestedPlan.requiresSwapMigration = true ∨ step = .checkActivated ∨ step = .verifyActive)

section SingleFault

variable {step : ForwardStep} {J : MutationSnapshot → Machine → Prop} {s₀ s : Machine}
  {m : MutationSnapshot}

theorem singleFault_atomic : Atomic (singleFault step) := fun _ _ _ _ _ h => h.1

theorem singleFault_succeeds_of_pending (h : m.rollbackPending = true) :
    Succeeds (singleFault step) m := by
  intro s op r s' hr
  rw [hr.2, h]
  rfl

/-- A forward operation that succeeded is not the failing step. -/
theorem ne_of_succeeded (hp : m.rollbackPending = false) {op : ZramOp} {r : op.Value}
    {s' : Machine} (hr : singleFault step m s op r s') (hok : op.succeeded r = true)
    {st : ForwardStep} (hst : forwardStep m.phase op = some st) : step ≠ st := by
  rintro rfl
  have := hr.2
  rw [hok, hp, hst] at this
  simp at this

/-- A forward operation that is not the failing step succeeds. -/
theorem succeeded_of_ne (hp : m.rollbackPending = false) {op : ZramOp} {r : op.Value}
    {s' : Machine} (hr : singleFault step m s op r s')
    {st : ForwardStep} (hst : forwardStep m.phase op = some st) (hne : step ≠ st) :
    op.succeeded r = true := by
  rw [hr.2, hp, hst]
  simpa using hne.symm

/-- The replacement is brought up only if none of the steps up to there fails. -/
theorem bringUp_steps (hJ : ∀ m s, J m s) (hp : m.rollbackPending = false) :
    Act.wp (singleFault step) J (bringUp m)
      (fun r _ _ => ∀ name, r = .ok name → step ≠ .configure ∧ step ≠ .setSize ∧
        step ≠ .verifySize ∧ step ≠ .activate) m s := by
  unfold bringUp
  refine Act.wp_bind.2 (Act.wp_ofExcept.2 ?_)
  cases m.replacementName with
  | none => exact fun _ h => by cases h
  | some r =>
  refine Act.wp_bind.2 (Act.wp_ofExcept.2 ?_)
  cases m.requestedPlan.selectedAlgorithm with
  | none => exact fun _ h => by cases h
  | some algorithm =>
  refine Act.wp_bind.2 (Act.wp_perform.2 ⟨hJ _ _, fun reply s₁ hr => ?_⟩)
  cases reply with
  | error e => exact fun _ h => by cases h
  | ok u =>
  -- each success rules out one candidate for the failing step
  have hconf := ne_of_succeeded hp hr rfl rfl
  refine Act.wp_bind.2 (Act.wp_assign.2 (Act.wp_bind.2 (Act.wp_ofExcept.2 ?_)))
  cases m.requestedPlan.proposedDisksize.filter fun value => 0 < value with
  | none => exact fun _ h => by cases h
  | some disksize =>
  refine Act.wp_bind.2 (Act.wp_perform.2 ⟨hJ _ _, fun reply s₂ hr => ?_⟩)
  cases reply with
  | error e => exact fun _ h => by cases h
  | ok u =>
  have hsize := ne_of_succeeded (by exact hp) hr rfl rfl
  refine Act.wp_bind.2 (Act.wp_assign.2 (Act.wp_bind.2 (Act.wp_perform.2
    ⟨hJ _ _, fun reply s₃ hr => ?_⟩)))
  cases reply with
  | error e => exact fun _ h => by cases h
  | ok initialized =>
  have hverify := ne_of_succeeded (by exact hp) hr rfl rfl
  refine Act.wp_ite.2 ⟨fun _ => Act.wp_bind.2 (fun _ h => by cases h), fun _ => ?_⟩
  refine Act.wp_bind.2 (Act.wp_perform.2 ⟨hJ _ _, fun reply s₄ hr => ?_⟩)
  cases reply with
  | error e => exact fun _ h => by cases h
  | ok u =>
  have hactivate := ne_of_succeeded (by exact hp) hr rfl rfl
  exact fun _ _ => ⟨hconf, hsize, hverify, hactivate⟩

/-- Without migration the second half only reads. -/
theorem switchOver_ok {snapshot : MutationSnapshot} (hJ : ∀ m s, J m s)
    (hp : m.rollbackPending = false) (hphase : m.phase = .activated)
    (hcarries : ReplacementCarries m s) {name : String} (hname : m.replacementName = some name)
    (hstay : snapshot.requestedPlan.requiresSwapMigration = false)
    (hcheck : step ≠ .checkActivated) (hverify : step ≠ .verifyActive) (c : UInt64) :
    Act.wp (singleFault step) J (switchOver snapshot c name)
      (fun r _ _ => ∃ outcome, r = .ok outcome) m s := by
  obtain ⟨r, d, hr, hd, hpos⟩ := hcarries
  obtain rfl : name = r := by
    rw [hname] at hr
    exact Option.some.inj hr
  unfold switchOver
  -- the replacement carries swap, so the capacity that is read is not zero
  refine Act.wp_bind.2 (ensureSwap_ok singleFault_atomic
    (fun s r s' hr => succeeded_of_ne hp hr (by rw [hphase]; rfl) hcheck) hJ
    (s.capacity_pos_iff.2 ⟨name, by rw [Machine.swapBytesAt_of_lookup hd]; exact hpos⟩) ?_)
  refine Act.wp_ite.2 ⟨fun hmig => absurd hmig (by simp [hstay]), fun _ => ?_⟩
  refine Act.wp_bind.2 (Act.wp_perform.2 ⟨hJ _ _, fun reply s' hr => ?_⟩)
  have hok := succeeded_of_ne hp hr (by rw [hphase]; rfl) hverify
  obtain ⟨⟨rfl, hv⟩, -⟩ := hr
  cases reply with
  | error e => cases hok
  | ok verified =>
    obtain rfl : d = verified := by
      change s'.devices.lookup name = some verified at hv
      rw [hd] at hv
      exact Option.some.inj hv
    have hactive : d.activeSwap = true := by
      by_contra hoff
      simp [DeviceInventory.swapBytes, hoff] at hpos
    exact Act.wp_ite.2 ⟨fun hoff => by simp [hactive] at hoff, fun _ => ⟨_, rfl⟩⟩

/-- Where the part after the creation ends if it fails: still running, and with an idle
    replacement unless there was swap before. -/
theorem applyAfterCreate_fails (hp : m.rollbackPending = false) (h : Standing s₀ m s)
    (hidle : ReplacementIdle m s) {initialCapacity : UInt64}
    (hcap : initialCapacity.toNat = s₀.capacity)
    (hlate : step.early = true → step = .configure ∨ step = .setSize ∨ step = .verifySize ∨
      step = .activate)
    (hstrands : s₀.capacity = 0 → m.requestedPlan.equipped = true → step.early = false →
      m.requestedPlan.requiresSwapMigration = false ∧ step ≠ .checkActivated ∧
        step ≠ .verifyActive) :
    Act.wp (singleFault step) (fun _ _ => True) (applyAfterCreate initialCapacity)
      (fun r m' s' => ∀ e, r = .error e →
        Live s₀ m' s' ∧ (0 < s₀.capacity ∨ ReplacementIdle m' s')) m s := by
  by_cases hpos : 0 < s₀.capacity
  · -- with swap from before, the invariant of the whole run is enough
    refine Act.wp_weaken (Act.wp_mono (applyAfterCreate_wp singleFault_atomic h hidle hcap) ?_)
      (fun _ _ _ => trivial)
    exact fun r m' s' hpost e _ => ⟨hpost.2.2, .inl hpos⟩
  · unfold applyAfterCreate
    refine Act.wp_bind.2 (Act.wp_current.2 (Act.wp_bind.2 ?_))
    refine Act.wp_weaken (Act.wp_mono (Act.wp_and (bringUp_wp singleFault_atomic h hidle)
      (bringUp_steps (J := fun _ _ => True) (fun _ _ => trivial) hp)) ?_) (fun _ _ _ => trivial)
    rintro (e | name) m' s' ⟨⟨hon, hstand, hpost⟩, hsteps⟩
    · exact fun _ _ => ⟨hstand.toLive, .inr hpost⟩
    · -- the replacement is up, so the failing step is none that is still to come
      obtain ⟨hname, hcarries, hphase, hequipped⟩ := hpost
      have hearly : step.early = false := by
        by_contra hne
        obtain ⟨h₁, h₂, h₃, h₄⟩ := hsteps name rfl
        rcases hlate (by simpa using hne) with h | h | h | h
        · exact h₁ h
        · exact h₂ h
        · exact h₃ h
        · exact h₄ h
      obtain ⟨hstay, hcheck, hverify⟩ := hstrands (by omega) hequipped hearly
      refine Act.wp_mono (switchOver_ok (fun _ _ => trivial) (hon.pending.trans hp) hphase
        hcarries hname hstay hcheck hverify initialCapacity) ?_
      rintro r m'' s'' ⟨outcome, rfl⟩ e herr
      cases herr

theorem applyPlan_restores (h : Snapshotted s₀ m) (hstrands : ¬ strands s₀ m step) :
    Act.wp (singleFault step) (fun _ _ => True) applyPlan
      (fun r _ s' => ∀ e, r = .error e → s'.SameSwaps s₀) m s₀ := by
  have hsame : s₀.SameSwaps s₀ := ⟨rfl, rfl⟩
  unfold applyPlan
  refine Act.wp_bind.2 (Act.wp_current.2 (Act.wp_ite.2
    ⟨fun _ => (fun _ herr => by cases herr), fun hdry => ?_⟩))
  refine Act.wp_ite.2 ⟨fun _ => Act.wp_bind.2 (fun _ _ => hsame), fun hallowed => ?_⟩
  refine Act.wp_ite.2 ⟨fun _ => Act.wp_bind.2 (fun _ _ => hsame), fun howner => ?_⟩
  have howner : ownedOrAdopted m.original = true := by simpa using howner
  refine Act.wp_bind.2 (Act.wp_perform.2 ⟨trivial, fun reply s' hr => ?_⟩)
  obtain ⟨rfl, hcap⟩ := singleFault_atomic _ _ _ _ _ hr
  cases reply with
  | error e => exact fun _ _ => hsame
  | ok initialCapacity =>
  have hread := ne_of_succeeded h.pending hr rfl (by rw [h.phase]; rfl)
  refine Act.wp_bind.2 (Act.wp_perform.2 ⟨trivial, fun reply s'' hr => ?_⟩)
  have hch := singleFault_atomic _ _ _ _ _ hr
  cases reply with
  | error e =>
    obtain rfl : s'' = s' := hch
    exact fun _ _ => hsame
  | ok d =>
  have hcreate := ne_of_succeeded h.pending hr rfl rfl
  obtain ⟨hfresh, hinactive, -, rfl⟩ :
    _ ∧ d.activeSwap = false ∧ d.ownership = .nemorOwned ∧ s'' = s'.add d := hch
  -- from here on a failure is caught and answered with the rollback
  refine Act.wp_bind.2 (Act.wp_assign.2 (Act.wp_bind.2 (Act.wp_attempt.2 ?_)))
  refine Act.wp_mono (applyAfterCreate_fails
    (m := { m with replacementName := some d.name, phase := .replacementCreated })
    h.pending (h.create howner hfresh) (create_idle hinactive) hcap ?_ ?_) ?_
  · intro hearly
    revert hread hcreate hearly
    cases step <;> decide
  · intro hzero hequipped hlate
    have hproceeds : m.proceeds = true := by
      simp only [MutationSnapshot.proceeds, Bool.and_eq_true]
      exact ⟨⟨⟨by simpa using hdry, by simpa using hallowed⟩, howner⟩, hequipped⟩
    refine ⟨?_, fun hs => ?_, fun hs => ?_⟩
    · by_contra hmig
      exact hstrands ⟨hproceeds, hzero, hlate, .inl (by simpa using hmig)⟩
    · exact hstrands ⟨hproceeds, hzero, hlate, .inr (.inl hs)⟩
    · exact hstrands ⟨hproceeds, hzero, hlate, .inr (.inr hs)⟩
  · rintro (e | outcome) m' s'' hpost
    · -- the error path: the rollback runs with the pending flag set
      obtain ⟨hlive, hidle⟩ := hpost e rfl
      refine Act.wp_bind.2 (Act.wp_assign.2 (Act.wp_bind.2 (Act.wp_attempt.2 ?_)))
      refine Act.wp_mono (rollback_restores singleFault_atomic
        (singleFault_succeeds_of_pending rfl) (fun _ _ => trivial)
        (hlive.congr rfl rfl hlive.phase) hidle) ?_
      exact fun _ _ _ hsame _ _ => hsame
    · exact fun _ herr => by cases herr

end SingleFault

/-! ## §3 The stranded replacement -/

/-- On a machine that started without swap only the replacement can count. -/
theorem Standing.capacity_eq {s₀ s : Machine} {m : MutationSnapshot} (h : Standing s₀ m s)
    (hzero : s₀.capacity = 0) {r : String} (hr : m.replacementName = some r) :
    s.capacity = s.swapBytesAt r := by
  have hnone : ∀ name, s₀.swapBytesAt name = 0 := by
    intro name
    by_contra hne
    have hpos := s₀.capacity_pos_iff.2 ⟨name, Nat.pos_of_ne_zero hne⟩
    omega
  refine Finset.sum_eq_single r (fun name hmem hne => ?_) (fun hmem => ?_)
  · have hrep : m.replacementName ≠ some name := by
      rw [hr]
      exact fun heq => hne (Option.some.inj heq).symm
    rw [h.confined.swapBytesAt_eq h.original hrep, hnone]
  · exact absurd (Finmap.mem_keys.2 (h.registered r hr).1) hmem

theorem Machine.swapBytesAt_lt (s : Machine) (name : String) : s.swapBytesAt name < 2 ^ 64 := by
  unfold Machine.swapBytesAt
  cases s.devices.lookup name with
  | none => simp
  | some d =>
    simp only [Option.elim_some, DeviceInventory.swapBytes]
    split
    · exact UInt64.toNat_lt _
    · simp

/-- Every atomic answer that is a success is possible with this snapshot. -/
def Permits (R : Env zramBackend MutationSnapshot Machine) (m : MutationSnapshot) : Prop :=
  ∀ s op r s', answers s op r s' → op.succeeded r = true → R m s op r s'

section Stranded

variable {R : Env zramBackend MutationSnapshot Machine} {s₀ s : Machine} {m : MutationSnapshot}

/-- Without swap at the start, a rollback that finds the replacement in use switches it off,
    refuses to go on, and leaves it behind. -/
theorem rollback_strands (hR : Permits R m) (h : Standing s₀ m s) (hzero : s₀.capacity = 0)
    {r : String} (hr : m.replacementName = some r) (hactive : s.isActive r = true) :
    Act.may R rollback (fun out _ s' => (∃ e, out = .error e) ∧ r ∈ s'.devices) m s := by
  obtain ⟨d, hd⟩ : ∃ d, s.devices.lookup r = some d := Finmap.mem_iff.1 (h.registered r hr).1
  have hdactive : d.activeSwap = true := by
    unfold Machine.isActive at hactive
    rw [hd] at hactive
    exact hactive
  obtain ⟨o, ho⟩ : ∃ o, s.devices.lookup m.original.name = some o := by
    have hsize := h.confined.size
    cases hs : s.devices.lookup m.original.name with
    | none => rw [hs] at hsize; cases hsize
    | some o => exact ⟨o, rfl⟩
  have hoactive : o.activeSwap = m.original.activeSwap := by
    have horig := h.original
    unfold OriginalAsBefore at horig
    rw [ho] at horig
    exact Option.some.inj horig
  unfold rollback
  refine Act.may_bind.2 (Act.may_current.2 (Act.may_ite.2
    ⟨fun hdone => absurd hdone h.phase, fun _ => ?_⟩))
  refine Act.may_bind.2 ?_
  -- the original is as before: nothing to restore
  have hrestore : Act.may R (restoreOriginal m.original)
      (fun out m' s' => out = .ok () ∧ m' = m ∧ s' = s) m s := by
    unfold restoreOriginal
    refine Act.may_ite.2 ⟨fun hon => ?_, fun _ => ⟨rfl, rfl, rfl⟩⟩
    refine Act.may_bind.2 (Act.may_perform.2 ⟨.ok o, s, hR _ _ _ _ ⟨rfl, ho⟩ rfl, ?_⟩)
    refine Act.may_ite.2 ⟨fun hoff => ?_, fun _ => ⟨rfl, rfl, rfl⟩⟩
    rw [hoactive, hon] at hoff
    cases hoff
  refine Act.may_mono hrestore ?_
  rintro out m' s' ⟨rfl, rfl, rfl⟩
  refine Act.may_bind.2 ?_
  rw [hr]
  -- the replacement is ours and in use: switch it off, then read the capacity
  have howned : answers s' (.isOwned r) true s' :=
    ⟨rfl, (decide_eq_true (h.registered r hr).2).symm⟩
  refine Act.may_bind.2 (Act.may_perform.2 ⟨true, s', hR _ _ _ _ howned rfl, ?_⟩)
  refine Act.may_ite.2 ⟨fun _ => ?_, fun hnot => absurd rfl hnot⟩
  refine Act.may_bind.2 (Act.may_perform.2 ⟨.ok d, s', hR _ _ _ _ ⟨rfl, hd⟩ rfl, ?_⟩)
  refine Act.may_ite.2 ⟨fun _ => ?_, fun hoff => absurd hdactive hoff⟩
  have hoff := changes_ok_of_mem (h.registered r hr).1 .switchedOff
  refine Act.may_bind.2 (Act.may_perform.2 ⟨.ok (), _, hR _ _ _ _ (by exact hoff) rfl, ?_⟩)
  have hcap : (s'.modify r .switchedOff).capacity = 0 := by
    rw [(h.change hr hoff).capacity_eq hzero hr]
    rw [Machine.swapBytesAt_of_lookup (by rw [Machine.lookup_modify_self, hd]; rfl)]
    rfl
  refine Act.may_bind.2 (Act.may_bind.2 (Act.may_perform.2
    ⟨.ok 0, _, hR _ _ _ _ ⟨rfl, hcap.symm⟩ rfl, ?_⟩))
  refine Act.may_ite.2 ⟨fun _ => ⟨⟨_, rfl⟩, ?_⟩, fun hne => absurd rfl hne⟩
  exact (Machine.mem_modify _).2 (h.registered r hr).1

end Stranded

section SingleFault

variable {step : ForwardStep} {s₀ s : Machine} {m : MutationSnapshot}

theorem singleFault_permits_of_pending (h : m.rollbackPending = true) :
    Permits (singleFault step) m := by
  intro s op r s' ha hok
  exact ⟨ha, by rw [hok, h]; rfl⟩

/-- A forward operation that is not the failing step may succeed. -/
theorem singleFault_success (hp : m.rollbackPending = false) {op : ZramOp} {r : op.Value}
    {s' : Machine} (ha : answers s op r s') (hok : op.succeeded r = true)
    (hne : forwardStep m.phase op ≠ some step) : singleFault step m s op r s' :=
  ⟨ha, by rw [hok, hp]; simpa using hne⟩

/-- The failing step may fail. -/
theorem singleFault_failure (hp : m.rollbackPending = false) {op : ZramOp} {r : op.Value}
    {s' : Machine} (ha : answers s op r s') (hbad : op.succeeded r = false)
    (heq : forwardStep m.phase op = some step) : singleFault step m s op r s' :=
  ⟨ha, by rw [hbad, hp, heq]; simp⟩

/-- An equipped plan brings its replacement up if the failing step comes later. -/
theorem bringUp_may (hp : m.rollbackPending = false) (h : Standing s₀ m s) {r : String}
    (hr : m.replacementName = some r) (hequipped : m.requestedPlan.equipped = true)
    (hlate : step.early = false) :
    Act.may (singleFault step) (bringUp m)
      (fun out m' s' => out = .ok r ∧ Onward m m' ∧ m'.phase = .activated ∧
        Standing s₀ m' s' ∧ s'.isActive r = true) m s := by
  obtain ⟨algorithm, halg⟩ : ∃ a, m.requestedPlan.selectedAlgorithm = some a := by
    simp only [ZramProfilePlan.equipped, Bool.and_eq_true] at hequipped
    exact Option.isSome_iff_exists.1 hequipped.1
  obtain ⟨disksize, hsize⟩ : ∃ size,
      (m.requestedPlan.proposedDisksize.filter fun value => 0 < value) = some size := by
    simp only [ZramProfilePlan.equipped, Bool.and_eq_true] at hequipped
    exact Option.isSome_iff_exists.1 hequipped.2
  have hne : ∀ st : ForwardStep, st.early = true → some st ≠ some step := by
    rintro st hst heq
    rw [Option.some.inj heq, hlate] at hst
    cases hst
  have hmem := (h.registered r hr).1
  obtain ⟨d, hd⟩ := Finmap.mem_iff.1 hmem
  unfold bringUp
  refine Act.may_bind.2 (Act.may_ofExcept.2 ?_)
  rw [hr]
  refine Act.may_bind.2 (Act.may_ofExcept.2 ?_)
  rw [halg]
  -- configure
  have hch₁ := changes_ok_of_mem hmem (.configured algorithm)
  refine Act.may_bind.2 (Act.may_perform.2
    ⟨.ok (), _, singleFault_success hp (by exact hch₁) rfl (hne .configure rfl), ?_⟩)
  have h₁ := (h.change hr hch₁).congr (n := { m with phase := .algorithmConfigured })
    rfl rfl (by simp)
  refine Act.may_bind.2 (Act.may_assign.2 (Act.may_bind.2 (Act.may_ofExcept.2 ?_)))
  rw [hsize]
  -- initialize
  have hch₂ := changes_ok_of_mem (h₁.registered r hr).1 (.sized disksize)
  refine Act.may_bind.2 (Act.may_perform.2
    ⟨.ok (), _, singleFault_success (by exact hp) (by exact hch₂) rfl (hne .setSize rfl), ?_⟩)
  have h₂ := (h₁.change hr hch₂).congr (n := { m with phase := .initialized }) rfl rfl (by simp)
  -- verify
  have hlookup : ((s.modify r (.configured algorithm)).modify r (.sized disksize)).devices.lookup r
      = some ((d.configured algorithm).sized disksize) := by
    rw [Machine.lookup_modify_self, Machine.lookup_modify_self, hd]
    rfl
  refine Act.may_bind.2 (Act.may_assign.2 (Act.may_bind.2 (Act.may_perform.2
    ⟨.ok _, _, singleFault_success (by exact hp) ⟨rfl, hlookup⟩ rfl (hne .verifySize rfl), ?_⟩)))
  refine Act.may_ite.2 ⟨fun hbad => absurd rfl hbad, fun _ => ?_⟩
  -- activate
  have hch₃ := changes_ok_of_mem (h₂.registered r hr).1
    (.switchedOn (m.requestedPlan.proposedPriority.getD 100))
  refine Act.may_bind.2 (Act.may_perform.2
    ⟨.ok (), _, singleFault_success (by exact hp) (by exact hch₃) rfl (hne .activate rfl), ?_⟩)
  refine ⟨rfl, ⟨rfl, rfl, rfl, rfl⟩, rfl, (h₂.change hr hch₃).congr rfl rfl (by simp), ?_⟩
  unfold Machine.isActive
  rw [Machine.lookup_modify_self, hlookup]
  rfl

/-- With the replacement up on a machine that had no swap, the second half fails where
    `strands` says, and changes nothing. -/
theorem switchOver_may {snapshot : MutationSnapshot} (hp : m.rollbackPending = false)
    (hphase : m.phase = .activated) (h : Standing s₀ m s) (hzero : s₀.capacity = 0)
    {r : String} (hr : m.replacementName = some r)
    (hfails : snapshot.requestedPlan.requiresSwapMigration = true ∨ step = .checkActivated ∨
      step = .verifyActive) :
    Act.may (singleFault step) (switchOver snapshot 0 r)
      (fun out m' s' => (∃ e, out = .error e) ∧ m' = m ∧ s' = s) m s := by
  have hcap : (UInt64.ofNat s.capacity).toNat = s.capacity := by
    refine UInt64.toNat_ofNat_of_lt' ?_
    rw [h.capacity_eq hzero hr]
    exact s.swapBytesAt_lt r
  unfold switchOver
  refine Act.may_bind.2 ?_
  unfold ensureSwap
  refine Act.may_bind.2 ?_
  by_cases hcheck : step = .checkActivated
  · -- the capacity check after the activation is the failing step
    exact Act.may_perform.2 ⟨.error (.backend "fault" "injected"), s,
      singleFault_failure hp ⟨rfl, trivial⟩ rfl (by rw [hphase, hcheck]; rfl),
      ⟨_, rfl⟩, rfl, rfl⟩
  · refine Act.may_perform.2 ⟨.ok (.ofNat s.capacity), s,
      singleFault_success hp ⟨rfl, hcap⟩ rfl (by rw [hphase]; simpa [forwardStep] using Ne.symm hcheck), ?_⟩
    refine Act.may_ite.2 ⟨fun _ => ⟨⟨_, rfl⟩, rfl, rfl⟩, fun _ => Act.may_pure.2 ?_⟩
    refine Act.may_ite.2 ⟨fun _ => ?_, fun hstay => ?_⟩
    · -- migration refuses to start without swap
      refine Act.may_bind.2 ?_
      unfold migrate
      exact Act.may_ite.2 ⟨fun _ => Act.may_bind.2 ⟨⟨_, rfl⟩, rfl, rfl⟩,
        fun hne => absurd rfl hne⟩
    · -- the closing verification is the failing step
      have hverify : step = .verifyActive := by
        rcases hfails with hmig | hs | hs
        · exact absurd hmig hstay
        · exact absurd hs hcheck
        · exact hs
      exact Act.may_bind.2 (Act.may_perform.2 ⟨.error (.backend "fault" "injected"), s,
        singleFault_failure hp ⟨rfl, trivial⟩ rfl (by rw [hphase, hverify]; rfl),
        ⟨_, rfl⟩, rfl, rfl⟩)

theorem applyPlan_strands (h : Snapshotted s₀ m) (hstrands : strands s₀ m step) :
    Act.may (singleFault step) applyPlan
      (fun out _ s' => (∃ e, out = .error e) ∧ ¬ s'.SameSwaps s₀) m s₀ := by
  obtain ⟨hproceeds, hzero, hlate, hfails⟩ := hstrands
  simp only [MutationSnapshot.proceeds, Bool.and_eq_true, Bool.not_eq_true'] at hproceeds
  obtain ⟨⟨⟨hdry, hallowed⟩, howner⟩, hequipped⟩ := hproceeds
  obtain ⟨name, hname⟩ := Infinite.exists_notMem_finset s₀.devices.keys
  rw [Finmap.mem_keys] at hname
  unfold applyPlan
  refine Act.may_bind.2 (Act.may_current.2 (Act.may_ite.2
    ⟨fun h => by simp [hdry] at h, fun _ => ?_⟩))
  refine Act.may_ite.2 ⟨fun h => by simp [hallowed] at h, fun _ => ?_⟩
  refine Act.may_ite.2 ⟨fun h => by simp [howner] at h, fun _ => ?_⟩
  have hread : forwardStep m.phase .effectiveValidSwapCapacity ≠ some step := by
    rw [h.phase]
    rintro heq
    rw [← Option.some.inj heq] at hlate
    cases hlate
  refine Act.may_bind.2 (Act.may_perform.2
    ⟨.ok 0, s₀, singleFault_success h.pending ⟨rfl, hzero.symm⟩ rfl hread, ?_⟩)
  have hcreate : forwardStep m.phase .createIsolatedManagedDevice ≠ some step := by
    rintro heq
    rw [← Option.some.inj heq] at hlate
    cases hlate
  refine Act.may_bind.2 (Act.may_perform.2
    ⟨.ok (hotAdded name), s₀.add (hotAdded name),
      singleFault_success h.pending ⟨hname, rfl, rfl, rfl⟩ rfl hcreate, ?_⟩)
  refine Act.may_bind.2 (Act.may_assign.2 (Act.may_bind.2 (Act.may_attempt.2 ?_)))
  have hstand := h.create howner (d := hotAdded name) hname
  unfold applyAfterCreate
  refine Act.may_bind.2 (Act.may_current.2 (Act.may_bind.2 ?_))
  refine Act.may_mono (bringUp_may (by exact h.pending) hstand rfl hequipped hlate) ?_
  rintro out m₁ s₁ ⟨rfl, hon, hphase, hstand₁, hactive⟩
  refine Act.may_mono (switchOver_may (hon.pending.trans h.pending) hphase hstand₁ hzero
    (hon.replacement.trans rfl) hfails) ?_
  rintro out m₂ s₂ ⟨⟨e, rfl⟩, rfl, rfl⟩
  -- the error path
  refine Act.may_bind.2 (Act.may_assign.2 (Act.may_bind.2 (Act.may_attempt.2 ?_)))
  refine Act.may_mono (rollback_strands
    (m := { m₂ with rollbackPending := true, lastError := some e.display })
    (singleFault_permits_of_pending rfl) (hstand₁.congr rfl rfl hstand₁.phase) hzero
    (hon.replacement.trans rfl) hactive) ?_
  rintro out m₃ s₃ ⟨-, hmem⟩
  refine ⟨⟨e, rfl⟩, fun hsame => hname ?_⟩
  rw [← Finmap.mem_keys, ← hsame.devices, Finmap.mem_keys]
  exact hmem

end SingleFault

/-! ## §4 Exactly when a failed transaction restores the machine -/

/-- Whenever `applyPlan` returns an error, after one failing step of its forward part and no
    failure in its rollback, the devices and the active swaps are those from before. -/
def FailureRestores (s₀ : Machine) (m : MutationSnapshot) (step : ForwardStep) : Prop :=
  ∀ e m' s', Reaches (singleFault step) (applyPlan m) s₀ (.pure (.error e, m')) s' →
    s'.SameSwaps s₀

/-- **Atomicity.** A failed transaction restores the machine exactly when it does not fail
    after activating the replacement on a machine without swap. -/
theorem failureRestores_iff {s₀ : Machine} {m : MutationSnapshot} (h : Snapshotted s₀ m)
    (step : ForwardStep) : FailureRestores s₀ m step ↔ ¬ strands s₀ m step := by
  constructor
  · intro hrestores hstrands
    obtain ⟨⟨out, m'⟩, s', hreach, ⟨e, rfl⟩, hdiff⟩ :=
      Prog.may_reaches (applyPlan_strands h hstrands)
    exact hdiff (hrestores e m' s' hreach)
  · intro hstrands e m' s' hreach
    exact Prog.wp_reaches (applyPlan_restores h hstrands) hreach e rfl

/-- With one active swap the theorem promises the restoration, whatever step fails. -/
theorem failureRestores_zram0 :
    0 < (oneDeviceMachine true).capacity ∧
      FailureRestores (oneDeviceMachine true) (replaceZram0 true true) .checkMigrated :=
  ⟨by decide, (failureRestores_iff (replaceZram0_snapshotted true true) .checkMigrated).2
    fun h => absurd h.2.1 (by decide)⟩

/-- An idle `zram0` and no other swap: when the closing verification fails, the rollback
    leaves the replacement behind. -/
theorem idle_zram0_strands_replacement :
    ¬ FailureRestores (oneDeviceMachine false) (replaceZram0 false false) .verifyActive := by
  intro hrestores
  have hstrands : strands (oneDeviceMachine false) (replaceZram0 false false) .verifyActive :=
    ⟨by decide, by decide, rfl, .inr (.inr rfl)⟩
  obtain ⟨⟨out, m'⟩, s', hreach, ⟨e, rfl⟩, hdiff⟩ := Prog.may_reaches
    (applyPlan_strands (replaceZram0_snapshotted false false) hstrands)
  exact hdiff (hrestores e m' s' hreach)

end Nemor.Zram
