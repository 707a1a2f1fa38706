import Nemor.Zram.Atomicity

/-!
# zram: recovery after a crash

A crash can hit `applyPlan` before each of its backend operations, those of its internal
rollback included. The snapshot then is what the call had made of it. `recoverPending` acts
only on snapshots whose `rollbackPending` flag is set, and `applyPlan` sets it only on its
error path: a crash on the forward path leaves a replacement that recovery does not touch.
-/

namespace Nemor.Zram

open Effectful

/-! ## §1 Crash points -/

/-- A crash of `applyPlan`, started on `m₀` and `s₀`, just before one of its backend
    operations: the snapshot is `m` and the machine is `s`. The operations before it may have
    failed in any way. The devices in `s` that count as owned are those owned at the crash: a
    backend made after a restart has them registered again before it recovers. -/
def CrashPoint (s₀ : Machine) (m₀ m : MutationSnapshot) (s : Machine) : Prop :=
  ∃ q, Reaches atomic (applyPlan m₀) s₀ q s ∧ q.memory? = some m

/-- Recovery without failures brings back the devices and the active swaps of `s₀`. -/
def RecoveryRestores (s₀ : Machine) (m : MutationSnapshot) (s : Machine) : Prop :=
  ∀ out s', Reaches succeeding (recoverPending m) s (.pure out) s' → s'.SameSwaps s₀

/-- What every crash point looks like. -/
theorem CrashPoint.live {s₀ s : Machine} {m₀ m : MutationSnapshot} (h : Snapshotted s₀ m₀)
    (hcrash : CrashPoint s₀ m₀ m s) : Live s₀ m s := by
  obtain ⟨q, hreach, hm⟩ := hcrash
  exact Prog.wp_crash (applyPlan_wp (R := atomic) (fun _ _ _ _ _ hr => hr) h) hreach hm

/-! ## §2 Recovery -/

section Recovery

variable {s₀ s : Machine} {m : MutationSnapshot}

/-- Without a replacement the machine is as it was. -/
theorem Live.sameSwaps (h : Live s₀ m s) (hnone : m.replacementName = none) : s.SameSwaps s₀ := by
  rcases h.swap with horig | ⟨r, d, hr, -⟩
  · exact h.confined.sameSwaps horig fun r hr => by rw [hnone] at hr; cases hr
  · rw [hnone] at hr
    cases hr

/-- A registered replacement is a device that was not there before. -/
theorem Live.not_sameSwaps (h : Live s₀ m s) {r : String} (hr : m.replacementName = some r)
    {s' : Machine} (hmem : r ∈ s'.devices) : ¬ s'.SameSwaps s₀ := by
  intro hsame
  have hfresh := Finmap.lookup_eq_none.1 (h.confined.fresh r hr)
  rw [← Finmap.mem_keys, ← hsame.devices, Finmap.mem_keys] at hfresh
  exact hfresh hmem

theorem recoverPending_restores (h : Live s₀ m s)
    (hcond : m.replacementName = none ∨
      (m.rollbackPending = true ∧ (0 < s₀.capacity ∨ ReplacementIdle m s))) :
    Act.wp succeeding (fun _ _ => True) recoverPending (fun _ _ s' => s'.SameSwaps s₀) m s := by
  unfold recoverPending
  refine Act.wp_bind.2 (Act.wp_current.2 (Act.wp_ite.2 ⟨fun hquiet => ?_, fun _ => ?_⟩))
  · -- nothing is pending, so nothing was created
    rcases hcond with hnone | ⟨hpending, -⟩
    · exact h.sameSwaps hnone
    · simp [hpending, h.phase] at hquiet
  · refine Act.wp_ite.2 ⟨fun hforeign => Act.wp_bind.2 ?_, fun _ => ?_⟩
    · by_cases hnone : m.replacementName = none
      · exact h.sameSwaps hnone
      · simp [h.owner hnone] at hforeign
    · refine rollback_restores (fun _ _ _ _ _ hr => hr.1) (fun _ _ _ _ hr => hr.2)
        (fun _ _ => trivial) h ?_
      rcases hcond with hnone | ⟨-, hcap⟩
      · exact .inr fun r hr => by rw [hnone] at hr; cases hr
      · exact hcap

theorem recoverPending_strands (h : Live s₀ m s) {r : String} (hr : m.replacementName = some r)
    (hcond : m.rollbackPending = false ∨ (s₀.capacity = 0 ∧ s.isActive r = true)) :
    Act.may succeeding recoverPending (fun _ _ s' => r ∈ s'.devices) m s := by
  unfold recoverPending
  refine Act.may_bind.2 (Act.may_current.2 (Act.may_ite.2
    ⟨fun _ => (h.registered r hr).1, fun hpending => ?_⟩))
  have hpending : m.rollbackPending = true := by simp_all
  refine Act.may_ite.2 ⟨fun hforeign => by simp [h.owner (by simp [hr])] at hforeign, fun _ => ?_⟩
  rcases hcond with hoff | ⟨hzero, hactive⟩
  · rw [hpending] at hoff
    cases hoff
  · exact Act.may_mono (rollback_strands (fun _ _ _ _ ha hok => ⟨ha, hok⟩) ⟨h, h.dry hzero⟩ hzero
      hr hactive) fun _ _ _ hpost => hpost.2

end Recovery

/-- **Crash recovery.** After a crash of `applyPlan`, recovery restores the machine exactly
    when no replacement had been recorded yet, or the crash hit the internal rollback and
    there was swap at the start or the replacement was not in use. -/
theorem recoveryRestores_iff {s₀ s : Machine} {m₀ m : MutationSnapshot} (h : Snapshotted s₀ m₀)
    (hcrash : CrashPoint s₀ m₀ m s) :
    RecoveryRestores s₀ m s ↔ m.replacementName = none ∨
      (m.rollbackPending = true ∧ (0 < s₀.capacity ∨ ReplacementIdle m s)) := by
  have hlive := hcrash.live h
  constructor
  · intro hrestores
    by_contra hcond
    obtain ⟨r, hr⟩ : ∃ r, m.replacementName = some r :=
      Option.ne_none_iff_exists'.1 fun hnone => hcond (.inl hnone)
    have hstuck : m.rollbackPending = false ∨ (s₀.capacity = 0 ∧ s.isActive r = true) := by
      by_contra hno
      rw [not_or, not_and_or] at hno
      obtain ⟨hpending, hcap⟩ := hno
      refine hcond (.inr ⟨by simpa using hpending, ?_⟩)
      rcases hcap with hcap | hidle
      · exact .inl (Nat.pos_of_ne_zero hcap)
      · refine .inr fun r' hr' => ?_
        obtain rfl : r = r' := by
          rw [hr] at hr'
          exact Option.some.inj hr'
        simpa using hidle
    obtain ⟨out, s', hreach, hmem⟩ := Prog.may_reaches (recoverPending_strands hlive hr hstuck)
    exact hlive.not_sameSwaps hr hmem (hrestores out s' hreach)
  · intro hcond out s' hreach
    exact Prog.wp_reaches (recoverPending_restores hlive hcond) hreach

/-! ## §3 Concrete crashes -/

/-- The crash points of a call on the healthy backend: after `n` operations. -/
theorem crashPoint_after {s₀ : Machine} {m₀ m : MutationSnapshot} (n : ℕ)
    (hm : ((applyPlan m₀).after healthy n s₀).1.memory? = some m) :
    CrashPoint s₀ m₀ m ((applyPlan m₀).after healthy n s₀).2 :=
  ⟨_, (Prog.after_reaches healthy n _ _).mono ofHandler_healthy_atomic, hm⟩

/-- The migration of `zram0` stopped after `n` operations of the healthy backend. -/
def stoppedMigration (n : ℕ) : Machine :=
  ((applyPlan (replaceZram0 true true)).after healthy n (oneDeviceMachine true)).2

/-- A crash before the replacement is created has nothing to undo. -/
theorem recoveryRestores_before_create :
    CrashPoint (oneDeviceMachine true) (replaceZram0 true true) (replaceZram0 true true)
      (stoppedMigration 1) ∧
    RecoveryRestores (oneDeviceMachine true) (replaceZram0 true true) (stoppedMigration 1) :=
  ⟨crashPoint_after 1 rfl, (recoveryRestores_iff (replaceZram0_snapshotted true true)
    (crashPoint_after 1 rfl)).2 (.inl rfl)⟩

/-- A crash right after the original was switched off: the snapshot names the replacement,
    nothing is pending, and recovery leaves `zram1` in and `zram0` out of use. -/
theorem crash_during_migration_is_not_recovered :
    ∃ m, CrashPoint (oneDeviceMachine true) (replaceZram0 true true) m (stoppedMigration 8) ∧
      ¬ RecoveryRestores (oneDeviceMachine true) m (stoppedMigration 8) := by
  refine ⟨{ replaceZram0 true true with
    replacementName := some "zram1", phase := .originalDeactivated }, crashPoint_after 8 rfl, ?_⟩
  intro hrestores
  have hsame := hrestores _ _ (.refl _ _)
  exact absurd hsame.active (by decide)

end Nemor.Zram
