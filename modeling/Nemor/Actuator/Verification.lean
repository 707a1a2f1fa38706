import Nemor.Actuator.RoundTrip

/-!
# When the read-back of a healthy hierarchy passes

After it has written the limits and moved the process, `apply_one` reads the target back and
compares: a limit that the plan leaves unset must read as no number. `memory.high` of a new
group reads `max`, which is no number, but `memory.low` of a new group reads `0`. So a plan
without `memory_low` is rolled back on a hierarchy that did everything it was asked to.

- §1: when a limit reads back as requested
- §2: the path to a verified snapshot
- §3: exactly which plans are verified
-/

namespace Nemor.Actuator

open Effectful

/-! ## §1 Limits -/

namespace Limit

/-- Writing the request, if there is one, makes the limit read like the request: a number of
    bytes is a whole number of pages below the page counter's end, and a limit that is not
    written is `max` already. -/
def Reproduces (l : Limit) : Option UInt64 → Prop
  | none => l = .max
  | some bytes => bytes.toNat % pageSize = 0 ∧ bytes.toNat / pageSize < pageCounterMax

theorem read_eq_none_iff {l : Limit} : l.read = none ↔ l = .max := by
  cases l with
  | max => exact ⟨fun _ => rfl, fun _ => rfl⟩
  | pages n => exact ⟨fun h => (by cases h), fun h => (by cases h)⟩

theorem read_ofBytes_iff {bytes : UInt64} :
    (ofBytes bytes).read = some bytes ↔
      bytes.toNat % pageSize = 0 ∧ bytes.toNat / pageSize < pageCounterMax := by
  unfold ofBytes
  by_cases hpages : bytes.toNat / pageSize < pageCounterMax
  · rw [dif_pos hpages]
    -- whole pages in bytes never leave the register
    have hfits : bytes.toNat / pageSize * pageSize < 2 ^ 64 :=
      lt_of_le_of_lt (Nat.div_mul_le_self _ _) bytes.toNat_lt
    have hread : (pages ⟨bytes.toNat / pageSize, hpages⟩).read = some bytes ↔
        bytes.toNat / pageSize * pageSize = bytes.toNat := by
      simp only [read, Option.some.injEq]
      rw [← UInt64.toNat_inj, UInt64.toNat_ofNat', Nat.mod_eq_of_lt hfits]
    rw [hread]
    constructor
    · intro h
      exact ⟨Nat.mod_eq_zero_of_dvd ⟨_, by rw [Nat.mul_comm]; exact h.symm⟩, hpages⟩
    · rintro ⟨h, -⟩
      exact Nat.div_mul_cancel (Nat.dvd_of_mod_eq_zero h)
  · -- beyond the counter the kernel keeps `max`, which reads as no limit
    rw [dif_neg hpages]
    exact ⟨fun h => (by cases h), fun h => absurd h.2 hpages⟩

theorem read_write_iff {l : Limit} {request : Option UInt64} :
    (l.write request).read = request ↔ l.Reproduces request := by
  cases request with
  | none => exact read_eq_none_iff
  | some bytes => exact read_ofBytes_iff

end Limit

theorem Group.properties_write_iff {g : Group} {p : RequestedProperties} :
    (g.write p).properties = p ↔
      g.memoryLow.Reproduces p.memoryLow ∧ g.memoryHigh.Reproduces p.memoryHigh := by
  rw [← Limit.read_write_iff, ← Limit.read_write_iff]
  cases p
  simp [Group.properties, Group.write]

/-! ## §2 The path to a verified snapshot -/

section Path

variable {plan : CgroupPlan} {w : World}

/-- The process is in the target and the target's limits read as requested. -/
structure InPlace (plan : CgroupPlan) (w : World) : Prop where
  limits : ∃ g, w.kernel.groups.lookup plan.targetGroup = some g ∧ g.properties = plan.properties
  placed : plan.pid ∈ w.kernel.residents plan.targetGroup

theorem confirm_verifies {s : MutationSnapshot} (hm : isManagedName plan.targetGroup = true)
    (h : InPlace plan w) :
    Ends (confirm plan s) (fun r _ _ => r = .ok (some (confirmed s))) () w := by
  obtain ⟨⟨g, hg, hproperties⟩, hplaced⟩ := h
  have happlied : World.handle (.update { s with applied := true }) w =
      (.ok (), { w with store := w.store.update { s with applied := true } }) := rfl
  apply ends_issue happlied
  apply ends_issue (handle_inspectGroup hm)
  rw [hg]
  refine Act.wp_ite.2 ⟨fun hdiffers => ?_, fun _ => ?_⟩
  · -- all three comparisons hold
    rw [← hproperties] at hdiffers
    rcases hdiffers with hpid | hlow | hhigh
    · exact absurd hplaced hpid
    · exact absurd rfl hlow
    · exact absurd rfl hhigh
  · have hverified (w : World) : World.handle (.update (confirmed s)) w =
        (.ok (), { w with store := w.store.update (confirmed s) }) := rfl
    apply ends_issue (hverified _)
    rfl

theorem mutate_verifies {sessionId : Int64} {s : MutationSnapshot} {q : Proc}
    (hm : isManagedName plan.targetGroup = true)
    (hq : w.kernel.procs.lookup plan.pid = some q)
    (hlimits : (((w.kernel.groups.lookup plan.targetGroup).getD .fresh).write
      plan.properties).properties = plan.properties) :
    Ends (mutate sessionId plan s) (fun r _ _ => r = .ok (some (confirmed s))) () w := by
  apply mutate_confirms hm hq
  intro w₁ hmoved
  apply confirm_verifies hm
  constructor
  · exact ⟨_, hmoved.group, hlimits⟩
  · apply Kernel.mem_residents.2
    refine ⟨{ q with group := plan.targetGroup }, ?_, rfl⟩
    rw [hmoved.procs]
    exact Finmap.lookup_insert _

/-- The target is Nemor's own, the memory interface is complete and writable, the process is
    the planned one, and its start ticks fit the table. -/
structure Applicable (plan : CgroupPlan) (k : Kernel) : Prop where
  managed : isManagedName plan.targetGroup = true
  ready : ∃ c, k.capabilities = .ok c ∧ c.mutationReady = true
  alive : (k.procs.lookup plan.pid).map Proc.startTimeTicks = some plan.startTimeTicks
  ticks : plan.startTimeTicks.toNat < 2 ^ 63

theorem identify_applicable {q : Proc} (h : Applicable plan w.kernel)
    (hq : w.kernel.procs.lookup plan.pid = some q) :
    Ends (identify plan) (fun r _ w' => w' = w ∧ r = .ok ("/" ++ q.group)) () w := by
  obtain ⟨c, hc, hready⟩ := h.ready
  have hcapabilities : World.handle .capabilities w = (.ok c, w) := by
    rw [World.handle, hc]
  apply ends_issue hcapabilities
  refine Act.wp_ite.2 ⟨fun hnot => (by rw [hready] at hnot; cases hnot), fun _ => ?_⟩
  have hstart : World.handle (.processStartTime plan.pid) w =
      (.ok (some plan.startTimeTicks), w) := by
    rw [World.handle, Kernel.processStartTime, h.alive]
  apply ends_issue hstart
  refine Act.wp_ite.2 ⟨fun hstale => absurd rfl hstale, fun _ => ?_⟩
  have hgroup : World.handle (.processGroup plan.pid) w = (.ok (some ("/" ++ q.group)), w) := by
    rw [World.handle, Kernel.processGroup, hq]
    rfl
  apply ends_issue hgroup
  exact ⟨rfl, rfl⟩

/-- Nothing stops an applicable plan whose target then reads as requested. -/
theorem applyOne_verifies {sessionId timestampNs : Int64} (hactive : plan.dryRun = false)
    (hallowed : plan.allowed = true) (h : Applicable plan w.kernel)
    (hlimits : (((w.kernel.groups.lookup plan.targetGroup).getD .fresh).write
      plan.properties).properties = plan.properties) :
    Ends (applyOne sessionId timestampNs plan)
      (fun r _ _ => ∃ s, r = .ok (some s) ∧ s.verified = true) () w := by
  obtain ⟨q, hq, -⟩ := Option.map_eq_some_iff.1 h.alive
  rw [applyOne, if_neg (by simp [hactive]), if_neg (by simp [hallowed]),
    if_neg (by simp [h.managed])]
  apply Act.wp_bind.2
  apply Act.wp_mono (identify_applicable h hq)
  rintro _ _ w₁ ⟨rfl, rfl⟩
  apply ends_issue (handle_inspectGroup h.managed)
  refine ends_issue (by
    rw [World.handle, Store.persist_ok (by exact h.ticks)]) ?_
  refine Act.wp_mono (mutate_verifies h.managed (by exact hq) (by exact hlimits)) ?_
  rintro _ _ _ rfl
  exact ⟨_, rfl, rfl⟩

/-! ## §3 Which plans are verified -/

/-- A snapshot has only been stored for an applicable plan. -/
theorem applyOne_applicable {sessionId timestampNs : Int64} :
    Ends (applyOne sessionId timestampNs plan)
      (OnOk fun o _ => o.isSome → Applicable plan w.kernel) () w := by
  apply applyOne_records (fun h => by cases h)
  rintro - hm originalGroup ⟨hready, halive, -⟩
  apply ends_issue (handle_inspectGroup hm)
  by_cases hticks : plan.startTimeTicks.toNat < 2 ^ 63
  · refine Act.wp_mono Act.wp_trivial ?_
    intro r _ w' _ o _ _
    exact ⟨hm, hready, halive, hticks⟩
  · -- the store refuses ticks that do not fit its signed column
    refine ends_onOk fun id w₂ hpersist => ?_
    rw [World.handle, Store.persist_overflow (by exact not_lt.1 hticks)] at hpersist
    cases hpersist

/-- What a verified application asks of the plan and of the hierarchy before it. The target's
    limits are those of a new group if it is not there. -/
structure Verifiable (plan : CgroupPlan) (k : Kernel) : Prop where
  applicable : Applicable plan k
  low : ((k.groups.lookup plan.targetGroup).getD .fresh).memoryLow.Reproduces
    plan.properties.memoryLow
  high : ((k.groups.lookup plan.targetGroup).getD .fresh).memoryHigh.Reproduces
    plan.properties.memoryHigh

/-- **Verification.** On a hierarchy where no call fails, an allowed plan that is no dry run
    ends in a verified snapshot exactly when it is applicable, each limit it sets is a whole
    number of pages below the counter's end, and each limit it leaves unset is `max` in the
    target: for `memory.low` this asks for a target that exists already, since a new group
    has `memory.low = 0`. -/
theorem applyOne_verified_iff {sessionId timestampNs : Int64} (hactive : plan.dryRun = false)
    (hallowed : plan.allowed = true) :
    (∃ s w', (applyOne sessionId timestampNs plan ()).exec World.handle w =
      ((.ok (some s), ()), w') ∧ s.verified = true) ↔ Verifiable plan w.kernel := by
  constructor
  · -- the limits were read back as requested, and they are what the target was left with
    rintro ⟨s, w', hrun, -⟩
    have heffect := Act.wp_exec (@applyOne_effect plan w sessionId timestampNs)
    have hread := Act.wp_exec (@applyOne_readsBack plan w sessionId timestampNs)
    have hadmitted := Act.wp_exec (@applyOne_applicable plan w sessionId timestampNs)
    rw [hrun] at heffect hread hadmitted
    obtain ⟨q, happlied⟩ := heffect _ rfl
    obtain ⟨hlow, hhigh⟩ := Group.properties_write_iff.1 (hread _ rfl rfl _ happlied.group)
    exact ⟨hadmitted _ rfl rfl, hlow, hhigh⟩
  · intro h
    have hlimits := Group.properties_write_iff.2 ⟨h.low, h.high⟩
    have hrun := Act.wp_exec
      (@applyOne_verifies plan w sessionId timestampNs hactive hallowed h.applicable hlimits)
    obtain ⟨s, hs, hverified⟩ := hrun
    exact ⟨s, _, Prod.ext (Prod.ext hs rfl) rfl, hverified⟩

end Path

theorem protectPlan_verifiable : Verifiable (protectPlan foregroundGroup) smallKernel where
  applicable := {
    managed := by decide
    ready := ⟨_, rfl, by decide⟩
    alive := rfl
    ticks := by decide }
  low := ⟨by decide, by decide⟩
  high := rfl

/-- Protecting the process of the small hierarchy is verified. -/
theorem protected_process_verified :
    ∃ s w', (applyOne 1 1 (protectPlan foregroundGroup) ()).exec World.handle smallWorld =
      ((.ok (some s), ()), w') ∧ s.verified = true :=
  (applyOne_verified_iff rfl rfl).2 protectPlan_verifiable

/-- A soft limit for the same process, as the planner makes it for the background. -/
def backgroundPlan : CgroupPlan :=
  { protectPlan backgroundGroup with
    properties := { memoryLow := none, memoryHigh := some 1048576 }
    reason := "conservative_background_soft_limit" }

/-- The small hierarchy admits the plan and yet its application is not verified: the new
    group reads `memory.low = 0`. -/
theorem background_plan_rolled_back :
    (backgroundPlan.allowed = true ∧ backgroundPlan.dryRun = false ∧
      Applicable backgroundPlan smallKernel) ∧
      ¬ ∃ s w', (applyOne 1 1 backgroundPlan ()).exec World.handle smallWorld =
        ((.ok (some s), ()), w') ∧ s.verified = true := by
  refine ⟨⟨rfl, rfl, by decide, ⟨_, rfl, by decide⟩, rfl, by decide⟩, ?_⟩
  have hrun : succeeded (appliedTo smallWorld backgroundPlan) = none := by
    decide +kernel
  rintro ⟨s, w', h, -⟩
  unfold appliedTo at hrun
  rw [h] at hrun
  cases hrun

end Nemor.Actuator
