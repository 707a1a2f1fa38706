import Nemor.Zram.NoSwapLoss

/-!
# zram: what a rollback reports

`rollback` answers with the same outcome on every path that ends without an error. What that
outcome is worth depends on the path: a snapshot that is already rolled back is answered
without a look at the machine, a replacement that is not registered is passed over, and the
original is switched on where it has to be but never off.
-/

namespace Nemor.Zram

open Effectful

/-! ## §1 Faithful backends -/

/-- A backend whose successes are what they say. An operation that fails may leave
    anything behind. -/
def faithful {μ : Type} : Env zramBackend μ Machine :=
  fun _ s op r s' => op.succeeded r = true → answers s op r s'

theorem ofHandler_healthy_faithful {μ : Type} (m : μ) (s : Machine) (op : ZramOp)
    (r : op.Value) (s' : Machine) (h : Env.ofHandler healthy m s op r s') :
    faithful m s op r s' :=
  fun _ => ofHandler_healthy_atomic m s op r s' h

section Operations

variable {P : Machine → Prop} {name : String}

/-- An operation without a value on one device, when it succeeds. -/
def Changed (P : Machine → Prop) (name : String) (f : DeviceInventory → DeviceInventory)
    (s' : Machine) : Prop :=
  ∃ s, P s ∧ s' = s.modify name f

theorem verify_faithful : Act.Triple faithful P (verify name)
    (fun d s => P s ∧ s.devices.lookup name = some d) (fun _ => True) := by
  apply Act.triple_perform
  rintro t s (e | d) s' hs hr
  · trivial
  · obtain ⟨rfl, hd⟩ := hr rfl
    exact ⟨hs, hd⟩

theorem activate_faithful {priority : Int32} : Act.Triple faithful P (activate name priority)
    (fun _ => Changed P name (.switchedOn priority)) (fun _ => True) := by
  apply Act.triple_perform
  rintro t s (e | u) s' hs hr
  · trivial
  · exact ⟨s, hs, (hr rfl).2⟩

theorem deactivate_faithful : Act.Triple faithful P (deactivate name)
    (fun _ => Changed P name .switchedOff) (fun _ => True) := by
  apply Act.triple_perform
  rintro t s (e | u) s' hs hr
  · trivial
  · exact ⟨s, hs, (hr rfl).2⟩

theorem removeManagedDevice_faithful : Act.Triple faithful P (removeManagedDevice name)
    (fun _ s' => ∃ s, P s ∧ s' = s.remove name) (fun _ => True) := by
  apply Act.triple_perform
  rintro t s (e | u) s' hs hr
  · trivial
  · exact ⟨s, hs, (hr rfl).2⟩

theorem isOwned_faithful : Act.Triple faithful P (isOwned name)
    (fun owned s => P s ∧ owned = decide (name ∈ s.owned)) (fun _ => True) := by
  apply Act.triple_perform
  intro t s owned s' hs hr
  obtain ⟨rfl, howned⟩ := hr rfl
  exact ⟨hs, howned⟩

theorem ensureSwap_faithful :
    Act.Triple faithful P ensureSwap (fun _ => P) (fun _ => True) := by
  have hread : Act.Triple faithful P effectiveValidSwapCapacity (fun _ => P) (fun _ => True) := by
    apply Act.triple_perform
    rintro t s (e | c) s' hs hr
    · trivial
    · obtain ⟨rfl, -⟩ := hr rfl
      exact hs
  refine Act.triple_bind hread fun c => Act.triple_ite (fun _ => ?_) fun _ => ?_
  · exact Act.triple_fail fun _ _ => trivial
  · exact Act.triple_pure fun _ hs => hs

end Operations

/-! ## §2 What a rollback does -/

section Rollback

variable {s₀ s s' : Machine}

theorem Machine.isActive_modify_self (s : Machine) (name : String)
    (f : DeviceInventory → DeviceInventory) :
    (s.modify name f).isActive name =
      (s.devices.lookup name).any fun d => (f d).activeSwap := by
  rw [isActive, lookup_modify_self, Option.any_map]

/-- Nothing but the device `name` has changed, and nobody's ownership. -/
structure Beside (name : String) (s s' : Machine) : Prop where
  owned : s'.owned = s.owned
  others : ∀ other, other ≠ name → s'.devices.lookup other = s.devices.lookup other

theorem Beside.refl (name : String) (s : Machine) : Beside name s s := ⟨rfl, fun _ _ => rfl⟩

theorem Beside.modify {name : String} (h : Beside name s₀ s)
    (f : DeviceInventory → DeviceInventory) : Beside name s₀ (s.modify name f) where
  owned := by rw [Machine.owned_modify, h.owned]
  others := fun other hne => by rw [Machine.lookup_modify_of_ne hne, h.others other hne]

/-- After the original has been brought back it is in use if it has to be, or was anyway. -/
structure Restored (original : DeviceInventory) (s₀ s : Machine) : Prop
    extends Beside original.name s₀ s where
  active : s.isActive original.name = (original.activeSwap || s₀.isActive original.name)

theorem restoreOriginal_faithful (original : DeviceInventory) (s₀ : Machine) :
    Act.Triple faithful (· = s₀) (restoreOriginal original)
      (fun _ => Restored original s₀) (fun _ => True) := by
  unfold restoreOriginal
  refine Act.triple_ite (fun hon => ?_) fun hoff => ?_
  · refine Act.triple_bind verify_faithful fun current => ?_
    refine Act.triple_ite (fun _ => ?_) fun hactive => ?_
    · -- the original is off and is switched on again
      refine Act.triple_bind activate_faithful fun _ => ?_
      refine ensureSwap_faithful.mono (fun _ h => h) ?_ fun _ h => h
      rintro _ _ ⟨s, ⟨rfl, hd⟩, rfl⟩
      refine ⟨(Beside.refl _ _).modify _, ?_⟩
      rw [Machine.isActive_modify_self, hd, hon]
      rfl
    · apply Act.triple_pure
      rintro s ⟨rfl, hd⟩
      have hcurrent : current.activeSwap = true := by simpa using hactive
      refine ⟨Beside.refl _ _, ?_⟩
      rw [Machine.isActive, hd, Option.any_some, hcurrent, Bool.or_true]
  · apply Act.triple_pure
    rintro s rfl
    have hinactive : original.activeSwap = false := by simpa using hoff
    exact ⟨Beside.refl _ _, by rw [hinactive, Bool.false_or]⟩

/-- After the replacement has been discarded it is gone if it was Nemor's own, and every
    other device is as it was. -/
structure Discards (replacementName : Option String) (s₀ s : Machine) : Prop where
  gone : ∀ r, replacementName = some r → r ∈ s₀.owned → r ∉ s.devices
  others : ∀ name, (replacementName = some name → name ∉ s₀.owned) →
    s.devices.lookup name = s₀.devices.lookup name

/-- A registered replacement that only the operations before have touched is removed. -/
theorem Beside.remove {r : String} (h : Beside r s₀ s) (howned : r ∈ s₀.owned) :
    Discards (some r) s₀ (s.remove r) where
  gone := by
    rintro _ ⟨⟩ - hmem
    exact Finmap.notMem_erase_self hmem
  others := fun name hother => by
    have hne : name ≠ r := by
      rintro rfl
      exact hother rfl howned
    rw [lookup_remove_of_ne hne, h.others name hne]

theorem discardReplacement_faithful (replacementName : Option String) (s₀ : Machine) :
    Act.Triple faithful (· = s₀) (discardReplacement replacementName)
      (fun _ => Discards replacementName s₀) (fun _ => True) := by
  unfold discardReplacement
  cases replacementName with
  | none =>
    apply Act.triple_pure
    rintro s rfl
    exact ⟨fun _ hr => (by cases hr), fun _ _ => rfl⟩
  | some r =>
    refine Act.triple_bind isOwned_faithful fun owned => ?_
    refine Act.triple_ite (fun howned => ?_) fun hforeign => ?_
    · have hremove : Act.Triple faithful (fun s => Beside r s₀ s ∧ r ∈ s₀.owned)
          (removeManagedDevice r) (fun _ => Discards (some r) s₀) (fun _ => True) := by
        refine removeManagedDevice_faithful.mono (fun _ h => h) ?_ fun _ h => h
        rintro _ _ ⟨s, ⟨hs, hr⟩, rfl⟩
        exact hs.remove hr
      refine Act.triple_bind verify_faithful fun current => ?_
      refine Act.triple_ite (fun _ => ?_) fun _ => ?_
      · -- an active replacement is switched off before it is removed
        refine Act.triple_bind deactivate_faithful fun _ => ?_
        refine Act.triple_bind ensureSwap_faithful fun _ => ?_
        refine hremove.mono ?_ (fun _ _ h => h) fun _ h => h
        rintro _ ⟨s, ⟨⟨rfl, rfl⟩, -⟩, rfl⟩
        exact ⟨(Beside.refl _ _).modify _, by simpa using howned⟩
      · refine hremove.mono ?_ (fun _ _ h => h) fun _ h => h
        rintro s ⟨⟨rfl, rfl⟩, -⟩
        exact ⟨Beside.refl _ _, by simpa using howned⟩
    · -- a replacement that is not owned is left alone
      apply Act.triple_pure
      rintro s ⟨rfl, rfl⟩
      refine ⟨fun r' hr' hr => ?_, fun _ _ => rfl⟩
      cases hr'
      simp [hr] at hforeign

end Rollback

/-! ## §3 The report -/

/-- What a successful rollback of `m` ought to mean: the replacement is gone, and the original
    is in use exactly if it was when the snapshot was taken. -/
structure Truthful (m : MutationSnapshot) (s : Machine) : Prop where
  replacement : ∀ r, m.replacementName = some r → r ∉ s.devices ∧ s.isActive r = false
  original : s.isActive m.original.name = m.original.activeSwap

/-- Whenever a rollback of `m` on `s` reports success, the report is truthful. -/
def TruthfulReport (m : MutationSnapshot) (s : Machine) : Prop :=
  ∀ out m' s', Reaches faithful (rollback m) s (.pure (.ok out, m')) s' →
    out.rolledBack = true → Truthful m s'

/-- What a successful rollback of `m`, begun on `s₀`, does mean. A replacement that is not
    registered as Nemor's own is not spoken of. -/
structure Reported (m : MutationSnapshot) (s₀ s : Machine) : Prop where
  replacement : ∀ r, m.replacementName = some r → r ∈ s₀.owned →
    r ∉ s.devices ∧ s.isActive r = false
  original : (m.replacementName = some m.original.name → m.original.name ∉ s₀.owned) →
    s.isActive m.original.name = (m.original.activeSwap || s₀.isActive m.original.name)

theorem Machine.isActive_of_notMem {s : Machine} {name : String} (h : name ∉ s.devices) :
    s.isActive name = false := by
  rw [isActive, Finmap.lookup_eq_none.2 h, Option.any_none]

theorem Restored.reported {m : MutationSnapshot} {s₀ s₁ s₂ : Machine}
    (h : Restored m.original s₀ s₁) (hd : Discards m.replacementName s₁ s₂) :
    Reported m s₀ s₂ where
  replacement := fun r hr howned => by
    have hgone := hd.gone r hr (h.owned ▸ howned)
    exact ⟨hgone, Machine.isActive_of_notMem hgone⟩
  original := fun hother => by
    rw [← h.owned] at hother
    rw [← h.active, Machine.isActive, hd.others _ hother, Machine.isActive]

theorem rollback_faithful (m : MutationSnapshot) (s₀ : Machine) :
    Act.wp faithful (fun _ _ => True) rollback
      (fun r _ s => Act.Ends (fun out s => out = rolledBackOutcome ∧
        (m.phase = .rolledBack → s = s₀) ∧ (m.phase ≠ .rolledBack → Reported m s₀ s))
        (fun _ => True) r s) m s₀ := by
  unfold rollback
  refine Act.wp_bind.2 (Act.wp_current.2 (Act.wp_ite.2 ⟨fun hphase => ?_, fun hphase => ?_⟩))
  · exact ⟨rfl, fun _ => rfl, fun hne => absurd hphase hne⟩
  refine Act.wp_bind.2 (Act.wp_mono (restoreOriginal_faithful m.original s₀ m s₀ rfl) ?_)
  rintro (e | u) m₁ s₁ hrestored
  · trivial
  refine Act.wp_bind.2
    (Act.wp_mono (discardReplacement_faithful m.replacementName s₁ m₁ s₁ rfl) ?_)
  rintro (e | u) m₂ s₂ hdiscards
  · trivial
  · exact ⟨rfl, fun heq => absurd heq hphase, fun _ => hrestored.reported hdiscards⟩

/-- **Rollback report.** A rollback that reports success, whatever failed and whatever was left
    behind on the way, has removed a registered replacement, and the original is in use if it
    was when the snapshot was taken or when the rollback began. A snapshot that is rolled back
    already is answered without touching the machine. -/
theorem rollback_report {m m' : MutationSnapshot} {s s' : Machine} {out : TransactionOutcome}
    (hrun : Reaches faithful (rollback m) s (.pure (.ok out, m')) s') :
    out = rolledBackOutcome ∧ (m.phase = .rolledBack → s' = s) ∧
      (m.phase ≠ .rolledBack → Reported m s s') :=
  Prog.wp_reaches (rollback_faithful m s) hrun

/-! ## §4 Concrete rollbacks -/

/-- `zram0` and `zram1`, both in use as swap. -/
def bothActive : Machine :=
  (oneDeviceMachine true).add { oneDevice true with name := "zram1" }

/-- A replacement `zram1` for `zram0` that has been brought up. -/
def broughtUp (active : Bool) : MutationSnapshot :=
  { replaceZram0 active true with replacementName := some "zram1", phase := .activated }

theorem broughtUp_rollback :
    "zram1" ∉ ((rollback (broughtUp true)).exec healthy bothActive).2.devices ∧
    ((rollback (broughtUp true)).exec healthy bothActive).2.isActive "zram0" = true := by
  have hrun : Reaches faithful (rollback (broughtUp true)) bothActive
      (.pure (.ok rolledBackOutcome, _)) ((rollback (broughtUp true)).exec healthy bothActive).2 :=
    (Prog.exec_reaches healthy _ _).mono ofHandler_healthy_faithful
  have hreported := (rollback_report hrun).2.2 (by decide)
  exact ⟨(hreported.replacement "zram1" rfl (by decide)).1,
    hreported.original (fun heq => absurd heq (by decide))⟩

theorem not_truthfulReport_of_exec {m m' : MutationSnapshot} {s : Machine}
    {out : TransactionOutcome} (hrun : ((rollback m).exec healthy s).1 = (.ok out, m'))
    (hout : out.rolledBack = true) (hfalse : ¬ Truthful m ((rollback m).exec healthy s).2) :
    ¬ TruthfulReport m s := by
  intro h
  have hreach := (Prog.exec_reaches healthy (rollback m) s).mono ofHandler_healthy_faithful
  rw [hrun] at hreach
  exact hfalse (h _ _ _ hreach hout)

/-- A snapshot that is rolled back already, a replacement that is not registered, an original
    that was taken into use after the snapshot, and a replacement that is the original. -/
theorem rollback_report_not_truthful :
    ¬ TruthfulReport { broughtUp true with phase := .rolledBack } bothActive ∧
    ¬ TruthfulReport (broughtUp true) { bothActive with owned := {"zram0"} } ∧
    ¬ TruthfulReport (broughtUp false) bothActive ∧
    ¬ TruthfulReport { broughtUp true with replacementName := some "zram0" } bothActive := by
  refine ⟨?_, ?_, ?_, ?_⟩
  · exact not_truthfulReport_of_exec rfl rfl fun h =>
      absurd (h.replacement "zram1" rfl).2 (by decide)
  · exact not_truthfulReport_of_exec rfl rfl fun h =>
      absurd (h.replacement "zram1" rfl).2 (by decide)
  · exact not_truthfulReport_of_exec rfl rfl fun h => absurd h.original (by decide)
  · exact not_truthfulReport_of_exec rfl rfl fun h => absurd h.original (by decide)

end Nemor.Zram
