import Nemor.Zram.Transaction

/-!
# zram: the transaction invariant

Apart from the original and the replacement a transaction changes nothing (`Confined`). While
it is running (`Live`) the original is as it was before or the replacement is an active swap
of positive size, and the replacement is registered as ours; once it is rolled back (`Done`)
the original is as it was before. Every procedure keeps the invariant at each of its backend
calls, for every atomic backend.
-/

namespace Nemor.Zram

open Effectful

/-! ## §1 What a transaction can touch -/

/-- The snapshot as a caller takes it: the inventory entry of an existing device, before
    anything was done. -/
structure Snapshotted (s₀ : Machine) (m : MutationSnapshot) : Prop where
  original : s₀.devices.lookup m.original.name = some m.original
  replacement : m.replacementName = none
  phase : m.phase = .snapshot
  pending : m.rollbackPending = false

/-- The original is in use exactly if it was when the snapshot was taken. -/
def OriginalAsBefore (m : MutationSnapshot) (s : Machine) : Prop :=
  (s.devices.lookup m.original.name).map DeviceInventory.activeSwap =
    some m.original.activeSwap

/-- Nothing but the replacement and the activity of the original differs from `s₀`. -/
structure Confined (s₀ : Machine) (m : MutationSnapshot) (s : Machine) : Prop where
  original₀ : s₀.devices.lookup m.original.name = some m.original
  fresh : ∀ r, m.replacementName = some r → s₀.devices.lookup r = none
  others : ∀ name, name ≠ m.original.name → m.replacementName ≠ some name →
    s.devices.lookup name = s₀.devices.lookup name
  size : (s.devices.lookup m.original.name).map DeviceInventory.disksize =
    some m.original.disksize
  idle : m.original.activeSwap = false → OriginalAsBefore m s

/-- The replacement is an active swap of positive size. -/
def ReplacementCarries (m : MutationSnapshot) (s : Machine) : Prop :=
  ∃ r d, m.replacementName = some r ∧ s.devices.lookup r = some d ∧ 0 < d.swapBytes

theorem Confined.replacement_ne {s₀ s : Machine} {m : MutationSnapshot} (h : Confined s₀ m s)
    {r : String} (hr : m.replacementName = some r) : m.original.name ≠ r := by
  rintro rfl
  have hfresh := h.fresh _ hr
  rw [h.original₀] at hfresh
  cases hfresh

/-- With the original as before, every device but the replacement counts as it did. -/
theorem Confined.swapBytesAt_eq {s₀ s : Machine} {m : MutationSnapshot} (h : Confined s₀ m s)
    (horig : OriginalAsBefore m s) {name : String} (hrep : m.replacementName ≠ some name) :
    s.swapBytesAt name = s₀.swapBytesAt name := by
  by_cases hname : name = m.original.name
  · subst hname
    have hsize := h.size
    unfold OriginalAsBefore at horig
    cases hs : s.devices.lookup m.original.name with
    | none => rw [hs] at horig; cases horig
    | some d =>
      simp only [hs, Option.map_some, Option.some.injEq] at hsize horig
      rw [Machine.swapBytesAt_of_lookup hs, Machine.swapBytesAt_of_lookup h.original₀]
      unfold DeviceInventory.swapBytes
      rw [horig, hsize]
  · unfold Machine.swapBytesAt
    rw [h.others name hname hrep]

theorem Confined.capacity_pos {s₀ s : Machine} {m : MutationSnapshot} (h : Confined s₀ m s)
    (horig : OriginalAsBefore m s) (hcap : 0 < s₀.capacity) : 0 < s.capacity := by
  obtain ⟨name, hpos⟩ := s₀.capacity_pos_iff.1 hcap
  have hrep : m.replacementName ≠ some name := by
    intro hr
    simp [Machine.swapBytesAt, h.fresh _ hr] at hpos
  exact s.capacity_pos_iff.2 ⟨name, by rw [h.swapBytesAt_eq horig hrep]; exact hpos⟩

/-! ## §2 The invariant -/

/-- The transaction is running. -/
structure Live (s₀ : Machine) (m : MutationSnapshot) (s : Machine) : Prop where
  confined : Confined s₀ m s
  swap : OriginalAsBefore m s ∨ ReplacementCarries m s
  dry : s₀.capacity = 0 → OriginalAsBefore m s
  registered : ∀ r, m.replacementName = some r → r ∈ s.devices ∧ r ∈ s.owned
  owner : m.replacementName ≠ none → ownedOrAdopted m.original = true
  phase : m.phase ≠ .rolledBack

/-- The transaction is rolled back. -/
structure Done (s₀ : Machine) (m : MutationSnapshot) (s : Machine) : Prop where
  confined : Confined s₀ m s
  original : OriginalAsBefore m s
  phase : m.phase = .rolledBack

/-- The transaction is running and has not switched the original off. -/
structure Standing (s₀ : Machine) (m : MutationSnapshot) (s : Machine) : Prop
    extends Live s₀ m s where
  original : OriginalAsBefore m s

theorem Live.capacity_pos {s₀ s : Machine} {m : MutationSnapshot} (h : Live s₀ m s)
    (hcap : 0 < s₀.capacity) : 0 < s.capacity := by
  rcases h.swap with horig | ⟨r, d, -, hd, hpos⟩
  · exact h.confined.capacity_pos horig hcap
  · exact s.capacity_pos_iff.2 ⟨r, by rw [Machine.swapBytesAt_of_lookup hd]; exact hpos⟩

theorem Snapshotted.originalAsBefore {s₀ : Machine} {m : MutationSnapshot}
    (h : Snapshotted s₀ m) : OriginalAsBefore m s₀ := by
  unfold OriginalAsBefore
  rw [h.original]
  rfl

theorem Snapshotted.standing {s₀ : Machine} {m : MutationSnapshot} (h : Snapshotted s₀ m) :
    Standing s₀ m s₀ where
  confined :=
    { original₀ := h.original
      fresh := fun r hr => by rw [h.replacement] at hr; cases hr
      others := fun _ _ _ => rfl
      size := by rw [h.original]; rfl
      idle := fun _ => h.originalAsBefore }
  swap := .inl h.originalAsBefore
  dry := fun _ => h.originalAsBefore
  registered := fun r hr => by rw [h.replacement] at hr; cases hr
  owner := fun hne => absurd h.replacement hne
  phase := by rw [h.phase]; decide
  original := h.originalAsBefore

/-! ## §3 Frame rules -/

theorem OriginalAsBefore.congr {s : Machine} {m n : MutationSnapshot} (h : OriginalAsBefore m s)
    (ho : n.original = m.original) : OriginalAsBefore n s := by
  unfold OriginalAsBefore at h ⊢
  rw [ho]
  exact h

/-- Assignments that keep the original and the replacement's name keep the invariants. -/
theorem Confined.congr {s₀ s : Machine} {m n : MutationSnapshot} (h : Confined s₀ m s)
    (ho : n.original = m.original) (hr : n.replacementName = m.replacementName) :
    Confined s₀ n s where
  original₀ := by rw [ho]; exact h.original₀
  fresh := by rw [hr]; exact h.fresh
  others := by rw [ho, hr]; exact h.others
  size := by rw [ho]; exact h.size
  idle := fun hidle => (h.idle (by rw [← ho]; exact hidle)).congr ho

theorem OriginalAsBefore.of_lookup {s s' : Machine} {m : MutationSnapshot}
    (h : OriginalAsBefore m s)
    (heq : s'.devices.lookup m.original.name = s.devices.lookup m.original.name) :
    OriginalAsBefore m s' := by
  unfold OriginalAsBefore at h ⊢
  rw [heq]
  exact h

/-- A change confined to the replacement keeps everything else as it was. -/
theorem Confined.of_lookup {s₀ s s' : Machine} {m : MutationSnapshot} (h : Confined s₀ m s)
    {r : String} (hr : m.replacementName = some r)
    (heq : ∀ name, name ≠ r → s'.devices.lookup name = s.devices.lookup name) :
    Confined s₀ m s' where
  original₀ := h.original₀
  fresh := h.fresh
  others := fun name hname hrep => by
    have hne : name ≠ r := by
      rintro rfl
      exact hrep hr
    rw [heq name hne]
    exact h.others name hname hrep
  size := by
    rw [heq _ (h.replacement_ne hr)]
    exact h.size
  idle := fun hidle => (h.idle hidle).of_lookup (heq _ (h.replacement_ne hr))

theorem lookup_remove_of_ne {s : Machine} {r name : String} (h : name ≠ r) :
    (s.remove r).devices.lookup name = s.devices.lookup name :=
  Finmap.lookup_erase_ne h

/-- Switching the original off, or on again if it was on before. -/
theorem Confined.modify_original {s₀ s : Machine} {m : MutationSnapshot} (h : Confined s₀ m s)
    {f : DeviceInventory → DeviceInventory} (hsize : ∀ d, (f d).disksize = d.disksize)
    (hidle : m.original.activeSwap = false → ∀ d, (f d).activeSwap = false) :
    Confined s₀ m (s.modify m.original.name f) where
  original₀ := h.original₀
  fresh := h.fresh
  others := fun name hname hrep => by
    rw [Machine.lookup_modify_of_ne hname]
    exact h.others name hname hrep
  size := by
    rw [Machine.lookup_modify_self, Option.map_map]
    have hcomp : DeviceInventory.disksize ∘ f = DeviceInventory.disksize := funext hsize
    rw [hcomp]
    exact h.size
  idle := fun hoff => by
    have hbefore := h.idle hoff
    unfold OriginalAsBefore at hbefore ⊢
    rw [Machine.lookup_modify_self]
    cases hs : s.devices.lookup m.original.name with
    | none => rw [hs] at hbefore; cases hbefore
    | some d => rw [Option.map_some, Option.map_some, hidle hoff, hoff]

theorem ReplacementCarries.of_lookup {s s' : Machine} {m : MutationSnapshot}
    (h : ReplacementCarries m s)
    (heq : ∀ r, m.replacementName = some r → s'.devices.lookup r = s.devices.lookup r) :
    ReplacementCarries m s' := by
  obtain ⟨r, d, hr, hd, hpos⟩ := h
  exact ⟨r, d, hr, (heq r hr).trans hd, hpos⟩

/-- Assignments that keep the original and the replacement's name keep the invariant. -/
theorem Live.congr {s₀ s : Machine} {m n : MutationSnapshot} (h : Live s₀ m s)
    (ho : n.original = m.original) (hr : n.replacementName = m.replacementName)
    (hp : n.phase ≠ .rolledBack) : Live s₀ n s where
  confined := h.confined.congr ho hr
  swap := h.swap.imp (fun h => h.congr ho) fun h => by
    unfold ReplacementCarries at h ⊢
    rw [hr]
    exact h
  dry := fun hcap => (h.dry hcap).congr ho
  registered := by rw [hr]; exact h.registered
  owner := by rw [hr, ho]; exact h.owner
  phase := hp

theorem Standing.congr {s₀ s : Machine} {m n : MutationSnapshot} (h : Standing s₀ m s)
    (ho : n.original = m.original) (hr : n.replacementName = m.replacementName)
    (hp : n.phase ≠ .rolledBack) : Standing s₀ n s :=
  ⟨h.toLive.congr ho hr hp, h.original.congr ho⟩

/-- An operation on the replacement, successful or not, leaves the original standing. -/
theorem Standing.change {s₀ s s' : Machine} {m : MutationSnapshot} (h : Standing s₀ m s)
    {r : String} (hr : m.replacementName = some r) {f : DeviceInventory → DeviceInventory}
    {reply : Except ZramError Unit} (hch : changes s r f reply s') : Standing s₀ m s' := by
  cases reply with
  | error e =>
    obtain rfl : s' = s := hch
    exact h
  | ok u =>
    obtain ⟨-, rfl⟩ : _ ∧ s' = s.modify r f := hch
    have horig : OriginalAsBefore m (s.modify r f) :=
      h.original.of_lookup (Machine.lookup_modify_of_ne (h.confined.replacement_ne hr) f)
    refine ⟨⟨?_, .inl horig, fun _ => horig, ?_, h.owner, h.phase⟩, horig⟩
    · exact h.confined.of_lookup hr fun name hne => Machine.lookup_modify_of_ne hne f
    · intro r' hr'
      rw [Machine.mem_modify, Machine.owned_modify]
      exact h.registered r' hr'

/-- Switching the original off, or on again if it was on before, while the replacement
    carries the swap. -/
theorem Live.modify_original {s₀ s : Machine} {m : MutationSnapshot} (h : Live s₀ m s)
    {f : DeviceInventory → DeviceInventory} (hsize : ∀ d, (f d).disksize = d.disksize)
    (hidle : m.original.activeSwap = false → ∀ d, (f d).activeSwap = false)
    (hswap : OriginalAsBefore m (s.modify m.original.name f) ∨
      ReplacementCarries m s ∧ 0 < s₀.capacity) :
    Live s₀ m (s.modify m.original.name f) where
  confined := h.confined.modify_original hsize hidle
  swap := hswap.imp_right fun hrep => hrep.1.of_lookup fun r hr =>
    Machine.lookup_modify_of_ne (h.confined.replacement_ne hr).symm f
  dry := fun hcap => by
    rcases hswap with horig | ⟨-, hpos⟩
    · exact horig
    · omega
  registered := fun r hr => by
    rw [Machine.mem_modify, Machine.owned_modify]
    exact h.registered r hr
  owner := h.owner
  phase := h.phase

/-- An original that was on and is switched on again is as it was before. -/
theorem Live.switchedOn {s₀ s : Machine} {m : MutationSnapshot} {current : DeviceInventory}
    (h : Live s₀ m s) (hon : m.original.activeSwap = true)
    (hv : s.devices.lookup m.original.name = some current) (priority : Int32) :
    Standing s₀ m (s.modify m.original.name (.switchedOn priority)) := by
  have horig : OriginalAsBefore m (s.modify m.original.name (.switchedOn priority)) := by
    unfold OriginalAsBefore
    rw [Machine.lookup_modify_self, hv, hon]
    rfl
  exact ⟨h.modify_original (fun _ => rfl) (fun hoff => by rw [hon] at hoff; cases hoff)
    (.inl horig), horig⟩

/-- Creating a device under a new name and recording it as the replacement. -/
theorem Snapshotted.create {s₀ : Machine} {m : MutationSnapshot} (h : Snapshotted s₀ m)
    (howner : ownedOrAdopted m.original = true) {d : DeviceInventory}
    (hd : d.name ∉ s₀.devices) :
    Standing s₀ { m with replacementName := some d.name, phase := .replacementCreated }
      (s₀.add d) := by
  have hne : m.original.name ≠ d.name := by
    intro heq
    exact hd (heq ▸ Finmap.mem_of_lookup_eq_some h.original)
  have hlookup : (s₀.add d).devices.lookup m.original.name = some m.original :=
    (Finmap.lookup_insert_of_ne _ hne).trans h.original
  have horig : OriginalAsBefore
      { m with replacementName := some d.name, phase := .replacementCreated } (s₀.add d) := by
    unfold OriginalAsBefore
    rw [hlookup]
    rfl
  refine ⟨⟨⟨h.original, ?_, ?_, ?_, fun _ => horig⟩, .inl horig, fun _ => horig, ?_,
    fun _ => howner, by simp⟩, horig⟩
  · intro r hr
    cases hr
    exact Finmap.lookup_eq_none.2 hd
  · intro name _ hrep
    exact Finmap.lookup_insert_of_ne _ (fun heq => hrep (heq ▸ rfl))
  · rw [hlookup]
    rfl
  · intro r hr
    cases hr
    exact ⟨Finmap.mem_insert.2 (.inl rfl), Finset.mem_insert_self _ _⟩

/-! ## §4 Rolling back -/

section Specs

variable {R : Env zramBackend MutationSnapshot Machine} {s₀ s : Machine} {m : MutationSnapshot}

/-- The capacity check changes nothing; its success says that there is swap. -/
theorem ensureSwap_wp (hR : Atomic R) {J : MutationSnapshot → Machine → Prop}
    {Q : Except ZramError Unit → MutationSnapshot → Machine → Prop} (hJ : J m s)
    (herr : ∀ e, Q (.error e) m s) (hok : 0 < s.capacity → Q (.ok ()) m s) :
    Act.wp R J ensureSwap Q m s := by
  unfold ensureSwap
  refine Act.wp_bind.2 (Act.wp_perform.2 ⟨hJ, fun r s' hr => ?_⟩)
  obtain ⟨rfl, hc⟩ := hR _ _ _ _ _ hr
  cases r with
  | error e => exact herr e
  | ok c =>
    refine Act.wp_ite.2 ⟨fun _ => herr _, fun hne => hok ?_⟩
    change c.toNat = s'.capacity at hc
    have hpos : c.toNat ≠ 0 := fun h0 => hne (UInt64.toNat_inj.1 h0)
    omega

theorem restoreOriginal_wp (hR : Atomic R) (h : Live s₀ m s) :
    Act.wp R (Live s₀) (restoreOriginal m.original)
      (fun r m' s' => m' = m ∧ Live s₀ m s' ∧ (r = .ok () → Standing s₀ m s')) m s := by
  unfold restoreOriginal
  refine Act.wp_ite.2 ⟨fun hon => ?_, fun hoff =>
    ⟨rfl, h, fun _ => ⟨h, h.confined.idle (by simpa using hoff)⟩⟩⟩
  refine Act.wp_bind.2 (Act.wp_perform.2 ⟨h, fun r s' hr => ?_⟩)
  obtain ⟨rfl, hv⟩ := hR _ _ _ _ _ hr
  cases r with
  | error e => exact ⟨rfl, h, fun hok => by cases hok⟩
  | ok current =>
    change s'.devices.lookup m.original.name = some current at hv
    refine Act.wp_ite.2 ⟨fun hinactive => ?_, fun hactive => ⟨rfl, h, fun _ => ⟨h, ?_⟩⟩⟩
    · -- the original is off and is switched on again
      refine Act.wp_bind.2 (Act.wp_perform.2 ⟨h, fun r s'' hr => ?_⟩)
      have hch := hR _ _ _ _ _ hr
      cases r with
      | error e =>
        obtain rfl : s'' = s' := hch
        exact ⟨rfl, h, fun hok => by cases hok⟩
      | ok u =>
        obtain ⟨-, rfl⟩ : _ ∧ s'' = s'.modify m.original.name _ := hch
        have hstanding := h.switchedOn hon hv (m.original.priority.getD 100)
        exact ensureSwap_wp hR hstanding.toLive
          (fun e => ⟨rfl, hstanding.toLive, fun hok => by cases hok⟩)
          (fun _ => ⟨rfl, hstanding.toLive, fun _ => hstanding⟩)
    · unfold OriginalAsBefore
      rw [hv, hon]
      simpa using hactive

/-- Where `discardReplacement` ends: nothing is lost if it fails, and nothing but the
    replacement is gone if it succeeds. -/
def Discarded (s₀ : Machine) (m : MutationSnapshot) (r : Except ZramError Unit) (s : Machine) :
    Prop :=
  match r with
  | .ok () => Confined s₀ m s ∧ OriginalAsBefore m s
  | .error _ => Standing s₀ m s

theorem removeManagedDevice_wp (hR : Atomic R) (h : Standing s₀ m s) {r : String}
    (hrep : m.replacementName = some r) :
    Act.wp R (Live s₀) (removeManagedDevice r)
      (fun reply m' s' => m' = m ∧ Discarded s₀ m reply s') m s := by
  refine Act.wp_perform.2 ⟨h.toLive, fun reply s' hr => ⟨rfl, ?_⟩⟩
  have hch := hR _ _ _ _ _ hr
  cases reply with
  | error e =>
    obtain rfl : s' = s := hch
    exact h
  | ok u =>
    obtain ⟨-, rfl⟩ : _ ∧ s' = s.remove r := hch
    exact ⟨h.confined.of_lookup hrep fun name hne => lookup_remove_of_ne hne,
      h.original.of_lookup (lookup_remove_of_ne (h.confined.replacement_ne hrep))⟩

theorem discardReplacement_wp (hR : Atomic R) (h : Standing s₀ m s) :
    Act.wp R (Live s₀) (discardReplacement m.replacementName)
      (fun reply m' s' => m' = m ∧ Discarded s₀ m reply s') m s := by
  unfold discardReplacement
  cases hrep : m.replacementName with
  | none => exact ⟨rfl, h.confined, h.original⟩
  | some r =>
    refine Act.wp_bind.2 (Act.wp_perform.2 ⟨h.toLive, fun (owned : Bool) s' hr => ?_⟩)
    obtain ⟨rfl, -⟩ := hR _ _ _ _ _ hr
    refine Act.wp_ite.2 ⟨fun _ => ?_, fun _ => ⟨rfl, h.confined, h.original⟩⟩
    refine Act.wp_bind.2 (Act.wp_perform.2 ⟨h.toLive, fun reply s'' hr => ?_⟩)
    obtain ⟨rfl, -⟩ := hR _ _ _ _ _ hr
    cases reply with
    | error e => exact ⟨rfl, h⟩
    | ok current =>
      refine Act.wp_ite.2 ⟨fun _ => ?_, fun _ => removeManagedDevice_wp hR h hrep⟩
      refine Act.wp_bind.2 (Act.wp_perform.2 ⟨h.toLive, fun reply s' hr => ?_⟩)
      have h' := h.change hrep (hR _ _ _ _ _ hr)
      cases reply with
      | error e => exact ⟨rfl, h'⟩
      | ok u =>
        exact Act.wp_bind.2 (ensureSwap_wp hR h'.toLive (fun e => ⟨rfl, h'⟩)
          (fun _ => removeManagedDevice_wp hR h' hrep))

/-- A rollback that fails leaves the transaction running, one that succeeds ends it. -/
theorem rollback_wp (hR : Atomic R) (h : Live s₀ m s) :
    Act.wp R (Live s₀) rollback (fun _ m' s' => Live s₀ m' s' ∨ Done s₀ m' s') m s := by
  unfold rollback
  refine Act.wp_bind.2 (Act.wp_current.2 (Act.wp_ite.2 ⟨fun _ => .inl h, fun _ => ?_⟩))
  refine Act.wp_bind.2 (Act.wp_mono (restoreOriginal_wp hR h) ?_)
  rintro (e | u) m' s' ⟨rfl, hlive, horig⟩
  · exact .inl hlive
  refine Act.wp_bind.2 (Act.wp_mono (discardReplacement_wp hR (horig rfl)) ?_)
  rintro (e | u) m'' s'' ⟨rfl, hd⟩
  · exact .inl hd.toLive
  · exact .inr ⟨hd.1.congr rfl rfl, hd.2.congr rfl, rfl⟩

/-! ## §5 Applying a plan -/

/-- The replacement is not in use. -/
def ReplacementIdle (m : MutationSnapshot) (s : Machine) : Prop :=
  ∀ r, m.replacementName = some r → s.isActive r = false

/-- An operation on the replacement that does not switch it on. -/
theorem ReplacementIdle.change {r : String} (hidle : ReplacementIdle m s)
    (hrep : m.replacementName = some r) {f : DeviceInventory → DeviceInventory}
    (hf : ∀ d, (f d).activeSwap = d.activeSwap) {reply : Except ZramError Unit} {s' : Machine}
    (hch : changes s r f reply s') : ReplacementIdle m s' := by
  cases reply with
  | error e =>
    obtain rfl : s' = s := hch
    exact hidle
  | ok u =>
    obtain ⟨-, rfl⟩ : _ ∧ s' = s.modify r f := hch
    intro r' hr'
    obtain rfl : r = r' := by
      rw [hrep] at hr'
      exact Option.some.inj hr'
    have hbefore := hidle r hrep
    unfold Machine.isActive at hbefore ⊢
    rw [Machine.lookup_modify_self, Option.any_map]
    simp only [hf]
    exact hbefore

/-- What a procedure between creation and verification keeps of the snapshot. -/
structure Onward (m m' : MutationSnapshot) : Prop where
  original : m'.original = m.original
  replacement : m'.replacementName = m.replacementName
  plan : m'.requestedPlan = m.requestedPlan
  pending : m'.rollbackPending = m.rollbackPending

/-- The plan names an algorithm and a positive size. -/
def ZramProfilePlan.equipped (plan : ZramProfilePlan) : Bool :=
  plan.selectedAlgorithm.isSome && (plan.proposedDisksize.filter fun value => 0 < value).isSome

/-- Where `bringUp` ends: with an idle replacement if it fails, with one that carries the
    swap if it succeeds. -/
def BroughtUp (s₀ : Machine) (m : MutationSnapshot) (r : Except ZramError String)
    (m' : MutationSnapshot) (s : Machine) : Prop :=
  Onward m m' ∧ Standing s₀ m' s ∧
    match r with
    | .ok name => m'.replacementName = some name ∧ ReplacementCarries m' s ∧
        m'.phase = .activated ∧ m.requestedPlan.equipped = true
    | .error _ => ReplacementIdle m' s

theorem bringUp_wp (hR : Atomic R) (h : Standing s₀ m s) (hidle : ReplacementIdle m s) :
    Act.wp R (Live s₀) (bringUp m) (fun r m' s' => BroughtUp s₀ m r m' s') m s := by
  unfold bringUp
  refine Act.wp_bind.2 (Act.wp_ofExcept.2 ?_)
  cases hrep : m.replacementName with
  | none => exact ⟨⟨rfl, rfl, rfl, rfl⟩, h, hidle⟩
  | some r =>
  refine Act.wp_bind.2 (Act.wp_ofExcept.2 ?_)
  cases halg : m.requestedPlan.selectedAlgorithm with
  | none => exact ⟨⟨rfl, rfl, rfl, rfl⟩, h, hidle⟩
  | some algorithm =>
  -- configure
  refine Act.wp_bind.2 (Act.wp_perform.2 ⟨h.toLive, fun reply s₁ hr => ?_⟩)
  have h₁ := h.change hrep (hR _ _ _ _ _ hr)
  have hidle₁ := hidle.change hrep (f := .configured algorithm) (fun _ => rfl) (hR _ _ _ _ _ hr)
  cases reply with
  | error e => exact ⟨⟨rfl, rfl, rfl, rfl⟩, h₁, hidle₁⟩
  | ok u =>
  refine Act.wp_bind.2 (Act.wp_assign.2 (Act.wp_bind.2 (Act.wp_ofExcept.2 ?_)))
  have h₁ := h₁.congr (n := { m with phase := .algorithmConfigured }) rfl rfl (by simp)
  cases hsize : m.requestedPlan.proposedDisksize.filter fun value => 0 < value with
  | none => exact ⟨⟨rfl, rfl, rfl, rfl⟩, h₁, hidle₁⟩
  | some disksize =>
  -- initialize
  refine Act.wp_bind.2 (Act.wp_perform.2 ⟨h₁.toLive, fun reply s₂ hr => ?_⟩)
  have h₂ := h₁.change hrep (hR _ _ _ _ _ hr)
  have hidle₂ := hidle₁.change hrep (f := .sized disksize) (fun _ => rfl) (hR _ _ _ _ _ hr)
  cases reply with
  | error e => exact ⟨⟨rfl, rfl, rfl, rfl⟩, h₂, hidle₂⟩
  | ok u =>
  have h₂ := h₂.congr (n := { m with phase := .initialized }) rfl rfl (by simp)
  -- verify: the replacement has the proposed size
  refine Act.wp_bind.2 (Act.wp_assign.2 (Act.wp_bind.2 (Act.wp_perform.2
    ⟨h₂.toLive, fun reply s₃ hr => ?_⟩)))
  obtain ⟨rfl, hv⟩ := hR _ _ _ _ _ hr
  cases reply with
  | error e => exact ⟨⟨rfl, rfl, rfl, rfl⟩, h₂, hidle₂⟩
  | ok initialized =>
  change s₃.devices.lookup r = some initialized at hv
  refine Act.wp_ite.2 ⟨fun _ => Act.wp_bind.2 ⟨⟨rfl, rfl, rfl, rfl⟩, h₂, hidle₂⟩,
    fun hread => ?_⟩
  have hread : initialized.disksize = some disksize := by simpa using hread
  -- activate: from here on the replacement carries the swap
  refine Act.wp_bind.2 (Act.wp_perform.2 ⟨h₂.toLive, fun reply s₄ hr => ?_⟩)
  have hch := hR _ _ _ _ _ hr
  have h₄ := h₂.change hrep hch
  cases reply with
  | error e =>
    obtain rfl : s₄ = s₃ := hch
    exact ⟨⟨rfl, rfl, rfl, rfl⟩, h₄, hidle₂⟩
  | ok u =>
  obtain ⟨-, rfl⟩ : _ ∧ s₄ = s₃.modify r _ := hch
  refine ⟨⟨rfl, rfl, rfl, rfl⟩, h₄.congr rfl rfl (by simp), hrep, ?_, rfl, by
    simp [ZramProfilePlan.equipped, halg, hsize]⟩
  refine ⟨r, _, hrep, by rw [Machine.lookup_modify_self, hv]; rfl, ?_⟩
  have hpos : 0 < disksize := by simpa using (Option.filter_eq_some_iff.1 hsize).2
  rw [DeviceInventory.swapBytes_switchedOn, hread]
  simpa [UInt64.lt_iff_toNat_lt] using hpos

/-- Migration starts only when the replacement carries the swap and there was swap before. -/
theorem migrate_wp (hR : Atomic R) (h : Standing s₀ m s) (hrep : ReplacementCarries m s)
    {initialCapacity : UInt64} (hcap : initialCapacity.toNat = s₀.capacity) :
    Act.wp R (Live s₀) (migrate m.original initialCapacity)
      (fun r m' s' => Onward m m' ∧ Live s₀ m' s' ∧ ReplacementCarries m' s' ∧
        (r = .ok () → 0 < s₀.capacity)) m s := by
  unfold migrate
  refine Act.wp_ite.2 ⟨fun _ => Act.wp_bind.2 ⟨⟨rfl, rfl, rfl, rfl⟩, h.toLive, hrep,
    fun hok => by cases hok⟩, fun hne => ?_⟩
  have hpos : 0 < s₀.capacity := by
    have hne' : initialCapacity.toNat ≠ 0 := fun h0 => hne (UInt64.toNat_inj.1 h0)
    omega
  refine Act.wp_bind.2 (Act.wp_perform.2 ⟨h.toLive, fun reply s' hr => ?_⟩)
  have hch := hR _ _ _ _ _ hr
  cases reply with
  | error e =>
    obtain rfl : s' = s := hch
    exact ⟨⟨rfl, rfl, rfl, rfl⟩, h.toLive, hrep, fun hok => by cases hok⟩
  | ok u =>
    obtain ⟨-, rfl⟩ : _ ∧ s' = s.modify m.original.name _ := hch
    have hlive := (h.toLive.modify_original (f := .switchedOff) (fun _ => rfl) (fun _ _ => rfl)
      (.inr ⟨hrep, hpos⟩)).congr (n := { m with phase := .originalDeactivated }) rfl rfl (by simp)
    have hrep' : ReplacementCarries { m with phase := .originalDeactivated }
        (s.modify m.original.name .switchedOff) :=
      hrep.of_lookup fun r hr =>
        Machine.lookup_modify_of_ne (h.confined.replacement_ne hr).symm _
    exact Act.wp_bind.2 (Act.wp_assign.2 (ensureSwap_wp hR hlive
      (fun e => ⟨⟨rfl, rfl, rfl, rfl⟩, hlive, hrep', fun hok => by cases hok⟩)
      (fun _ => ⟨⟨rfl, rfl, rfl, rfl⟩, hlive, hrep', fun _ => hpos⟩)))

theorem switchOver_wp (hR : Atomic R) {snapshot : MutationSnapshot} (hon : Onward snapshot m)
    (h : Standing s₀ m s) (hrep : ReplacementCarries m s) {initialCapacity : UInt64}
    (hcap : initialCapacity.toNat = s₀.capacity) (replacement : String) :
    Act.wp R (Live s₀) (switchOver snapshot initialCapacity replacement)
      (fun _ m' s' => m'.original = m.original ∧ m'.replacementName = m.replacementName ∧
        Live s₀ m' s') m s := by
  -- the closing verification, with or without migration before it
  have hclose : ∀ m' s', Onward m m' → Live s₀ m' s' →
      Act.wp R (Live s₀) (do
        let verified ← verify replacement
        if !verified.activeSwap then
          Act.fail (.verification "replacement is not active swap")
        Act.assign fun m => { m with phase := .verified, rollbackPending := false }
        return (⟨true, true, false, .verified⟩ : TransactionOutcome))
        (fun _ m' s' => m'.original = m.original ∧ m'.replacementName = m.replacementName ∧
          Live s₀ m' s') m' s' := by
    intro m' s' hon' h'
    refine Act.wp_bind.2 (Act.wp_perform.2 ⟨h', fun reply s'' hr => ?_⟩)
    obtain ⟨rfl, -⟩ := hR _ _ _ _ _ hr
    cases reply with
    | error e => exact ⟨hon'.original, hon'.replacement, h'⟩
    | ok verified =>
      exact Act.wp_ite.2
        ⟨fun _ => Act.wp_bind.2 ⟨hon'.original, hon'.replacement, h'⟩,
          fun _ => ⟨hon'.original, hon'.replacement, h'.congr rfl rfl (by simp)⟩⟩
  unfold switchOver
  refine Act.wp_bind.2 (ensureSwap_wp hR h.toLive (fun e => ⟨rfl, rfl, h.toLive⟩) fun _ => ?_)
  refine Act.wp_ite.2 ⟨fun _ => ?_, fun _ => hclose _ _ ⟨rfl, rfl, rfl, rfl⟩ h.toLive⟩
  rw [← hon.original]
  refine Act.wp_bind.2 (Act.wp_mono (migrate_wp hR h hrep hcap) ?_)
  rintro (e | u) m' s' ⟨hon', hlive, -, -⟩
  · exact ⟨hon'.original, hon'.replacement, hlive⟩
  · exact hclose _ _ hon' hlive

theorem applyAfterCreate_wp (hR : Atomic R) (h : Standing s₀ m s) (hidle : ReplacementIdle m s)
    {initialCapacity : UInt64} (hcap : initialCapacity.toNat = s₀.capacity) :
    Act.wp R (Live s₀) (applyAfterCreate initialCapacity)
      (fun _ m' s' => m'.original = m.original ∧ m'.replacementName = m.replacementName ∧
        Live s₀ m' s') m s := by
  unfold applyAfterCreate
  refine Act.wp_bind.2 (Act.wp_current.2 (Act.wp_bind.2 (Act.wp_mono (bringUp_wp hR h hidle) ?_)))
  rintro (e | name) m' s' ⟨hon, hstand, hpost⟩
  · exact ⟨hon.original, hon.replacement, hstand.toLive⟩
  · refine Act.wp_mono (switchOver_wp hR hon hstand hpost.2.1 hcap name) ?_
    rintro r m'' s'' ⟨ho, hr, hlive⟩
    exact ⟨ho.trans hon.original, hr.trans hon.replacement, hlive⟩

theorem abandon_wp (hR : Atomic R) (h : Live s₀ m s) (error : ZramError) :
    Act.wp R (Live s₀) (abandon error) (fun _ m' s' => Live s₀ m' s' ∨ Done s₀ m' s') m s := by
  unfold abandon
  refine Act.wp_bind.2 (Act.wp_assign.2 (Act.wp_bind.2 (Act.wp_attempt.2 ?_)))
  exact Act.wp_mono (rollback_wp hR (h.congr rfl rfl h.phase)) fun _ _ _ hpost => hpost

theorem create_idle {d : DeviceInventory} (hd : d.activeSwap = false) :
    ReplacementIdle { m with replacementName := some d.name, phase := .replacementCreated }
      (s.add d) := by
  intro r hr
  cases hr
  show (Option.any _ ((s.devices.insert d.name d).lookup d.name)) = false
  rw [Finmap.lookup_insert]
  exact hd

/-- **`applyPlan` keeps the invariant** at each of its backend calls, those of its internal
    rollback included, and at its end. -/
theorem applyPlan_wp (hR : Atomic R) (h : Snapshotted s₀ m) :
    Act.wp R (Live s₀) applyPlan (fun _ m' s' => Live s₀ m' s' ∨ Done s₀ m' s') m s₀ := by
  have hlive := h.standing.toLive
  unfold applyPlan
  refine Act.wp_bind.2 (Act.wp_current.2 (Act.wp_ite.2 ⟨fun _ => .inl hlive, fun _ => ?_⟩))
  refine Act.wp_ite.2 ⟨fun _ => Act.wp_bind.2 (.inl hlive), fun _ => ?_⟩
  refine Act.wp_ite.2 ⟨fun _ => Act.wp_bind.2 (.inl hlive), fun howner => ?_⟩
  have howner : ownedOrAdopted m.original = true := by simpa using howner
  refine Act.wp_bind.2 (Act.wp_perform.2 ⟨hlive, fun reply s' hr => ?_⟩)
  obtain ⟨rfl, hcap⟩ := hR _ _ _ _ _ hr
  cases reply with
  | error e => exact .inl hlive
  | ok initialCapacity =>
  refine Act.wp_bind.2 (Act.wp_perform.2 ⟨hlive, fun reply s'' hr => ?_⟩)
  have hch := hR _ _ _ _ _ hr
  cases reply with
  | error e =>
    obtain rfl : s'' = s' := hch
    exact .inl hlive
  | ok d =>
  -- the replacement is new and not in use
  obtain ⟨hfresh, hinactive, -, rfl⟩ :
    _ ∧ d.activeSwap = false ∧ d.ownership = .nemorOwned ∧ s'' = s'.add d := hch
  refine Act.wp_bind.2 (Act.wp_assign.2 (Act.wp_bind.2 (Act.wp_attempt.2 ?_)))
  refine Act.wp_mono (applyAfterCreate_wp hR (h.create howner hfresh) (create_idle hinactive)
    hcap) ?_
  rintro (e | outcome) m' s'' ⟨-, -, hlive⟩
  · exact abandon_wp hR hlive e
  · exact .inl hlive

end Specs

end Nemor.Zram
