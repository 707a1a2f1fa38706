import Mathlib.Data.Finmap
import Nemor.Actuator.Types

/-!
# The cgroup v2 hierarchy and the Linux backend

What the actuator's backend reads and writes: control groups with their memory limits,
processes with their placement. A group is keyed by its path below the hierarchy root,
without a leading slash; the root itself has the empty key.

- §1: memory limits as the kernel stores them, in pages
- §2: group paths
- §3: the hierarchy and its system calls
- §4: `LinuxCgroupBackend`, one function for each method, when no call fails spuriously

Every group here offers `memory.low` and `memory.high`. A group without these files reads
like one whose limits are both `max`, and a write to it fails.
-/

namespace Nemor.Actuator

/-! ## §1 Memory limits -/

/-- Limits are kept in pages. -/
def pageSize : ℕ := 4096

/-- The largest page counter; a limit at this value reads as `max`. -/
def pageCounterMax : ℕ := 2251799813685247

/-- A memory limit as the kernel keeps it. -/
inductive Limit where
  | max
  | pages (n : Fin pageCounterMax)
  deriving DecidableEq

namespace Limit

/-- What a written number of bytes is stored as: whole pages, capped. -/
def ofBytes (bytes : UInt64) : Limit :=
  if h : bytes.toNat / pageSize < pageCounterMax then .pages ⟨bytes.toNat / pageSize, h⟩
  else .max

/-- `value.trim().parse().ok()`: the text `max` is not a number. -/
def read : Limit → Option UInt64
  | .max => none
  | .pages n => some (UInt64.ofNat (n * pageSize))

/-- Write a limit if one is requested. -/
def write (l : Limit) : Option UInt64 → Limit
  | none => l
  | some bytes => ofBytes bytes

@[simp] theorem write_none (l : Limit) : l.write none = l := rfl

theorem ofBytes_read {l : Limit} {bytes : UInt64} (h : l.read = some bytes) :
    ofBytes bytes = l := by
  cases l with
  | max => cases h
  | pages n =>
    obtain ⟨n, hn⟩ := n
    simp only [read, Option.some.injEq] at h
    -- a page count in bytes fits the register, so nothing wraps
    have hbytes : bytes.toNat = n * pageSize := by
      rw [← h, UInt64.toNat_ofNat']
      apply Nat.mod_eq_of_lt
      unfold pageCounterMax at hn
      unfold pageSize
      omega
    have hpages : bytes.toNat / pageSize = n := by
      rw [hbytes]
      exact Nat.mul_div_cancel _ (by decide)
    unfold ofBytes
    simp [hpages, hn]

/-- Writing back what was read changes nothing. -/
@[simp] theorem write_read (l : Limit) : l.write l.read = l := by
  cases h : l.read with
  | none => rfl
  | some bytes => exact ofBytes_read h

/-- Writing back a number undoes every write. -/
theorem write_write_read {l : Limit} {request : Option UInt64}
    (h : request.isSome → l.read.isSome) : (l.write request).write l.read = l := by
  cases request with
  | none => exact l.write_read
  | some bytes =>
    obtain ⟨original, ho⟩ := Option.isSome_iff_exists.1 (h rfl)
    rw [ho]
    exact ofBytes_read ho

end Limit

/-- The limits of a group. -/
structure Group where
  memoryLow : Limit
  memoryHigh : Limit
  deriving DecidableEq

namespace Group

/-- A new group protects nothing and limits nothing. -/
def fresh : Group :=
  { memoryLow := .pages ⟨0, by decide⟩, memoryHigh := .max }

/-- The limits of a group, as they are read. -/
def properties (g : Group) : RequestedProperties :=
  { memoryLow := g.memoryLow.read, memoryHigh := g.memoryHigh.read }

/-- Write both limits. -/
def write (g : Group) (p : RequestedProperties) : Group :=
  { memoryLow := g.memoryLow.write p.memoryLow, memoryHigh := g.memoryHigh.write p.memoryHigh }

@[simp] theorem write_properties (g : Group) : g.write g.properties = g := by
  simp [write, properties]

/-- Every limit that `p` requests reads as a number. -/
def Restorable (g : Group) (p : RequestedProperties) : Prop :=
  (p.memoryLow.isSome → g.memoryLow.read.isSome) ∧
    (p.memoryHigh.isSome → g.memoryHigh.read.isSome)

theorem write_write_properties {g : Group} {p : RequestedProperties} (h : g.Restorable p) :
    (g.write p).write g.properties = g := by
  simp [write, properties, Limit.write_write_read h.1, Limit.write_write_read h.2]

end Group

/-! ## §2 Group paths -/

/-- A component that names an entry of its directory. -/
def isNormalComponent (component : List Char) : Bool :=
  component != [] && component != ['.'] && component != ['.', '.']

/-- No component of the path is empty or leads upwards. -/
def isNormalized (relative : String) : Bool :=
  (relative.toList.splitOn '/').all isNormalComponent

/-- `strip_prefix('/')`. -/
def stripSlash (name : String) : Option String :=
  match name.toList with
  | '/' :: rest => some (String.ofList rest)
  | _ => none

@[simp] theorem stripSlash_slash (key : String) : stripSlash ("/" ++ key) = some key := by
  simp [stripSlash, String.toList_append]

/-- `key` lies below `parent`. -/
def isBelow (key parent : String) : Bool :=
  (parent.toList ++ ['/']).isPrefixOf key.toList

theorem slash_notMem_of_isManagedName {name : String} (h : isManagedName name = true) :
    '/' ∉ name.toList := by
  intro hmem
  have := List.all_eq_true.1 (isManagedName_all h) _ hmem
  revert this
  decide

theorem isManagedName_length {name : String} (h : isManagedName name = true) :
    2 < name.toList.length := by
  unfold isManagedName at h
  rw [Bool.or_eq_true, Bool.or_eq_true, Bool.and_eq_true, Bool.and_eq_true, Bool.or_eq_true] at h
  rcases h with (h | h) | ⟨⟨h | h, -⟩, -⟩
  · rw [beq_iff_eq.1 h]
    decide
  · rw [beq_iff_eq.1 h]
    decide
  · exact Nat.lt_of_lt_of_le (by decide) (List.isPrefixOf_iff_prefix.1 h).length_le
  · exact Nat.lt_of_lt_of_le (by decide) (List.isPrefixOf_iff_prefix.1 h).length_le

theorem isNormalized_of_isManagedName {name : String} (h : isManagedName name = true) :
    isNormalized name = true := by
  unfold isNormalized
  rw [List.splitOn_eq_singleton (slash_notMem_of_isManagedName h)]
  have hlen := isManagedName_length h
  simp only [List.all_cons, List.all_nil, Bool.and_true, isNormalComponent, Bool.and_eq_true,
    bne_iff_ne, ne_eq]
  refine ⟨⟨?_, ?_⟩, ?_⟩ <;> intro heq <;> rw [heq] at hlen <;> simp at hlen

theorem not_isBelow_of_isManagedName {name parent : String} (h : isManagedName name = true) :
    isBelow name parent = false := by
  apply Bool.eq_false_iff.2
  intro hbelow
  apply slash_notMem_of_isManagedName h
  exact (List.isPrefixOf_iff_prefix.1 hbelow).subset (by simp)

theorem isManagedName_slash (key : String) : isManagedName ("/" ++ key) = false := by
  apply Bool.eq_false_iff.2
  intro h
  apply slash_notMem_of_isManagedName h
  simp [String.toList_append]

/-! ## §3 The hierarchy -/

/-- A process, named by its PID; `group` is the key of the group it is in. -/
structure Proc where
  startTimeTicks : UInt64
  group : String
  deriving DecidableEq

/-- The mounted hierarchy. Group paths are normalized, a group below another one has that
    one as its ancestor, and every process is in a group. -/
structure Kernel where
  root : String
  /-- The words of `cgroup.controllers`, if the file can be read. -/
  controllers : Option (List String)
  /-- Whether `cgroup.procs` of the root opens for writing. -/
  procsWritable : Bool
  groups : Finmap fun _ : String => Group
  procs : Finmap fun _ : UInt32 => Proc
  normalized : ∀ key ∈ groups, isNormalized key = true
  parents : ∀ key ∈ groups, ∀ parent, isBelow key parent = true → parent ∈ groups
  placed : ∀ pid q, procs.lookup pid = some q → q.group = "" ∨ q.group ∈ groups

namespace Kernel

/-- `cgroup.procs` of a group. -/
def residents (k : Kernel) (key : String) : Finset UInt32 :=
  k.procs.keys.filter fun pid => (k.procs.lookup pid).any fun q => q.group == key

theorem mem_residents {k : Kernel} {key : String} {pid : UInt32} :
    pid ∈ k.residents key ↔ ∃ q, k.procs.lookup pid = some q ∧ q.group = key := by
  simp only [residents, Finset.mem_filter, Finmap.mem_keys, Finmap.mem_iff, Option.any_eq_true,
    beq_iff_eq]
  constructor
  · rintro ⟨-, q, hq, hgroup⟩
    exact ⟨q, hq, hgroup⟩
  · rintro ⟨q, hq, hgroup⟩
    exact ⟨⟨q, hq⟩, q, hq, hgroup⟩

theorem residents_congr {k k' : Kernel} (h : k'.procs = k.procs) (key : String) :
    k'.residents key = k.residents key := by
  simp [residents, h]

/-- The directory can be removed: no process and no directory is left in it. -/
def Vacant (k : Kernel) (key : String) : Prop :=
  k.residents key = ∅ ∧ ∀ child ∈ k.groups.keys, isBelow child key = false

instance (k : Kernel) (key : String) : Decidable (k.Vacant key) := by
  unfold Vacant
  infer_instance

/-- Make a group. -/
def mkdir (k : Kernel) (name : String) (h : isManagedName name = true) : Kernel where
  root := k.root
  controllers := k.controllers
  procsWritable := k.procsWritable
  groups := k.groups.insert name .fresh
  procs := k.procs
  normalized key hkey := by
    rcases Finmap.mem_insert.1 hkey with rfl | hkey
    · exact isNormalized_of_isManagedName h
    · exact k.normalized key hkey
  parents key hkey parent hbelow := by
    rcases Finmap.mem_insert.1 hkey with rfl | hkey
    · rw [not_isBelow_of_isManagedName h] at hbelow
      cases hbelow
    · exact Finmap.mem_insert.2 (.inr (k.parents key hkey parent hbelow))
  placed pid q hq := (k.placed pid q hq).imp_right fun hmem => Finmap.mem_insert.2 (.inr hmem)

/-- Remove a group without processes and without groups below it. -/
def rmdir (k : Kernel) (name : String) (h : k.Vacant name) : Kernel where
  root := k.root
  controllers := k.controllers
  procsWritable := k.procsWritable
  groups := k.groups.erase name
  procs := k.procs
  normalized key hkey := k.normalized key (Finmap.mem_erase.1 hkey).2
  parents key hkey parent hbelow := by
    have hmem := (Finmap.mem_erase.1 hkey).2
    refine Finmap.mem_erase.2 ⟨?_, k.parents key hmem parent hbelow⟩
    rintro rfl
    rw [h.2 key (Finmap.mem_keys.2 hmem)] at hbelow
    cases hbelow
  placed pid q hq := by
    refine (k.placed pid q hq).imp_right fun hmem => Finmap.mem_erase.2 ⟨?_, hmem⟩
    rintro hname
    have := mem_residents.2 ⟨q, hq, hname⟩
    rw [h.1] at this
    cases this

/-- Write limits of a group that exists. -/
def writeLimits (k : Kernel) (name : String) (g : Group) (h : name ∈ k.groups) : Kernel where
  root := k.root
  controllers := k.controllers
  procsWritable := k.procsWritable
  groups := k.groups.insert name g
  procs := k.procs
  normalized key hkey := by
    rcases Finmap.mem_insert.1 hkey with rfl | hkey
    · exact k.normalized _ h
    · exact k.normalized key hkey
  parents key hkey parent hbelow := by
    rcases Finmap.mem_insert.1 hkey with rfl | hkey
    · exact Finmap.mem_insert.2 (.inr (k.parents _ h parent hbelow))
    · exact Finmap.mem_insert.2 (.inr (k.parents key hkey parent hbelow))
  placed pid q hq := (k.placed pid q hq).imp_right fun hmem => Finmap.mem_insert.2 (.inr hmem)

/-- Put a process, new or moved, into a group. -/
def place (k : Kernel) (pid : UInt32) (q : Proc) (h : q.group = "" ∨ q.group ∈ k.groups) :
    Kernel where
  root := k.root
  controllers := k.controllers
  procsWritable := k.procsWritable
  groups := k.groups
  procs := k.procs.insert pid q
  normalized := k.normalized
  parents := k.parents
  placed pid' q' hq' := by
    by_cases hpid : pid' = pid
    · subst hpid
      rw [Finmap.lookup_insert, Option.some.injEq] at hq'
      exact hq' ▸ h
    · rw [Finmap.lookup_insert_of_ne _ hpid] at hq'
      exact k.placed pid' q' hq'

/-- A process ends. -/
def exit (k : Kernel) (pid : UInt32) : Kernel where
  root := k.root
  controllers := k.controllers
  procsWritable := k.procsWritable
  groups := k.groups
  procs := k.procs.erase pid
  normalized := k.normalized
  parents := k.parents
  placed pid' q' hq' := by
    by_cases hpid : pid' = pid
    · subst hpid
      rw [Finmap.lookup_erase] at hq'
      cases hq'
    · rw [Finmap.lookup_erase_ne hpid] at hq'
      exact k.placed pid' q' hq'

end Kernel

/-! ## §4 The Linux backend -/

/-- The text of `ENOENT`. -/
def enoent : String := "No such file or directory (os error 2)"

/-- The text of `ESRCH`. -/
def esrch : String := "No such process (os error 3)"

/-- The text of `EBUSY`. -/
def ebusy : String := "Device or resource busy (os error 16)"

/-- The text of `EEXIST`. -/
def eexist : String := "File exists (os error 17)"

/-- The key of a name that may be read, and whether the group is Nemor's own. -/
def inspectPath (name : String) : Except ActuatorError (String × Bool) :=
  if isManagedName name then .ok (name, true)
  else
    match stripSlash name with
    | none => .error (.blocked "external group must be an absolute cgroup path")
    | some relative =>
      if isNormalized relative then .ok (relative, false)
      else .error (.blocked "external group path is not normalized")

/-- The key of a group that a process is attached to. Callers attach to a managed group or
    to a path that `inspectPath` has accepted. -/
def attachPath (name : String) : Except ActuatorError String :=
  if isManagedName name then .ok name
  else
    match stripSlash name with
    | none => .error (.blocked "original group must be an absolute cgroup path")
    | some relative => .ok relative

namespace Kernel

/-- What the backend reports of this host. -/
def capabilities (k : Kernel) : Except ActuatorError CgroupCapabilities :=
  match k.controllers with
  | none => .error (.backend "read cgroup.controllers" enoent)
  | some items =>
    let memory := items.any fun item => item == "memory"
    .ok
      { cgroupV2 := true
        memoryController := memory
        hierarchy := k.root
        writable := k.procsWritable
        memoryLow := memory
        memoryHigh := memory
        attach := true }

/-- The state read from the directory of a group. -/
def groupState (k : Kernel) (name key : String) (owned : Bool) (g : Group) : GroupState where
  name := name
  path := k.root ++ "/" ++ key
  ownedByNemor := owned
  memoryLow := g.memoryLow.read
  memoryHigh := g.memoryHigh.read
  pids := k.residents key

/-- The state of a group by its name or its path. -/
def inspectGroup (k : Kernel) (name : String) : Except ActuatorError (Option GroupState) :=
  match inspectPath name with
  | .error e => .error e
  | .ok (key, owned) => .ok ((k.groups.lookup key).map (k.groupState name key owned))

/-- Make a group in the namespace of the daemon. -/
def createManagedGroup (k : Kernel) (name : String) :
    Except ActuatorError GroupState × Kernel :=
  if h : isManagedName name = true then
    if name ∈ k.groups then (.error (.backend "create managed group" eexist), k)
    else
      let created := k.mkdir name h
      match created.inspectGroup name with
      | .error e => (.error e, created)
      | .ok none => (.error (.verification "created group is absent"), created)
      | .ok (some state) => (.ok state, created)
  else (.error (.blocked "group name is outside the Nemor namespace"), k)

/-- The first write to a group that is not there fails; without a requested limit there is
    no write. -/
def setProperties (k : Kernel) (name : String) (p : RequestedProperties) :
    Except ActuatorError Unit × Kernel :=
  if isManagedName name then
    match h : k.groups.lookup name with
    | some g => (.ok (), k.writeLimits name (g.write p) (Finmap.mem_of_lookup_eq_some h))
    | none =>
      if p.memoryLow.isSome then (.error (.backend "write memory.low" enoent), k)
      else if p.memoryHigh.isSome then (.error (.backend "write memory.high" enoent), k)
      else (.ok (), k)
  else (.error (.blocked "group name is outside the Nemor namespace"), k)

/-- Move a process into a group. -/
def attachPid (k : Kernel) (name : String) (pid : UInt32) : Except ActuatorError Unit × Kernel :=
  match attachPath name with
  | .error e => (.error e, k)
  | .ok key =>
    if h : key = "" ∨ key ∈ k.groups then
      match k.procs.lookup pid with
      | none => (.error (.backend "attach PID" esrch), k)
      | some q => (.ok (), k.place pid { q with group := key } h)
    else (.error (.backend "attach PID" enoent), k)

/-- When a process was started, if there is one. -/
def processStartTime (k : Kernel) (pid : UInt32) : Except ActuatorError (Option UInt64) :=
  .ok ((k.procs.lookup pid).map Proc.startTimeTicks)

/-- The path after `0::` in the cgroup file of the process. -/
def processGroup (k : Kernel) (pid : UInt32) : Except ActuatorError (Option String) :=
  .ok ((k.procs.lookup pid).map fun q => "/" ++ q.group)

/-- Remove a group unless it is in use. -/
def cleanupEmptyOwnedGroup (k : Kernel) (name : String) : Except ActuatorError Unit × Kernel :=
  match k.inspectGroup name with
  | .error e => (.error e, k)
  | .ok none => (.ok (), k)
  | .ok (some state) =>
    if !state.ownedByNemor || state.pids ≠ ∅ then (.ok (), k)
    -- an owned group is keyed by its name
    else if h : k.Vacant name then (.ok (), k.rmdir name h)
    else (.error (.backend "remove empty managed group" ebusy), k)

end Kernel

/-! ## §5 What each method does -/

@[simp] theorem attachPath_managed {name : String} (h : isManagedName name = true) :
    attachPath name = .ok name := by
  simp [attachPath, h]

@[simp] theorem attachPath_slash (key : String) : attachPath ("/" ++ key) = .ok key := by
  simp [attachPath, isManagedName_slash]

namespace Kernel

section Methods

variable {k : Kernel} {name key : String} {g : Group} {pid : UInt32} {q : Proc}

theorem inspectGroup_managed (h : isManagedName name = true) :
    k.inspectGroup name = .ok ((k.groups.lookup name).map (k.groupState name name true)) := by
  simp [inspectGroup, inspectPath, h]

theorem inspectGroup_slash (h : isNormalized key = true) :
    k.inspectGroup ("/" ++ key) =
      .ok ((k.groups.lookup key).map (k.groupState ("/" ++ key) key false)) := by
  simp [inspectGroup, inspectPath, isManagedName_slash, h]

theorem createManagedGroup_absent (h : isManagedName name = true) (habsent : name ∉ k.groups) :
    k.createManagedGroup name =
      (.ok ((k.mkdir name h).groupState name name true .fresh), k.mkdir name h) := by
  simp [createManagedGroup, h, habsent, inspectGroup_managed, mkdir, Finmap.lookup_insert]

theorem setProperties_present {p : RequestedProperties} (h : isManagedName name = true)
    (hg : k.groups.lookup name = some g) :
    k.setProperties name p =
      (.ok (), k.writeLimits name (g.write p) (Finmap.mem_of_lookup_eq_some hg)) := by
  unfold setProperties
  rw [if_pos h]
  split
  · rename_i g' hg'
    obtain rfl : g' = g := Option.some.inj (hg'.symm.trans hg)
    rfl
  · rename_i hnone
    rw [hnone] at hg
    cases hg

theorem attachPid_present (hpath : attachPath name = .ok key) (hkey : key ∈ k.groups)
    (hq : k.procs.lookup pid = some q) :
    k.attachPid name pid = (.ok (), k.place pid { q with group := key } (.inr hkey)) := by
  simp [attachPid, hpath, hkey, hq]

theorem cleanupEmptyOwnedGroup_occupied (h : isManagedName name = true)
    (hpid : pid ∈ k.residents name) : k.cleanupEmptyOwnedGroup name = (.ok (), k) := by
  unfold cleanupEmptyOwnedGroup
  rw [inspectGroup_managed h]
  have hne : k.residents name ≠ ∅ := Finset.ne_empty_of_mem hpid
  cases k.groups.lookup name <;> simp [groupState, hne]

theorem cleanupEmptyOwnedGroup_vacant (h : isManagedName name = true)
    (hg : k.groups.lookup name = some g) (hvacant : k.Vacant name) :
    k.cleanupEmptyOwnedGroup name = (.ok (), k.rmdir name hvacant) := by
  simp [cleanupEmptyOwnedGroup, inspectGroup_managed h, hg, groupState, hvacant, hvacant.1]

end Methods

end Kernel

end Nemor.Actuator
