import Nemor.Actuator.Transaction
import Nemor.Lib.Linking
import Nemor.Lib.Text

/-!
# The Linux backend over files, and where it writes

`applyOne` and `rollbackOne` reach control groups by name. Here every method of the Linux
backend is a program over files below a root, and the two procedures are linked with it. What
the files answer is left open. A name that is not Nemor's own is only written to after
`inspectGroup` has accepted it, and that is what keeps every write below the root:
`attachPid` alone would follow any path behind a slash.
-/

namespace Nemor.Actuator

open Effectful UnixPath PathBuf Text

/-! ## §1 Files -/

/-- Why a file cannot be read. -/
inductive ReadError where
  | notFound
  | other (source : String)
  deriving DecidableEq

/-- What the backend does with files. -/
inductive FileOp where
  | pathExists (path : PathBuf)
  | isFile (path : PathBuf)
  | opensForWriting (path : PathBuf)
  | readToString (path : PathBuf)
  | createDir (path : PathBuf)
  | write (path : PathBuf) (value : String)
  | removeDir (path : PathBuf)

/-- What a call returns. -/
abbrev FileOp.Value : FileOp → Type
  | .pathExists _ | .isFile _ | .opensForWriting _ => Bool
  | .readToString _ => Except ReadError String
  | .createDir _ | .write _ _ | .removeDir _ => Except String Unit

/-- What the operation writes to, creates or removes. -/
def FileOp.written : FileOp → List PathBuf
  | .createDir path | .write path _ | .removeDir path => [path]
  | _ => []

/-- Below the actuator there are files and the snapshot store. -/
inductive SystemOp where
  | file (op : FileOp)
  | store (op : Op)

/-- The calls with their replies. -/
abbrev system : Iface where
  Op := SystemOp
  Reply
    | .file op => op.Value
    | .store op => Except ActuatorError op.Value

/-- A method of the backend as a program over these calls. -/
abbrev Method (α : Type) := Act system Unit ActuatorError α

/-- One call. -/
def file (op : FileOp) : Method op.Value := Act.request (I := system) (.file op)

/-- An operation whose error is reported as one of the backend. -/
def change (op : FileOp) (operation : String) (read : op.Value → Except String Unit) :
    Method Unit :=
  Act.perform (I := system) (.file op) fun r => (read r).mapError (.backend operation)

/-! ## §2 Paths -/

/-- The directory of a managed group. -/
def groupPath (root : PathBuf) (name : String) : Except ActuatorError PathBuf :=
  if isManagedName name then .ok (root.join name)
  else .error (.blocked "group name is outside the Nemor namespace")

/-- The directory of a name that may be read, and whether the group is Nemor's own. -/
def inspectDirectory (root : PathBuf) (name : String) : Except ActuatorError (PathBuf × Bool) :=
  (inspectPath name).map fun (key, owned) => (root.join key, owned)

/-- The directory into which a process is attached, also one that is not managed. -/
def attachDirectory (root : PathBuf) (name : String) : Except ActuatorError PathBuf :=
  (attachPath name).map root.join

/-! ## §3 The methods of `LinuxCgroupBackend` -/

/-- `value.trim().parse().ok()`. -/
def readLimit (value : Except ReadError String) : Option UInt64 :=
  value.toOption.bind fun text => parseU64 (trim text.toList)

/-- The numbers in `cgroup.procs`. An unreadable file has none. -/
def readPids (value : Except ReadError String) : Finset UInt32 :=
  ((lines (value.toOption.getD "").toList).filterMap parseU32).toFinset

/-- With the memory controller, a group offers a file of it, or there is no such group yet. -/
def offers (memory : Bool) (probe : PathBuf) (name : String) : Method Bool :=
  if memory then do
    if ← file (.pathExists (probe.join name)) then pure true
    else
      let present ← file (.pathExists probe)
      pure !present
  else pure false

/-- Whether processes can be attached at all. -/
def attachable (root probe : PathBuf) : Method Bool := do
  if ← file (.pathExists (probe.join "cgroup.procs")) then pure true
  else file (.pathExists (root.join "cgroup.procs"))

/-- What the host can do, found by trying it. -/
def Linux.capabilities (root : PathBuf) : Method CgroupCapabilities := do
  match ← file (.readToString (root.join "cgroup.controllers")) with
  | .error .notFound => Act.fail (.backend "read cgroup.controllers" enoent)
  | .error (.other source) => Act.fail (.backend "read cgroup.controllers" source)
  | .ok controllers =>
    let probe := root.join foregroundGroup
    let memory := (splitWhitespace controllers.toList).any fun item => item == "memory".toList
    let v2 ← file (.isFile (root.join "cgroup.controllers"))
    let writable ← file (.opensForWriting (root.join "cgroup.procs"))
    let low ← offers memory probe "memory.low"
    let high ← offers memory probe "memory.high"
    let attach ← attachable root probe
    pure
      { cgroupV2 := v2
        memoryController := memory
        hierarchy := root.text
        writable := writable
        memoryLow := low
        memoryHigh := high
        attach := attach }

/-- The state of a group, if there is one. -/
def Linux.inspectGroup (root : PathBuf) (name : String) : Method (Option GroupState) := do
  let (path, owned) ← Act.ofExcept (inspectDirectory root name)
  if ← file (.pathExists path) then
    let procs ← file (.readToString (path.join "cgroup.procs"))
    let low ← file (.readToString (path.join "memory.low"))
    let high ← file (.readToString (path.join "memory.high"))
    pure (some
      { name := name
        path := path.text
        ownedByNemor := owned
        memoryLow := readLimit low
        memoryHigh := readLimit high
        pids := readPids procs })
  else pure none

/-- Make a directory for the group. -/
def Linux.createManagedGroup (root : PathBuf) (name : String) : Method GroupState := do
  let path ← Act.ofExcept (groupPath root name)
  change (.createDir path) "create managed group" id
  match ← Linux.inspectGroup root name with
  | some state => pure state
  | none => Act.fail (.verification "created group is absent")

/-- Write a limit if one is requested. -/
def writeLimit (path : PathBuf) (name operation : String) : Option UInt64 → Method Unit
  | none => pure ()
  | some value => change (.write (path.join name) (toString value)) operation id

/-- Write the limits of a managed group. -/
def Linux.setProperties (root : PathBuf) (name : String) (properties : RequestedProperties) :
    Method Unit := do
  let path ← Act.ofExcept (groupPath root name)
  writeLimit path "memory.low" "write memory.low" properties.memoryLow
  writeLimit path "memory.high" "write memory.high" properties.memoryHigh

/-- Move a process. -/
def Linux.attachPid (root : PathBuf) (name : String) (pid : UInt32) : Method Unit := do
  let path ← Act.ofExcept (attachDirectory root name)
  change (.write (path.join "cgroup.procs") (toString pid)) "attach PID" id

/-- Field 20 behind the parenthesized name of the process is its start time. -/
def parseStat (stat : List Char) : Except ActuatorError (Option UInt64) :=
  if ')' ∈ stat then
    let behind := (stat.reverse.takeWhile (· ≠ ')')).reverse
    .ok ((splitWhitespace behind)[19]?.bind parseU64)
  else .error (.verification "invalid process stat")

/-- Field 22 of `/proc/<pid>/stat`, if there is such a process. -/
def Linux.processStartTime (pid : UInt32) : Method (Option UInt64) := do
  match ← file (.readToString ⟨"/proc/" ++ toString pid ++ "/stat"⟩) with
  | .error .notFound => pure none
  | .error (.other source) => Act.fail (.backend "read process stat" source)
  | .ok stat => Act.ofExcept (parseStat stat.toList)

/-- The group of a process, if there is such a process. -/
def Linux.processGroup (pid : UInt32) : Method (Option String) := do
  match ← file (.readToString ⟨"/proc/" ++ toString pid ++ "/cgroup"⟩) with
  | .error .notFound => pure none
  | .error (.other source) => Act.fail (.backend "read process cgroup" source)
  | .ok value =>
    pure (((lines value.toList).findSome? (stripPrefix "0::".toList)).map String.ofList)

/-- Remove a group that is ours and has no process. -/
def Linux.cleanupEmptyOwnedGroup (root : PathBuf) (name : String) : Method Unit := do
  match ← Linux.inspectGroup root name with
  | none => pure ()
  | some state =>
    if state.ownedByNemor = false ∨ state.pids ≠ ∅ then pure ()
    else change (.removeDir ⟨state.path⟩) "remove empty managed group" id

/-- A call of the actuator over files. What concerns the store is passed on. -/
def linux (root : PathBuf) : (op : Op) → Prog system Unit (Except ActuatorError op.Value)
  | .capabilities => (Linux.capabilities root).result
  | .inspectGroup name => (Linux.inspectGroup root name).result
  | .createManagedGroup name => (Linux.createManagedGroup root name).result
  | .setProperties name properties => (Linux.setProperties root name properties).result
  | .attachPid name pid => (Linux.attachPid root name pid).result
  | .processStartTime pid => (Linux.processStartTime pid).result
  | .processGroup pid => (Linux.processGroup pid).result
  | .cleanupEmptyOwnedGroup name => (Linux.cleanupEmptyOwnedGroup root name).result
  | op => .call () (.store op) .pure

/-- Every operation may answer anything. What is written to is noted, whether the write succeeds
    or not. -/
def noting (log : List PathBuf) : (op : SystemOp) → system.Reply op → List PathBuf → Prop
  | .file op, _, log' => log' = log ++ op.written
  | .store _, _, log' => log' = log

/-! ## §4 Where the methods write -/

/-- The paths that may be written to below `root`: the directory of a managed group, the three
    files in it, and the process list of a group with a normalized path. -/
inductive Confined (root : PathBuf) : PathBuf → Prop where
  | group {name : String} (h : isManagedName name = true) : Confined root (root.join name)
  | groupFile {name entry : String} (h : isManagedName name = true)
      (hentry : entry ∈ ["memory.low", "memory.high", "cgroup.procs"]) :
      Confined root ((root.join name).join entry)
  | original {key : String} (h : isNormalized key = true) :
      Confined root ((root.join key).join "cgroup.procs")

theorem isName_of_isNormalized {key : String} (h : isNormalized key = true) :
    ∀ part ∈ key.toList.splitOn '/', IsName part := by
  intro part hpart
  have hnormal := List.all_eq_true.1 h part hpart
  simpa [isNormalComponent, IsName, and_assoc] using hnormal

theorem isName_entry {entry : String}
    (h : entry ∈ ["memory.low", "memory.high", "cgroup.procs"]) :
    ∀ part ∈ entry.toList.splitOn '/', IsName part := by
  apply isName_of_isNormalized
  simp only [List.mem_cons, List.not_mem_nil, or_false] at h
  rcases h with rfl | rfl | rfl <;> decide

/-- **Confined paths lie strictly under the root**, however they are spelled. -/
theorem Confined.strictlyUnder {root path : PathBuf} (h : Confined root path) :
    StrictlyUnder root path := by
  cases h with
  | group h => exact strictlyUnder_join (isName_of_isNormalized (isNormalized_of_isManagedName h))
  | groupFile h hentry =>
    exact (strictlyUnder_join (isName_of_isNormalized (isNormalized_of_isManagedName h))).join
      (isName_entry hentry)
  | original h =>
    exact (strictlyUnder_join (isName_of_isNormalized h)).join (isName_entry (by simp))

/-- `inspectPath` accepts the name. -/
def Inspectable (name : String) : Prop := ∃ found, inspectPath name = .ok found

/-- A process is only moved to a group whose name `inspectPath` accepts. -/
def Placeable : Op → Prop
  | .attachPid name _ => Inspectable name
  | _ => True

/-- Only such a group is ever found. -/
def Truthful : (op : Op) → Except ActuatorError op.Value → Prop
  | .inspectGroup name, .ok _ => Inspectable name
  | _, _ => True

theorem inspectable_of_isManagedName {name : String} (h : isManagedName name = true) :
    Inspectable name := by
  simp [Inspectable, inspectPath, h]

section Methods

variable {root : PathBuf}

/-- All that was written to is confined. -/
def Within (root : PathBuf) (log : List PathBuf) : Prop := ∀ path ∈ log, Confined root path

/-- The invariant of the methods. -/
abbrev Safe (root : PathBuf) {α : Type} (m : Method α) : Prop :=
  Act.Keeps (fun _ => noting) (fun _ => Within root) m

theorem within_append {log written : List PathBuf} (h : Within root log)
    (hwritten : Within root written) : Within root (log ++ written) := by
  intro path hpath
  rcases List.mem_append.1 hpath with hpath | hpath
  · exact h path hpath
  · exact hwritten path hpath

theorem safe_file {op : FileOp} (h : Within root op.written) : Safe root (file op) :=
  Act.keeps_request fun _ _ _ _ hlog hstep => hstep ▸ within_append hlog h

theorem safe_change {op : FileOp} {operation : String} {read : op.Value → Except String Unit}
    (h : Within root op.written) : Safe root (change op operation read) :=
  Act.keeps_perform fun _ _ _ _ hlog hstep => hstep ▸ within_append hlog h

/-- What only reads is safe. -/
theorem safe_read {op : FileOp} (h : op.written = []) : Safe root (file op) :=
  safe_file (by simp [h, Within])

theorem safe_inspectGroup (name : String) : Safe root (Linux.inspectGroup root name) := by
  unfold Linux.inspectGroup
  apply Act.keeps_ofExcept_bind
  rintro ⟨path, owned⟩ -
  apply Act.keeps_bind (safe_read rfl)
  intro present
  apply Act.keeps_ite
  · intro _
    apply Act.keeps_bind (safe_read rfl)
    intro procs
    apply Act.keeps_bind (safe_read rfl)
    intro low
    apply Act.keeps_bind (safe_read rfl)
    intro high
    exact Act.keeps_pure _
  · intro _
    exact Act.keeps_pure none

theorem safe_writeLimit {path : PathBuf} {name operation : String} {value : Option UInt64}
    (h : Confined root (path.join name)) : Safe root (writeLimit path name operation value) := by
  cases value with
  | none => exact Act.keeps_pure ()
  | some value => exact safe_change (by simpa [FileOp.written, Within] using h)

theorem groupPath_eq_ok {name : String} {path : PathBuf} (h : groupPath root name = .ok path) :
    isManagedName name = true ∧ path = root.join name := by
  unfold groupPath at h
  split at h
  · next hmanaged =>
    cases h
    exact ⟨hmanaged, rfl⟩
  · cases h

/-- A group that is found below the root, owned, is a managed group. -/
theorem inspectDirectory_owned {name : String} {path : PathBuf}
    (h : inspectDirectory root name = .ok (path, true)) :
    isManagedName name = true ∧ path = root.join name := by
  unfold inspectDirectory inspectPath at h
  by_cases hmanaged : isManagedName name = true
  · simp only [hmanaged, if_true, Except.map, Except.ok.injEq, Prod.mk.injEq, and_true] at h
    exact ⟨hmanaged, h.symm⟩
  · simp only [hmanaged, Bool.false_eq_true, if_false] at h
    split at h
    · simp [Except.map] at h
    · split at h <;> simp [Except.map] at h

/-- The directory a process is moved to, once `inspectPath` has accepted the name. -/
theorem attachDirectory_confined {name : String} {path : PathBuf} (hname : Inspectable name)
    (h : attachDirectory root name = .ok path) : Confined root (path.join "cgroup.procs") := by
  obtain ⟨found, hfound⟩ := hname
  by_cases hmanaged : isManagedName name = true
  · simp only [attachDirectory, attachPath, hmanaged, if_true, Except.map, Except.ok.injEq] at h
    subst h
    exact .groupFile hmanaged (by simp)
  · simp only [attachDirectory, attachPath, hmanaged, Bool.false_eq_true, if_false] at h
    simp only [inspectPath, hmanaged, Bool.false_eq_true, if_false] at hfound
    cases hstrip : stripSlash name with
    | none => simp [hstrip, Except.map] at h
    | some relative =>
      simp only [hstrip, Except.map, Except.ok.injEq] at h hfound
      subst h
      -- the check that only `inspectPath` makes
      by_cases hnormal : isNormalized relative = true
      · exact .original hnormal
      · simp [hnormal] at hfound

theorem safe_createManagedGroup (name : String) :
    Safe root (Linux.createManagedGroup root name) := by
  unfold Linux.createManagedGroup
  apply Act.keeps_ofExcept_bind
  intro path hpath
  obtain ⟨hmanaged, rfl⟩ := groupPath_eq_ok hpath
  apply Act.keeps_bind (safe_change (by simpa [FileOp.written, Within] using .group hmanaged))
  intro _
  apply Act.keeps_bind (safe_inspectGroup name)
  intro state
  cases state with
  | none => exact Act.keeps_fail _
  | some state => exact Act.keeps_pure state

theorem safe_setProperties (name : String) (properties : RequestedProperties) :
    Safe root (Linux.setProperties root name properties) := by
  unfold Linux.setProperties
  apply Act.keeps_ofExcept_bind
  intro path hpath
  obtain ⟨hmanaged, rfl⟩ := groupPath_eq_ok hpath
  apply Act.keeps_bind (safe_writeLimit (.groupFile hmanaged (by simp)))
  intro _
  exact safe_writeLimit (.groupFile hmanaged (by simp))

theorem safe_attachPid {name : String} (hname : Inspectable name) (pid : UInt32) :
    Safe root (Linux.attachPid root name pid) := by
  unfold Linux.attachPid
  apply Act.keeps_ofExcept_bind
  intro path hpath
  exact safe_change
    (by simpa [FileOp.written, Within] using attachDirectory_confined hname hpath)

/-- What `inspectGroup` vouches for with an answer: the name is acceptable, and a group of
    Nemor's own that is there can be removed. -/
def Vouched (root : PathBuf) (name : String) (found : Option GroupState) : Prop :=
  Inspectable name ∧
    ∀ state, found = some state → state.ownedByNemor = true → Confined root ⟨state.path⟩

theorem inspectGroup_vouches (name : String) :
    Act.Leads (fun _ => noting) (fun _ => Within root)
      (fun found _ _ => Vouched root name found) (Linux.inspectGroup root name) := by
  unfold Linux.inspectGroup
  cases hdirectory : inspectDirectory root name with
  | error e => exact Act.leads_fail e
  | ok found =>
    obtain ⟨path, owned⟩ := found
    have hname : Inspectable name := by
      unfold inspectDirectory at hdirectory
      cases hpath : inspectPath name with
      | ok found => exact ⟨found, hpath⟩
      | error e => simp [hpath, Except.map] at hdirectory
    apply Act.leads_after (@safe_read root (.pathExists path) rfl)
    intro present
    apply Act.leads_ite
    · intro _
      apply Act.leads_after (@safe_read root (.readToString _) rfl)
      intro procs
      apply Act.leads_after (@safe_read root (.readToString _) rfl)
      intro low
      apply Act.leads_after (@safe_read root (.readToString _) rfl)
      intro high
      apply Act.leads_pure
      refine fun _ _ _ => ⟨hname, fun state hstate howned => ?_⟩
      -- only the path of a managed name is marked as owned
      cases hstate
      obtain rfl : owned = true := howned
      obtain ⟨hmanaged, rfl⟩ := inspectDirectory_owned hdirectory
      exact .group hmanaged
    · intro _
      exact Act.leads_pure fun _ _ _ => ⟨hname, fun state hstate => by cases hstate⟩

theorem safe_cleanupEmptyOwnedGroup (name : String) :
    Safe root (Linux.cleanupEmptyOwnedGroup root name) := by
  unfold Linux.cleanupEmptyOwnedGroup
  apply Act.keeps_after (inspectGroup_vouches name)
  intro found t s h
  cases found with
  | none => exact h
  | some state =>
    apply Act.wp_ite.2
    constructor
    · intro _
      exact h
    · intro howned
      simp only [not_or, Bool.not_eq_false] at howned
      have hpath := h.2.2 state rfl howned.1
      refine ⟨h, fun r s' hstep => ⟨?_, h.2⟩⟩
      exact hstep ▸ within_append h.1 (by simpa [FileOp.written, Within] using hpath)

theorem safe_offers (memory : Bool) (probe : PathBuf) (entry : String) :
    Safe root (offers memory probe entry) := by
  apply Act.keeps_ite
  · intro _
    apply Act.keeps_bind (safe_read rfl)
    intro present
    apply Act.keeps_ite
    · intro _
      exact Act.keeps_pure true
    · intro _
      exact Act.keeps_bind (safe_read rfl) fun _ => Act.keeps_pure _
  · intro _
    exact Act.keeps_pure false

theorem safe_capabilities : Safe root (Linux.capabilities root) := by
  unfold Linux.capabilities
  apply Act.keeps_bind (safe_read rfl)
  intro controllers
  cases controllers with
  | error e => cases e <;> exact Act.keeps_fail _
  | ok controllers =>
    apply Act.keeps_bind (safe_read rfl)
    intro v2
    apply Act.keeps_bind (safe_read rfl)
    intro writable
    apply Act.keeps_bind (safe_offers _ _ _)
    intro low
    apply Act.keeps_bind (safe_offers _ _ _)
    intro high
    have hattach : Safe root (attachable root (root.join foregroundGroup)) := by
      apply Act.keeps_bind (safe_read rfl)
      intro present
      exact Act.keeps_ite (fun _ => Act.keeps_pure true) fun _ => safe_read rfl
    exact Act.keeps_bind hattach fun _ => Act.keeps_pure _

theorem safe_processStartTime (pid : UInt32) : Safe root (Linux.processStartTime pid) := by
  unfold Linux.processStartTime
  apply Act.keeps_bind (safe_read rfl)
  intro stat
  cases stat with
  | error e =>
    cases e
    · exact Act.keeps_pure none
    · exact Act.keeps_fail _
  | ok stat => exact Act.keeps_ofExcept _

theorem safe_processGroup (pid : UInt32) : Safe root (Linux.processGroup pid) := by
  unfold Linux.processGroup
  apply Act.keeps_bind (safe_read rfl)
  intro value
  cases value with
  | error e =>
    cases e
    · exact Act.keeps_pure none
    · exact Act.keeps_fail _
  | ok value => exact Act.keeps_pure _

/-- A safe method, as an implementation. -/
theorem Safe.result {α : Type} {m : Method α} (h : Safe root m) {log : List PathBuf}
    (hlog : Within root log) :
    m.result.wp (fun _ => noting) (fun _ => Within root)
      (fun _ log' => Within root log' ∧ True) log :=
  Prog.wp_mono (Act.wp_result.2 (h () log hlog)) fun _ _ h' => ⟨h', trivial⟩

/-- **Every method of the backend writes within the root**, as long as `attachPid` is given an
    acceptable name, and `inspectGroup` finds groups with acceptable names only. -/
theorem linux_within (op : Op) (hop : Placeable op) (log : List PathBuf)
    (hlog : Within root log) :
    (linux root op).wp (fun _ => noting) (fun _ => Within root)
      (fun r log' => Within root log' ∧ Truthful op r) log := by
  cases op with
  | capabilities => exact safe_capabilities.result hlog
  | inspectGroup name =>
    apply Prog.wp_mono (Act.wp_result.2 (inspectGroup_vouches name () log hlog))
    intro r log' h
    cases r with
    | ok found => exact ⟨h.1, (h.2 found rfl).1⟩
    | error e => exact ⟨h.1, trivial⟩
  | createManagedGroup name => exact (safe_createManagedGroup name).result hlog
  | setProperties name properties => exact (safe_setProperties name properties).result hlog
  | attachPid name pid => exact (safe_attachPid hop pid).result hlog
  | processStartTime pid => exact (safe_processStartTime pid).result hlog
  | processGroup pid => exact (safe_processGroup pid).result hlog
  | cleanupEmptyOwnedGroup name => exact (safe_cleanupEmptyOwnedGroup name).result hlog
  | persist | update | pending | recordManagedGroup | removeManagedGroup =>
    exact ⟨hlog, fun r log' hstep => ⟨hstep ▸ hlog, trivial⟩⟩

end Methods

/-! ## §5 The procedures ask for placeable moves only -/

/-- The procedure asks for placeable moves only, given truthful answers. -/
abbrev Careful {τ α : Type} (m : Act calls τ ActuatorError α) : Prop :=
  Act.Asks Placeable Truthful m

section Procedures

variable {τ α : Type}

theorem careful_issue {op : Op} (h : Placeable op) :
    Careful (issue op : Act calls τ ActuatorError _) :=
  Act.asks_perform h

theorem careful_issue_bind {op : Op} {f : op.Value → Act calls τ ActuatorError α}
    (h : Placeable op) (hf : ∀ a, Truthful op (.ok a) → Careful (f a)) :
    Careful (issue op >>= f) := by
  refine Act.asks_perform_bind h fun r a hr hread => hf a ?_
  obtain rfl : r = .ok a := hread
  exact hr

theorem careful_ask_bind {op : Op} {f : Except ActuatorError op.Value → Act calls τ ActuatorError α}
    (h : Placeable op) (hf : ∀ r, Truthful op r → Careful (f r)) : Careful (ask op >>= f) :=
  Act.asks_request_bind h hf

theorem restorePlacement_careful (snapshot : MutationSnapshot) :
    Careful (restorePlacement snapshot : Act calls τ ActuatorError Unit) := by
  unfold restorePlacement
  refine careful_issue_bind (by trivial) fun start _ => ?_
  refine Act.asks_ite (fun _ => ?_) fun _ => Act.asks_pure ()
  refine careful_issue_bind (by trivial) fun group _ => ?_
  refine Act.asks_ite (fun _ => ?_) fun _ => Act.asks_pure ()
  -- the process is moved back to a group that was found just before
  refine careful_issue_bind (by trivial) fun original hfound => ?_
  exact Act.asks_ite (fun _ => Act.asks_fail _) fun _ => careful_issue hfound

theorem restoreGroup_careful (snapshot : MutationSnapshot) :
    Careful (restoreGroup snapshot : Act calls τ ActuatorError Unit) := by
  unfold restoreGroup
  refine careful_issue_bind (by trivial) fun target _ => ?_
  refine Act.asks_ite (fun _ => ?_) fun _ => Act.asks_pure ()
  refine careful_issue_bind (by trivial) fun _ _ => ?_
  refine careful_issue_bind (by trivial) fun _ _ => ?_
  refine careful_issue_bind (by trivial) fun left _ => ?_
  exact Act.asks_ite (fun _ => careful_issue (by trivial)) fun _ => Act.asks_pure ()

theorem rollbackOne_careful : Careful rollbackOne := by
  apply Act.asks_current_bind
  intro snapshot
  unfold undo
  apply Act.asks_ite
  · intro _
    exact Act.asks_pure ()
  intro _
  apply Act.asks_ite
  · intro _
    exact Act.asks_fail _
  intro _
  apply Act.asks_bind (restorePlacement_careful snapshot)
  intro _
  apply Act.asks_bind (restoreGroup_careful snapshot)
  intro _
  apply Act.asks_bind (Act.asks_assign _)
  intro _
  exact careful_issue (by trivial)

theorem abandon_careful (snapshot : MutationSnapshot) (error : ActuatorError) :
    Careful (abandon snapshot error) := by
  unfold abandon
  refine careful_issue_bind (by trivial) fun _ _ => ?_
  apply Act.asks_bind (Act.asks_locally rollbackOne_careful)
  intro _
  exact Act.asks_fail error

theorem confirm_careful (plan : CgroupPlan) (snapshot : MutationSnapshot) :
    Careful (confirm plan snapshot) := by
  unfold confirm
  refine careful_issue_bind (by trivial) fun _ _ => ?_
  refine careful_issue_bind (by trivial) fun found _ => ?_
  cases found with
  | none => exact Act.asks_fail _
  | some state =>
    apply Act.asks_ite
    · intro _
      exact abandon_careful _ _
    · intro _
      exact careful_issue_bind (by trivial) fun _ _ => Act.asks_pure _

theorem ensureGroup_careful (sessionId : Int64) (name : String) :
    Careful (ensureGroup sessionId name) := by
  unfold ensureGroup
  refine careful_issue_bind (by trivial) fun present _ => ?_
  refine Act.asks_ite (fun _ => ?_) fun _ => Act.asks_pure ()
  refine careful_issue_bind (by trivial) fun _ _ => ?_
  exact careful_issue (by trivial)

theorem mutate_careful (sessionId : Int64) {plan : CgroupPlan} (snapshot : MutationSnapshot)
    (h : isManagedName plan.targetGroup = true) : Careful (mutate sessionId plan snapshot) := by
  unfold mutate
  apply Act.asks_bind (ensureGroup_careful _ _)
  intro _
  refine careful_ask_bind (by trivial) fun written _ => ?_
  cases written with
  | error e => exact abandon_careful _ _
  | ok _ =>
    refine careful_ask_bind (inspectable_of_isManagedName h) fun moved _ => ?_
    cases moved with
    | error e => exact abandon_careful _ _
    | ok _ => exact confirm_careful _ _

theorem identify_careful (plan : CgroupPlan) : Careful (identify plan) := by
  unfold identify
  refine careful_issue_bind (by trivial) fun capabilities _ => ?_
  apply Act.asks_ite
  · intro _
    exact Act.asks_fail _
  intro _
  refine careful_issue_bind (by trivial) fun start _ => ?_
  apply Act.asks_ite
  · intro _
    exact Act.asks_fail _
  intro _
  refine careful_issue_bind (by trivial) fun group _ => ?_
  cases group with
  | none => exact Act.asks_fail _
  | some originalGroup => exact Act.asks_pure originalGroup

theorem applyOne_careful (sessionId timestampNs : Int64) (plan : CgroupPlan) :
    Careful (applyOne sessionId timestampNs plan) := by
  unfold applyOne
  apply Act.asks_ite
  · intro _
    exact Act.asks_pure none
  intro _
  apply Act.asks_ite
  · intro _
    exact Act.asks_fail _
  intro _
  apply Act.asks_ite
  · intro _
    exact Act.asks_fail _
  intro hmanaged
  apply Act.asks_bind (identify_careful plan)
  intro originalGroup
  unfold record
  refine careful_issue_bind (by trivial) fun target _ => ?_
  refine careful_issue_bind (by trivial) fun id _ => ?_
  exact mutate_careful _ _ (by simpa using hmanaged)

end Procedures

/-! ## §6 Confinement -/

/-- **Writes are confined**: whatever the plan, the snapshot and the answers of the files and
    the store, every path that `applyOne` or `rollbackOne` has written to at any point of a run
    is the directory or a file of a managed group, or the process list of a normalized group,
    and lies strictly under the root. -/
theorem writes_confined (root : PathBuf) :
    (∀ (sessionId timestampNs : Int64) (plan : CgroupPlan)
      (rest : Prog system Unit (Except ActuatorError (Option MutationSnapshot) × Unit))
      (written : List PathBuf),
      Reaches (fun _ => noting) ((applyOne sessionId timestampNs plan ()).link (linux root)) []
        rest written →
      ∀ path ∈ written, Confined root path ∧ StrictlyUnder root path) ∧
    (∀ (snapshot : MutationSnapshot)
      (rest : Prog system MutationSnapshot (Except ActuatorError Unit × MutationSnapshot))
      (written : List PathBuf),
      Reaches (fun _ => noting) ((rollbackOne snapshot).link (linux root)) [] rest written →
      ∀ path ∈ written, Confined root path ∧ StrictlyUnder root path) := by
  have hnone : Within root [] := by simp [Within]
  constructor
  · intro sessionId timestampNs plan rest written hr path hpath
    have hwithin := (applyOne_careful sessionId timestampNs plan).reaches_link linux_within
      hnone hr path hpath
    exact ⟨hwithin, hwithin.strictlyUnder⟩
  · intro snapshot rest written hr path hpath
    have hwithin := rollbackOne_careful.reaches_link linux_within hnone hr path hpath
    exact ⟨hwithin, hwithin.strictlyUnder⟩

/-- A machine on which process 7 is still the one that started at tick 100. -/
def answer : (op : SystemOp) → system.Reply op
  | .file (.readToString path) =>
    if path.text = "/proc/7/stat" then
      .ok "7 (app) S 1 1 1 0 -1 0 0 0 0 0 0 0 0 0 20 0 1 0 100\n"
    else if path.text = "/proc/7/cgroup" then .ok "0::/nemor-foreground.slice\n"
    else .ok ""
  | .file (.pathExists _) | .file (.isFile _) | .file (.opensForWriting _) => true
  | .file (.createDir _) | .file (.write _ _) | .file (.removeDir _) => .ok ()
  | .store (.update _) => .ok ()
  | .store _ => .error (.persistence "not asked")

/-- The answer, with what was written to noted. -/
def answered (op : SystemOp) (log : List PathBuf) : system.Reply op × List PathBuf :=
  (answer op, match op with
    | .file op => log ++ op.written
    | .store _ => log)

theorem noting_of_answered (m : MutationSnapshot) (log : List PathBuf) (op : SystemOp)
    (r : system.Reply op) (log' : List PathBuf)
    (h : (Env.ofHandler answered : Env system MutationSnapshot (List PathBuf)) m log op r log') :
    noting log op r log' := by
  obtain ⟨rfl, rfl⟩ := Prod.mk.inj h
  cases op <;> rfl

/-- A rollback that moves the process back, restores a limit and removes the group. -/
theorem writes_confined_rollback :
    ∃ rest written,
      Reaches (fun _ => noting)
        ((rollbackOne { initialSnapshot 1 0 (protectPlan "nemor-foreground.slice") "/app.slice" none
            with originalProperties := { memoryLow := some 0, memoryHigh := none } }).link
          (linux ⟨"/sys/fs/cgroup"⟩)) [] rest written ∧
      written.map PathBuf.text =
        ["/sys/fs/cgroup/app.slice/cgroup.procs",
          "/sys/fs/cgroup/nemor-foreground.slice/memory.low",
          "/sys/fs/cgroup/nemor-foreground.slice"] ∧
      ∀ path ∈ written, Confined ⟨"/sys/fs/cgroup"⟩ path ∧
        StrictlyUnder ⟨"/sys/fs/cgroup"⟩ path := by
  have hr := Prog.exec_reaches answered
    ((rollbackOne { initialSnapshot 1 0 (protectPlan "nemor-foreground.slice") "/app.slice" none
        with originalProperties := { memoryLow := some 0, memoryHigh := none } }).link
      (linux ⟨"/sys/fs/cgroup"⟩)) []
  exact ⟨_, _, hr.mono noting_of_answered, by decide +kernel,
    (writes_confined _).2 _ _ _ (hr.mono noting_of_answered)⟩

end Nemor.Actuator
