import Mathlib.Data.List.Chain
import Mathlib.Data.String.Basic
import Nemor.Lib.Interval
import Nemor.Lib.MachineNumbers
import Nemor.Lib.Text
import Nemor.Tiering.BootV6.Types

/-!
# Tiering: the device under a mount

`inspectStorage` follows a mounted device through sysfs, from a partition to its disk and from
a stacked device to the one it is stacked on, and reports where it has come to. Devices and
their links form a graph; the walk sees of it what the names and the resolved paths let it see,
and it takes eight devices at most.
-/

namespace Nemor.Tiering

open UnixPath Text

open BootV6 (StorageProfile)

/-! ## §1 What is read of a host -/

/-- The files and the udev data below some root. An unreadable file is a missing one. -/
structure Host where
  pathExists : PathBuf → Bool
  readDir : PathBuf → Option (List String)
  canonicalize : PathBuf → Option PathBuf
  readToString : PathBuf → Option String
  /-- The properties `udevadm` prints for a device, if it runs successfully. -/
  udevadm : String → Option String

/-- What a block device is. -/
inductive StorageClass where
  | nvme
  | solidStateNonNvme
  | rotational
  | unknown
  deriving DecidableEq

/-- What is read of a block device. -/
structure BlockDevice where
  name : String
  class_ : StorageClass
  rotational : Option Bool
  logicalBlockSize : Option UInt64
  physicalBlockSize : Option UInt64
  discardMaxBytes : Option UInt64
  model : Option String
  transport : Option String
  serial : Option String
  wwn : Option String
  capacityBytes : Option UInt64

/-- What is below a file system. -/
structure StorageTopology where
  mountSource : String
  filesystem : String
  chain : List String
  physical : Option BlockDevice
  ambiguous : Bool
  profileVersion : String
  profile : Option StorageProfile
  deviceIdentity : Option String
  filesystemIdentity : Option String

/-- Letters, digits, full stop, underscore and hyphen. -/
def isBlockNameByte (byte : UInt8) : Bool :=
  (0x61 ≤ byte && byte ≤ 0x7a) || (0x41 ≤ byte && byte ≤ 0x5a) || (0x30 ≤ byte && byte ≤ 0x39) ||
    byte == 0x2e || byte == 0x5f || byte == 0x2d

/-- A short name of plain bytes, which leads nowhere else. -/
def validBlockName (name : String) : Bool :=
  let bytes := utf8 name
  !bytes.isEmpty && decide (bytes.length ≤ 64) && bytes.all isBlockNameByte

/-- The root is never given up: the slash at the start of the second path is dropped. -/
def resolve (root : PathBuf) (absolute : String) : PathBuf :=
  root.join (String.ofList (absolute.toList.dropWhile (· == '/')))

/-- The directory of a device. -/
def classPath (root : PathBuf) (name : String) : PathBuf :=
  resolve root ("/sys/class/block/" ++ name)

namespace Host

variable (host : Host)

/-- The text of a file, unless it is empty. -/
def readTrimmed (path : PathBuf) : Option String :=
  ((host.readToString path).map fun value => String.ofList (trim value.toList)).filter (· ≠ "")

/-- The number in a file. -/
def readU64 (path : PathBuf) : Option UInt64 :=
  (host.readToString path).bind fun value => parseU64 (trim value.toList)

/-- The directory that the path of a partition resolves into. -/
def partitionParent (path : PathBuf) : Option String :=
  if host.pathExists (path.join "partition") then
    (host.canonicalize path).bind fun resolved =>
      resolved.parent.bind fun directory =>
        match directory.getLast? with
        | some (.normal name) => some (String.ofList name)
        | _ => none
  else none

/-- The valid names in a directory, sorted. -/
def readNames (path : PathBuf) : List String :=
  Interval.sortByKey (fun name => name) (((host.readDir path).getD []).filter validBlockName)

/-! ## §2 Devices -/

/-- The last value of a key in the output of `udevadm`, asked only for the running system. -/
def udevProperty (root : PathBuf) (name key : String) : Option String :=
  if root != ⟨"/"⟩ || !validBlockName name then none
  else
    let pairs := (lines ((host.udevadm name).getD "").toList).filterMap (splitOnce '=')
    let found := pairs.filter fun pair => pair.1 = key.toList
    found.getLast?.map fun pair => String.ofList pair.2

/-- The transport that the place of a device in sysfs speaks of. -/
def pathTransport (base : PathBuf) : Option String :=
  (host.canonicalize base).bind fun resolved =>
    if contains resolved.text "/nvme" then some "nvme"
    else if contains resolved.text "/ata" then some "sata"
    else if contains resolved.text "/usb" then some "usb"
    else if contains resolved.text "/virtual/" then some "virtual"
    else none

/-- The device is on the subsystem `nvme`. -/
def subsystemIsNvme (base : PathBuf) : Bool :=
  ((host.canonicalize (base.join "device/subsystem")).any fun resolved =>
      contains resolved.text "/nvme") ||
    contains ((host.readToString (base.join "device/subsystem")).getD "") "nvme"

/-- What a device is, from what was read. -/
def storageClass (nvme : Bool) (transport : Option String) (rotational : Option Bool) :
    StorageClass :=
  if nvme && transport == some "nvme" then .nvme
  else
    match rotational with
    | some false => .solidStateNonNvme
    | some true => .rotational
    | none => .unknown

/-- Read a device. -/
def inspectBlock (root : PathBuf) (name : String) : BlockDevice :=
  let base := classPath root name
  let rotational := (host.readU64 (base.join "queue/rotational")).map fun value => value != 0
  let transport :=
    (host.udevProperty root name "ID_BUS").or <|
      (host.readTrimmed (base.join "device/transport")).or (host.pathTransport base)
  { name
    class_ := storageClass (host.subsystemIsNvme base) transport rotational
    rotational
    logicalBlockSize := host.readU64 (base.join "queue/logical_block_size")
    physicalBlockSize := host.readU64 (base.join "queue/physical_block_size")
    discardMaxBytes := host.readU64 (base.join "queue/discard_max_bytes")
    model :=
      ((host.readToString (base.join "device/model")).map fun value =>
        String.ofList ((trim value.toList).take 80)).filter (· ≠ "")
    transport
    serial :=
      (host.udevProperty root name "ID_SERIAL_SHORT").or
        (host.readTrimmed (base.join "device/serial"))
    wwn := (host.udevProperty root name "ID_WWN").or (host.readTrimmed (base.join "device/wwid"))
    capacityBytes :=
      (host.readU64 (base.join "size")).map fun sectors =>
        MachineNumbers.U64.saturatingMul sectors 512 }

end Host

/-- The profile of a device. -/
def profileFor (device : BlockDevice) : StorageProfile :=
  if device.transport == some "virtual" then .virtual
  else
    match device.rotational with
    | some true => .rotational
    | none => .ambiguous
    | some false =>
      match device.transport with
      | some "nvme" => if device.class_ = .nvme then .nvmeSsd else .otherNonRotational
      | some "sata" | some "ata" => .sataSsd
      | some "sas" => .sasSsd
      | some "usb" => .usbSsd
      | _ => .otherNonRotational

/-! ## §3 The walk -/

/-- The devices that the walk can go on to: the disk of a partition, or else the slaves. -/
def Host.links (host : Host) (root : PathBuf) (name : String) : List String :=
  match host.partitionParent (classPath root name) with
  | some parent => [parent]
  | none => host.readNames ((classPath root name).join "slaves")

/-- What a walk down the devices has found. -/
structure Walk where
  chain : List String
  ambiguous : Bool
  composite : Bool
  deriving DecidableEq

/-- At most `n` devices from `current` on. The devices seen so far are those of the chain. -/
def walk (host : Host) (root : PathBuf) : ℕ → List String → String → Walk
  | 0, chain, _ => { chain, ambiguous := false, composite := false }
  | n + 1, chain, current =>
    if !validBlockName current || chain.contains current then
      { chain, ambiguous := true, composite := false }
    else if !host.pathExists (classPath root current) then
      { chain := chain ++ [current], ambiguous := true, composite := false }
    else
      match host.links root current with
      | [] => { chain := chain ++ [current], ambiguous := false, composite := false }
      | [next] => walk host root n (chain ++ [current]) next
      | slaves => { chain := chain ++ [current] ++ slaves, ambiguous := true, composite := true }

/-- The name of the device that is mounted. -/
def deviceName (mountSource : String) : String :=
  String.ofList ((stripPrefix "/dev/".toList mountSource.toList).getD mountSource.toList)

/-- The text by which a device is known again. -/
def deviceIdentity (device : BlockDevice) : String :=
  device.name ++ ":" ++ device.serial.getD "unavailable" ++ ":" ++ device.wwn.getD "unavailable" ++
    ":" ++ toString (device.capacityBytes.getD 0).toNat

/-- `inspect_storage`: at most eight layers down. -/
def inspectStorage (host : Host) (root : PathBuf) (mountSource filesystem : String) :
    StorageTopology :=
  let found := walk host root 8 [] (deviceName mountSource)
  let physical :=
    if found.ambiguous then none else found.chain.getLast?.map (host.inspectBlock root)
  { mountSource
    filesystem
    chain := found.chain
    physical
    ambiguous := found.ambiguous
    profileVersion := BootV6.storageProfileVersion
    profile :=
      if found.composite then some .composite
      else if found.ambiguous then some .ambiguous
      else physical.map profileFor
    deviceIdentity := physical.map deviceIdentity
    filesystemIdentity := some (filesystem ++ ":" ++ mountSource) }

/-! ## §4 The graph of devices -/

section Graph

variable (host : Host) (root : PathBuf)

/-- The devices that a device is part of or stacked on, by whatever name. The disk of a partition
    is unknown if its path does not resolve. -/
def Host.parents (name : String) : List (Option String) :=
  let path := classPath root name
  let disk := if host.pathExists (path.join "partition") then [host.partitionParent path] else []
  disk ++ ((host.readDir (path.join "slaves")).getD []).map some

/-- Not a partition and without slaves. -/
def Host.IsLeaf (name : String) : Prop := host.parents root name = []

/-- There is one way down from the device. -/
def Host.HasOneParent (name : String) : Prop := ∃ parent, host.parents root name = [some parent]

/-- The walk sees the parents of the device as they are. -/
def Host.Plain (name : String) : Prop :=
  host.parents root name = (host.links root name).map some

/-- A device that is reported without doubt is the leaf at the end of a chain of only parents. -/
def SoundTopology (topology : StorageTopology) : Prop :=
  topology.ambiguous = false → ∀ device, topology.physical = some device →
    host.IsLeaf root device.name ∧
      ∃ above, topology.chain = above ++ [device.name] ∧ ∀ d ∈ above, host.HasOneParent root d

/-- Distinct devices that the walk can take one after the other, behind those it has seen. -/
structure Route (seen route : List String) : Prop where
  linked : route.IsChain fun a b => host.links root a = [b]
  valid : ∀ d ∈ route, validBlockName d = true
  present : ∀ d ∈ route, host.pathExists (classPath root d) = true
  fresh : (seen ++ route).Nodup

/-- The walk ends without doubt at the end of the route: there is no link, or it has taken all the
    devices it takes. -/
def Ends (n : ℕ) (route : List String) : Prop :=
  ∃ last, route.getLast? = some last ∧
    ((route.length ≤ n ∧ host.links root last = []) ∨
      (route.length = n ∧ ∃ next, host.links root last = [next]))

end Graph

/-! ## §5 The walk takes a route -/

section Walking

variable {host : Host} {root : PathBuf} {n : ℕ} {seen route : List String} {d : String}

/-- A device that can be taken leads to what its links say. -/
theorem walk_succ (hvalid : validBlockName d = true) (hfresh : d ∉ seen)
    (hpresent : host.pathExists (classPath root d) = true) :
    walk host root (n + 1) seen d =
      match host.links root d with
      | [] => ⟨seen ++ [d], false, false⟩
      | [next] => walk host root n (seen ++ [d]) next
      | slaves => ⟨seen ++ [d] ++ slaves, true, true⟩ := by
  simp [walk, hvalid, hfresh, hpresent]

theorem Route.head_fresh (h : Route host root seen (d :: route)) : d ∉ seen := by
  have hdisjoint := List.disjoint_of_nodup_append h.fresh
  intro hd
  exact hdisjoint hd (by simp)

theorem Route.tail {e : String} (h : Route host root seen (d :: e :: route)) :
    Route host root (seen ++ [d]) (e :: route) where
  linked := h.linked.tail
  valid := fun x hx => h.valid x (List.mem_cons_of_mem d hx)
  present := fun x hx => h.present x (List.mem_cons_of_mem d hx)
  fresh := by simpa using h.fresh

theorem Route.cons {e : String} (h : Route host root (seen ++ [d]) (e :: route))
    (hlink : host.links root d = [e]) (hvalid : validBlockName d = true)
    (hpresent : host.pathExists (classPath root d) = true) :
    Route host root seen (d :: e :: route) where
  linked := List.isChain_cons_cons.2 ⟨hlink, h.linked⟩
  valid := List.forall_mem_cons.2 ⟨hvalid, h.valid⟩
  present := List.forall_mem_cons.2 ⟨hpresent, h.present⟩
  fresh := by simpa using h.fresh

theorem ends_cons_cons {e : String} :
    Ends host root (n + 1) (d :: e :: route) ↔ Ends host root n (e :: route) := by
  simp [Ends]

/-- A route that ends is walked to its end, by induction on the devices behind the first. -/
theorem walk_of_route (h : Route host root seen (d :: route))
    (hends : Ends host root n (d :: route)) :
    walk host root n seen d = ⟨seen ++ d :: route, false, false⟩ := by
  induction route generalizing n seen d with
  | nil =>
    have hvalid := h.valid d (by simp)
    have hpresent := h.present d (by simp)
    obtain ⟨last, hlast, hend⟩ := hends
    obtain rfl : d = last := by simpa using hlast
    rcases hend with ⟨hlength, hlinks⟩ | ⟨hlength, next, hlinks⟩
    · obtain ⟨k, rfl⟩ : ∃ k, n = k + 1 := ⟨n - 1, by simp at hlength; omega⟩
      rw [walk_succ hvalid h.head_fresh hpresent, hlinks]
    · -- the bound is reached before the link is followed
      obtain rfl : 1 = n := hlength
      rw [walk_succ hvalid h.head_fresh hpresent, hlinks]
      rfl
  | cons e route ih =>
    have hlink : host.links root d = [e] := (List.isChain_cons_cons.1 h.linked).1
    obtain ⟨k, rfl⟩ : ∃ k, n = k + 1 := by
      obtain ⟨_, -, ⟨hlength, -⟩ | ⟨hlength, -⟩⟩ := hends
      · exact ⟨n - 1, by simp at hlength; omega⟩
      · exact ⟨n - 1, by simp at hlength; omega⟩
    rw [walk_succ (h.valid d (by simp)) h.head_fresh (h.present d (by simp)), hlink]
    simp only [ih h.tail (ends_cons_cons.1 hends)]
    simp

/-- A walk without doubt has taken a route that ends, by induction on the devices it may take. -/
theorem route_of_walk (hn : n ≠ 0) (hseen : seen.Nodup)
    (h : (walk host root n seen d).ambiguous = false) :
    ∃ route, Route host root seen (d :: route) ∧ Ends host root n (d :: route) := by
  induction n generalizing seen d with
  | zero => exact absurd rfl hn
  | succ n ih =>
    -- each of the three tests would have left a doubt
    have hvalid : validBlockName d = true := by
      cases hvalid : validBlockName d with
      | true => rfl
      | false => simp [walk, hvalid] at h
    have hfresh : d ∉ seen := by
      intro hd
      simp [walk, hd] at h
    have hpresent : host.pathExists (classPath root d) = true := by
      cases hpresent : host.pathExists (classPath root d) with
      | true => rfl
      | false => simp [walk, hvalid, hfresh, hpresent] at h
    have hnodup : (seen ++ [d]).Nodup := by
      simp [List.nodup_append, hseen]
      rintro x hx rfl
      exact hfresh hx
    have hsingle : Route host root seen [d] :=
      ⟨List.isChain_singleton d, by simpa using hvalid, by simpa using hpresent, hnodup⟩
    rw [walk_succ hvalid hfresh hpresent] at h
    cases hlinks : host.links root d with
    | nil => exact ⟨[], hsingle, d, by simp, .inl ⟨by simp, hlinks⟩⟩
    | cons next others =>
      cases others with
      | cons other others => simp [hlinks] at h
      | nil =>
        simp only [hlinks] at h
        by_cases hzero : n = 0
        · subst hzero
          exact ⟨[], hsingle, d, by simp, .inr ⟨rfl, next, hlinks⟩⟩
        · obtain ⟨route, hroute, hends⟩ := ih hzero hnodup h
          exact ⟨next :: route, hroute.cons hlinks hvalid hpresent, ends_cons_cons.2 hends⟩

end Walking

/-! ## §6 When the report is sound -/

section Reports

variable {host : Host} {root : PathBuf} {route : List String} {d : String}

theorem mem_readNames {path : PathBuf} {name : String} :
    name ∈ host.readNames path ↔ name ∈ (host.readDir path).getD [] ∧ validBlockName name := by
  simp [Host.readNames]

/-- What is no partition has the slaves for its parents. -/
theorem parents_of_whole
    (h : host.pathExists ((classPath root d).join "partition") = false) :
    host.parents root d = ((host.readDir ((classPath root d).join "slaves")).getD []).map some ∧
      host.links root d = host.readNames ((classPath root d).join "slaves") := by
  simp [Host.parents, Host.links, Host.partitionParent, h]

/-- A partition has its disk for a parent, and its slaves. -/
theorem parents_of_partition
    (h : host.pathExists ((classPath root d).join "partition") = true) :
    host.parents root d = host.partitionParent (classPath root d) ::
      ((host.readDir ((classPath root d).join "slaves")).getD []).map some := by
  simp [Host.parents, h]

/-- A leaf is plain and has no link, and the other way round. -/
theorem isLeaf_iff : host.IsLeaf root d ↔ host.Plain root d ∧ host.links root d = [] := by
  constructor
  · intro hleaf
    cases hpartition : host.pathExists ((classPath root d).join "partition") with
    | true =>
      rw [Host.IsLeaf, parents_of_partition hpartition] at hleaf
      cases hleaf
    | false =>
      have hslaves := (parents_of_whole hpartition).1.symm.trans hleaf
      rw [List.map_eq_nil_iff] at hslaves
      have hlinks : host.links root d = [] := by
        rw [(parents_of_whole hpartition).2, List.eq_nil_iff_forall_not_mem]
        intro name hname
        simpa [hslaves] using (mem_readNames.1 hname).1
      exact ⟨by rw [Host.Plain, hlinks]; exact hleaf, hlinks⟩
  · rintro ⟨hplain, hlinks⟩
    rw [Host.IsLeaf, hplain, hlinks]
    rfl

/-- A device the walk goes on from has one parent exactly when it is plain. -/
theorem hasOneParent_iff {next : String} (h : host.links root d = [next]) :
    host.HasOneParent root d ↔ host.Plain root d := by
  constructor
  · rintro ⟨parent, hparent⟩
    -- the one parent is the one that the walk has found
    have hnext : parent = next := by
      cases hpartition : host.pathExists ((classPath root d).join "partition") with
      | true =>
        rw [parents_of_partition hpartition, List.cons.injEq] at hparent
        simpa [Host.links, hparent.1] using h
      | false =>
        have hslaves := (parents_of_whole hpartition).1.symm.trans hparent
        have hmem : next ∈ host.readNames ((classPath root d).join "slaves") := by
          rw [← (parents_of_whole hpartition).2, h]
          exact List.mem_singleton_self next
        have hsome : some next ∈ [some parent] := by
          rw [← hslaves]
          exact List.mem_map_of_mem (mem_readNames.1 hmem).1
        simpa [eq_comm] using hsome
    rw [Host.Plain, h, hparent, hnext]
    rfl
  · intro hplain
    exact ⟨next, by rw [hplain, h]; rfl⟩

theorem Route.links_of_append {above : List String} (h : Route host root [] (above ++ [d])) :
    ∀ e ∈ above, ∃ next, host.links root e = [next] := by
  intro e he
  obtain ⟨front, behind, rfl⟩ := List.append_of_mem he
  have hlinked := h.linked
  rw [List.append_assoc] at hlinked
  have htail := hlinked.right_of_append
  cases behind with
  | nil => exact ⟨d, (List.isChain_cons_cons.1 htail).1⟩
  | cons next behind => exact ⟨next, (List.isChain_cons_cons.1 htail).1⟩

/-- A chain is one of only parents, down to a leaf, when all its devices are plain and the last
    has no link. -/
theorem sound_route_iff {last : String} {above : List String}
    (h : Route host root [] (above ++ [last])) :
    (host.IsLeaf root last ∧ ∀ e ∈ above, host.HasOneParent root e) ↔
      (∀ e ∈ above ++ [last], host.Plain root e) ∧ host.links root last = [] := by
  have habove : (∀ e ∈ above, host.HasOneParent root e) ↔ ∀ e ∈ above, host.Plain root e := by
    constructor
    · intro hparents e he
      obtain ⟨next, hnext⟩ := h.links_of_append e he
      exact (hasOneParent_iff hnext).1 (hparents e he)
    · intro hplain e he
      obtain ⟨next, hnext⟩ := h.links_of_append e he
      exact (hasOneParent_iff hnext).2 (hplain e he)
  rw [isLeaf_iff, habove, List.forall_mem_append]
  simp only [List.mem_singleton, forall_eq]
  exact ⟨fun h => ⟨⟨h.2, h.1.1⟩, h.1.2⟩, fun h => ⟨⟨h.1.2, h.2⟩, h.1.1⟩⟩

/-- What is reported of a route that ends. -/
theorem inspectStorage_of_route {mountSource : String} (filesystem : String) {last : String}
    {above : List String} (hroute : Route host root [] (above ++ [last]))
    (hhead : (above ++ [last]).head? = some (deviceName mountSource))
    (hends : Ends host root 8 (above ++ [last])) :
    (inspectStorage host root mountSource filesystem).ambiguous = false ∧
      (inspectStorage host root mountSource filesystem).chain = above ++ [last] ∧
      (inspectStorage host root mountSource filesystem).physical =
        some (host.inspectBlock root last) := by
  have hwalk : walk host root 8 [] (deviceName mountSource) = ⟨above ++ [last], false, false⟩ := by
    obtain ⟨rest, hrest⟩ := List.head?_eq_some_iff.1 hhead
    rw [hrest] at hroute hends ⊢
    exact walk_of_route hroute hends
  simp [inspectStorage, hwalk]

end Reports

/-- **A report without doubt is sound exactly when the walk is not misled.** Its route must not
    pass a device with a parent that it does not see, which is a slave with a name it rejects, a
    slave of a partition, or a disk that is not resolved, and the route must end at a device
    without a link, not only at the eighth. -/
theorem inspectStorage_sound_iff (host : Host) (root : PathBuf) (mountSource filesystem : String) :
    SoundTopology host root (inspectStorage host root mountSource filesystem) ↔
      ∀ route, Route host root [] route → route.head? = some (deviceName mountSource) →
        Ends host root 8 route →
          (∀ d ∈ route, host.Plain root d) ∧ ∀ last ∈ route.getLast?, host.links root last = [] := by
  constructor
  · intro hsound route hroute hhead hends
    obtain ⟨last, hlast, -⟩ := id hends
    obtain ⟨above, rfl⟩ := List.getLast?_eq_some_iff.1 hlast
    obtain ⟨hclear, hchain, hphysical⟩ := inspectStorage_of_route filesystem hroute hhead hends
    obtain ⟨hleaf, above', hchain', hparents⟩ := hsound hclear _ hphysical
    have habove : above = above' := (List.append_inj' (hchain.symm.trans hchain') rfl).1
    have hplain := (sound_route_iff hroute).1 ⟨hleaf, habove ▸ hparents⟩
    exact ⟨hplain.1, by simpa using hplain.2⟩
  · intro hroutes hclear device hdevice
    have hwalk : (walk host root 8 [] (deviceName mountSource)).ambiguous = false := hclear
    obtain ⟨route, hroute, hends⟩ := route_of_walk (by decide) List.nodup_nil hwalk
    obtain ⟨hplain, hlinks⟩ := hroutes _ hroute rfl hends
    obtain ⟨last, hlast, -⟩ := id hends
    obtain ⟨above, habove⟩ := List.getLast?_eq_some_iff.1 hlast
    rw [habove] at hroute hends hplain
    obtain ⟨-, hchain, hphysical⟩ := inspectStorage_of_route filesystem hroute
      (by rw [← habove]; rfl) hends
    obtain rfl : host.inspectBlock root last = device := by
      rw [hphysical] at hdevice
      exact Option.some.inj hdevice
    have hsound := (sound_route_iff hroute).2 ⟨hplain, hlinks last hlast⟩
    exact ⟨hsound.1, above, hchain, hsound.2⟩

/-- A mapped device on a disk behind a RAID controller, whose name has an exclamation mark. -/
def controllerHost : Host where
  pathExists path := path.text == "/sys/class/block/dm-0"
  readDir path := if path.text == "/sys/class/block/dm-0/slaves" then some ["cciss!c0d0"] else none
  canonicalize _ := none
  readToString _ := none
  udevadm _ := none

theorem controllerHost_unsound :
    ¬ SoundTopology controllerHost ⟨"/"⟩
      (inspectStorage controllerHost ⟨"/"⟩ "/dev/dm-0" "btrfs") := by
  intro hsound
  have hclear : (inspectStorage controllerHost ⟨"/"⟩ "/dev/dm-0" "btrfs").ambiguous = false := by
    decide +kernel
  have hname : (inspectStorage controllerHost ⟨"/"⟩ "/dev/dm-0" "btrfs").physical.map (·.name) =
      some "dm-0" := by
    decide +kernel
  have hparents : controllerHost.parents ⟨"/"⟩ "dm-0" = [some "cciss!c0d0"] := by decide +kernel
  obtain ⟨device, hdevice, hdm⟩ := Option.map_eq_some_iff.1 hname
  have hleaf := (hsound hclear device hdevice).1
  rw [Host.IsLeaf, hdm, hparents] at hleaf
  cases hleaf

end Nemor.Tiering
