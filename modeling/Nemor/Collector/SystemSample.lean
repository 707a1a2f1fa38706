import Mathlib.Data.String.Basic
import Nemor.Collector.Meminfo
import Nemor.Collector.Psi
import Nemor.Collector.Swaps
import Nemor.Collector.Vmstat
import Nemor.Lib.SortedSet

/-!
# A sample of the system

`SystemCollector::sample_system` reads three files that it needs and others that it can do
without. What of these it does not get it leaves out, and names it. §3 is when there is a sample
at all, §4 that the names are exactly those of what was left out.
-/

namespace Nemor.Collector

open Fallible MachineNumbers Text SortedSet

/-! ## §1 Compressed swap -/

/-- A file that may be missing. -/
def readOptional (source : TelemetrySource) (path : String) :
    Except IoErrorKind (Option (List Char)) :=
  match source.readToString path with
  | .ok value => .ok (some value)
  | .error .notFound => .ok none
  | .error e => .error e

/-- The same, with the error of a metric. -/
def optionalFile (metric : String) (source : TelemetrySource) (path : String) :
    Except CollectorError (Option (List Char)) :=
  (readOptional source path).mapError (.requiredRead metric path)

/-- A number in a file of its own. -/
def fileCounter (metric path : String) (value : List Char) : Except CollectorError UInt64 :=
  counter metric ("invalid value at `" ++ path ++ "`") (trim value)

/-- What is read of a zram device. Each figure may be missing. -/
structure ZramDevice where
  name : List Char
  diskSizeBytes : Option UInt64
  algorithm : Option (List Char)
  originalDataBytes : Option UInt64
  compressedDataBytes : Option UInt64
  memoryUsedBytes : Option UInt64

/-- The zram devices of the host. -/
structure ZramState where
  available : Bool
  devices : List ZramDevice

namespace ZramState

/-- A number in a file that may not be there. -/
def optionalU64 (source : TelemetrySource) (path : String) :
    Except CollectorError (Option UInt64) := do
  match ← optionalFile "zram" source path with
  | none => return none
  | some value => do
    let n ← fileCounter "zram" path value
    return some n

/-- The algorithm in brackets. -/
def currentAlgorithm (value : List Char) : Option (List Char) :=
  (splitWhitespace value).findSome? fun token => (stripPrefix ['['] token).bind (stripSuffix [']'])

/-- The first three columns of `mm_stat`. -/
structure MmStat where
  originalDataBytes : Option UInt64
  compressedDataBytes : Option UInt64
  memoryUsedBytes : Option UInt64

/-- Every column has to be a number, but none has to be there. -/
def parseMmStat (input : List Char) : Except CollectorError MmStat := do
  let values ← (splitWhitespace input).mapM (counter "zram" "invalid mm_stat value")
  return ⟨values[0]?, values[1]?, values[2]?⟩

/-- The files of one device. -/
def collectDevice (source : TelemetrySource) (name : List Char) :
    Except CollectorError ZramDevice := do
  let base := "/sys/block/" ++ String.ofList name
  let diskSizeBytes ← optionalU64 source (base ++ "/disksize")
  let algorithm ← optionalFile "zram" source (base ++ "/comp_algorithm")
  let mmStat ← optionalFile "zram" source (base ++ "/mm_stat")
  let values ←
    match mmStat with
    | some value => parseMmStat value
    | none => .ok ⟨none, none, none⟩
  return {
    name
    diskSizeBytes
    algorithm := algorithm.bind currentAlgorithm
    originalDataBytes := values.originalDataBytes
    compressedDataBytes := values.compressedDataBytes
    memoryUsedBytes := values.memoryUsedBytes }

/-- The devices of `/sys/block`. Without the directory there are none. -/
def collect (source : TelemetrySource) : Except CollectorError ZramState :=
  match source.readDirNames "/sys/block" with
  | .error .notFound => .ok ⟨false, []⟩
  | .error e => .error (.requiredRead "zram" "/sys/block" e)
  | .ok names => do
    let devices ← (names.filter fun name => "zram".toList.isPrefixOf name).mapM
      (collectDevice source)
    return ⟨!devices.isEmpty, devices⟩

end ZramState

/-- What is read of zswap. -/
structure ZswapState where
  available : Bool
  enabled : Option Bool
  storedPages : Option UInt64
  poolBytes : Option UInt64
  deriving DecidableEq

namespace ZswapState

/-- The host has no zswap. -/
def absent : ZswapState := ⟨false, none, none, none⟩

/-- A switch, in the spellings that the kernel has used. -/
def parseEnabled (value : List Char) : Option Bool :=
  let word := String.ofList (toAsciiLowercase (trim value))
  if word ∈ ["y", "yes", "1", "true"] then some true
  else if word ∈ ["n", "no", "0", "false"] then some false
  else none

/-- The number in the first of these files that is there. -/
def firstOptionalU64 (source : TelemetrySource) :
    List String → Except CollectorError (Option UInt64)
  | [] => .ok none
  | path :: paths => do
    match ← optionalFile "zswap" source path with
    | some value => do
      let n ← fileCounter "zswap" path value
      return some n
    | none => firstOptionalU64 source paths

/-- The parameters of zswap. Without the first of them there is no zswap. -/
def collect (source : TelemetrySource) : Except CollectorError ZswapState := do
  match ← optionalFile "zswap" source "/sys/module/zswap/parameters/enabled" with
  | none => return absent
  | some text => do
    let storedPages ← firstOptionalU64 source
      ["/sys/kernel/debug/zswap/stored_pages", "/sys/kernel/mm/zswap/stored_pages"]
    let poolBytes ← firstOptionalU64 source
      ["/sys/kernel/debug/zswap/pool_total_size", "/sys/kernel/mm/zswap/pool_total_size"]
    return ⟨true, parseEnabled text, storedPages, poolBytes⟩

end ZswapState

/-! ## §2 The sample -/

/-- A sample of the host. -/
structure SystemSample where
  timestampNs : Int64
  memTotalBytes : UInt64
  memAvailableBytes : UInt64
  anonBytes : Option UInt64
  fileCacheBytes : Option UInt64
  slabBytes : Option UInt64
  swapUsedBytes : Option UInt64
  swapInPages : Option UInt64
  swapOutPages : Option UInt64
  majorFaults : Option UInt64
  minorFaults : Option UInt64
  pgscan : Option UInt64
  pgsteal : Option UInt64
  workingsetRefault : Option UInt64
  psiMemory : Option Psi.PsiSample
  psiCpu : Option Psi.PsiSample
  psiIo : Option Psi.PsiSample
  swap : Swaps.SwapState
  zram : ZramState
  zswap : ZswapState
  capabilitiesUnavailable : List String

/-- A file without which there is no sample. -/
def requiredFile (metric path : String) (source : TelemetrySource) :
    Except CollectorError (List Char) :=
  (source.readToString path).mapError (.requiredRead metric path)

/-- A pressure file, or nothing and the name of the metric. -/
def collectPsi (source : TelemetrySource) (path metric : String) :
    Option Psi.PsiSample × List String :=
  match source.readToString path with
  | .ok value =>
    match Psi.parse metric value with
    | .ok value => (some value, [])
    | .error _ => (none, [metric])
  | .error _ => (none, [metric])

/-- The zram devices, and what of them is named as missing. -/
def sampleZram (source : TelemetrySource) : ZramState × List String :=
  let (zram, failed) :=
    match ZramState.collect source with
    | .ok zram => (zram, [])
    | .error _ => (⟨false, []⟩, ["zram_statistics"])
  (zram, failed ++ if zram.available then [] else ["zram"])

/-- The state of zswap. An error becomes a note. -/
def sampleZswap (source : TelemetrySource) : ZswapState × List String :=
  let (zswap, failed) :=
    match ZswapState.collect source with
    | .ok zswap => (zswap, [])
    | .error _ => (ZswapState.absent, ["zswap_statistics"])
  (zswap, failed ++
    if !zswap.available then ["zswap"]
    else if zswap.storedPages.isNone || zswap.poolBytes.isNone then ["zswap_statistics"]
    else [])

/-- `sample_system`. -/
def sampleSystem (source : TelemetrySource) (timestampNs : Int64) :
    Except CollectorError SystemSample := do
  let meminfoText ← requiredFile "meminfo" "/proc/meminfo" source
  let vmstatText ← requiredFile "vmstat" "/proc/vmstat" source
  let meminfo ← MemInfo.parse meminfoText
  let vmstat ← VmStat.parse vmstatText
  let swap ← Swaps.collect source
  -- nothing below fails any more; what is missing is only named
  let psiMemory := collectPsi source "/proc/pressure/memory" "psi_memory"
  let psiCpu := collectPsi source "/proc/pressure/cpu" "psi_cpu"
  let psiIo := collectPsi source "/proc/pressure/io" "psi_io"
  let zram := sampleZram source
  let zswap := sampleZswap source
  return {
    timestampNs
    memTotalBytes := meminfo.memTotalBytes
    memAvailableBytes := meminfo.memAvailableBytes
    anonBytes := meminfo.anonBytes
    fileCacheBytes := meminfo.fileCacheBytes
    slabBytes := meminfo.slabBytes
    swapUsedBytes := meminfo.swapUsedBytes
    swapInPages := vmstat.swapInPages
    swapOutPages := vmstat.swapOutPages
    majorFaults := vmstat.majorFaults
    minorFaults := vmstat.minorFaults
    pgscan := vmstat.pgscan
    pgsteal := vmstat.pgsteal
    workingsetRefault := vmstat.workingsetRefault
    psiMemory := psiMemory.1
    psiCpu := psiCpu.1
    psiIo := psiIo.1
    swap
    zram := zram.1
    zswap := zswap.1
    capabilitiesUnavailable :=
      sortDedup (psiMemory.2 ++ psiCpu.2 ++ psiIo.2 ++ zram.2 ++ zswap.2) }

/-! ## §3 When there is a sample -/

/-- A file is there and is understood. -/
def Understood {α : Type} (source : TelemetrySource) (path : String)
    (parse : List Char → Except CollectorError α) (value : α) : Prop :=
  ∃ text, source.readToString path = .ok text ∧ parse text = .ok value

variable {source : TelemetrySource}

theorem swaps_collect_eq_ok {state : Swaps.SwapState} :
    Swaps.collect source = .ok state ↔ Understood source "/proc/swaps" Swaps.parse state := by
  unfold Swaps.collect Understood
  cases source.readToString "/proc/swaps" <;> simp

/-- What a sample is made of. -/
theorem sampleSystem_eq_ok {timestampNs : Int64} {s : SystemSample} :
    sampleSystem source timestampNs = .ok s ↔ ∃ meminfo vmstat swap,
      Understood source "/proc/meminfo" MemInfo.parse meminfo ∧
      Understood source "/proc/vmstat" VmStat.parse vmstat ∧
      Understood source "/proc/swaps" Swaps.parse swap ∧
      s = { timestampNs
            memTotalBytes := meminfo.memTotalBytes
            memAvailableBytes := meminfo.memAvailableBytes
            anonBytes := meminfo.anonBytes
            fileCacheBytes := meminfo.fileCacheBytes
            slabBytes := meminfo.slabBytes
            swapUsedBytes := meminfo.swapUsedBytes
            swapInPages := vmstat.swapInPages
            swapOutPages := vmstat.swapOutPages
            majorFaults := vmstat.majorFaults
            minorFaults := vmstat.minorFaults
            pgscan := vmstat.pgscan
            pgsteal := vmstat.pgsteal
            workingsetRefault := vmstat.workingsetRefault
            psiMemory := (collectPsi source "/proc/pressure/memory" "psi_memory").1
            psiCpu := (collectPsi source "/proc/pressure/cpu" "psi_cpu").1
            psiIo := (collectPsi source "/proc/pressure/io" "psi_io").1
            swap
            zram := (sampleZram source).1
            zswap := (sampleZswap source).1
            capabilitiesUnavailable := sortDedup
              ((collectPsi source "/proc/pressure/memory" "psi_memory").2 ++
                (collectPsi source "/proc/pressure/cpu" "psi_cpu").2 ++
                (collectPsi source "/proc/pressure/io" "psi_io").2 ++ (sampleZram source).2 ++
                (sampleZswap source).2) } := by
  -- both sides read the three required files; all the rest cannot fail
  simp only [sampleSystem, bind_eq_ok, swaps_collect_eq_ok, Understood, requiredFile,
    mapError_eq_ok]
  constructor
  · rintro ⟨memText, hmemText, vmText, hvmText, meminfo, hmem, vmstat, hvm, swap, hswap, h⟩
    exact ⟨meminfo, vmstat, swap, ⟨memText, hmemText, hmem⟩, ⟨vmText, hvmText, hvm⟩, hswap,
      (Except.ok.inj h).symm⟩
  · rintro ⟨meminfo, vmstat, swap, ⟨memText, hmemText, hmem⟩, ⟨vmText, hvmText, hvm⟩, hswap, rfl⟩
    exact ⟨memText, hmemText, vmText, hvmText, meminfo, hmem, vmstat, hvm, swap, hswap, rfl⟩

/-! ## §4 What is named -/

/-- A pressure metric is named when it is not there, and is there when its file is understood. -/
theorem collectPsi_spec (path metric : String) :
    (∀ name, name ∈ (collectPsi source path metric).2 ↔
      name = metric ∧ (collectPsi source path metric).1 = none) ∧
    ∀ value, (collectPsi source path metric).1 = some value ↔
      Understood source path (Psi.parse metric) value := by
  unfold collectPsi Understood
  cases source.readToString path with
  | error e => simp
  | ok text => cases hparse : Psi.parse metric text <;> simp [hparse]

theorem mem_sampleZram {name : String} : name ∈ (sampleZram source).2 ↔
    (name = "zram_statistics" ∧ ∀ zram, ZramState.collect source ≠ .ok zram) ∨
      (name = "zram" ∧ (sampleZram source).1.available = false) := by
  unfold sampleZram
  cases ZramState.collect source with
  | error e => simp
  | ok zram => cases hzram : zram.available <;> simp [hzram]

theorem mem_sampleZswap {name : String} : name ∈ (sampleZswap source).2 ↔
    (name = "zswap" ∧ (sampleZswap source).1.available = false) ∨
      (name = "zswap_statistics" ∧ ((∀ zswap, ZswapState.collect source ≠ .ok zswap) ∨
        ((sampleZswap source).1.available = true ∧ ((sampleZswap source).1.storedPages = none ∨
          (sampleZswap source).1.poolBytes = none)))) := by
  unfold sampleZswap
  cases ZswapState.collect source with
  | error e => simp [ZswapState.absent, or_comm]
  | ok zswap =>
    cases havailable : zswap.available with
    | false => simp [havailable]
    | true =>
      cases hstored : zswap.storedPages <;> cases hpool : zswap.poolBytes <;>
        simp [havailable, hstored, hpool]

/-- What the list of a sample has to name. -/
inductive Missing (source : TelemetrySource) (s : SystemSample) : String → Prop where
  | psiMemory : s.psiMemory = none → Missing source s "psi_memory"
  | psiCpu : s.psiCpu = none → Missing source s "psi_cpu"
  | psiIo : s.psiIo = none → Missing source s "psi_io"
  | zram : s.zram.available = false → Missing source s "zram"
  | zramStatistics : (∀ zram, ZramState.collect source ≠ .ok zram) →
      Missing source s "zram_statistics"
  | zswap : s.zswap.available = false → Missing source s "zswap"
  | zswapFailed : (∀ zswap, ZswapState.collect source ≠ .ok zswap) →
      Missing source s "zswap_statistics"
  | zswapStatistics : s.zswap.available = true →
      (s.zswap.storedPages = none ∨ s.zswap.poolBytes = none) →
      Missing source s "zswap_statistics"

theorem missing_iff {s : SystemSample} {name : String} : Missing source s name ↔
    (name = "psi_memory" ∧ s.psiMemory = none) ∨ (name = "psi_cpu" ∧ s.psiCpu = none) ∨
      (name = "psi_io" ∧ s.psiIo = none) ∨
      ((name = "zram_statistics" ∧ ∀ zram, ZramState.collect source ≠ .ok zram) ∨
        (name = "zram" ∧ s.zram.available = false)) ∨
      ((name = "zswap" ∧ s.zswap.available = false) ∨
        (name = "zswap_statistics" ∧ ((∀ zswap, ZswapState.collect source ≠ .ok zswap) ∨
          (s.zswap.available = true ∧
            (s.zswap.storedPages = none ∨ s.zswap.poolBytes = none))))) := by
  constructor
  · intro h
    cases h with
    | psiMemory h => exact .inl ⟨rfl, h⟩
    | psiCpu h => exact .inr (.inl ⟨rfl, h⟩)
    | psiIo h => exact .inr (.inr (.inl ⟨rfl, h⟩))
    | zramStatistics h => exact .inr (.inr (.inr (.inl (.inl ⟨rfl, h⟩))))
    | zram h => exact .inr (.inr (.inr (.inl (.inr ⟨rfl, h⟩))))
    | zswap h => exact .inr (.inr (.inr (.inr (.inl ⟨rfl, h⟩))))
    | zswapFailed h => exact .inr (.inr (.inr (.inr (.inr ⟨rfl, .inl h⟩))))
    | zswapStatistics h h' => exact .inr (.inr (.inr (.inr (.inr ⟨rfl, .inr ⟨h, h'⟩⟩))))
  · rintro (⟨rfl, h⟩ | ⟨rfl, h⟩ | ⟨rfl, h⟩ | (⟨rfl, h⟩ | ⟨rfl, h⟩) | ⟨rfl, h⟩ | ⟨rfl, h | ⟨h, h'⟩⟩)
    · exact .psiMemory h
    · exact .psiCpu h
    · exact .psiIo h
    · exact .zramStatistics h
    · exact .zram h
    · exact .zswap h
    · exact .zswapFailed h
    · exact .zswapStatistics h h'

/-- What a sample says of its source. -/
structure SystemSample.Honest (source : TelemetrySource) (s : SystemSample) : Prop where
  /-- The names are in order, without duplicates. -/
  sorted : s.capabilitiesUnavailable.Pairwise (· < ·)
  /-- They are the names of what is missing. -/
  named : ∀ name, name ∈ s.capabilitiesUnavailable ↔ Missing source s name
  psiMemory : ∀ value, s.psiMemory = some value ↔
    Understood source "/proc/pressure/memory" (Psi.parse "psi_memory") value
  psiCpu : ∀ value, s.psiCpu = some value ↔
    Understood source "/proc/pressure/cpu" (Psi.parse "psi_cpu") value
  psiIo : ∀ value, s.psiIo = some value ↔
    Understood source "/proc/pressure/io" (Psi.parse "psi_io") value

theorem sampleSystem_honest {timestampNs : Int64} {s : SystemSample}
    (h : sampleSystem source timestampNs = .ok s) : s.Honest source := by
  obtain ⟨meminfo, vmstat, swap, -, -, -, rfl⟩ := sampleSystem_eq_ok.1 h
  obtain ⟨hmemoryName, hmemory⟩ :=
    collectPsi_spec "/proc/pressure/memory" "psi_memory"
  obtain ⟨hcpuName, hcpu⟩ := collectPsi_spec "/proc/pressure/cpu" "psi_cpu"
  obtain ⟨hioName, hio⟩ := collectPsi_spec "/proc/pressure/io" "psi_io"
  refine ⟨sortDedup_pairwise _, fun name => ?_, hmemory, hcpu, hio⟩
  simp only [mem_sortDedup, List.mem_append, hmemoryName, hcpuName, hioName, mem_sampleZram,
    mem_sampleZswap, missing_iff, or_assoc]

/-- **There is a sample exactly when meminfo, vmstat and the swaps are understood, and what it
    lacks besides is exactly what it names.** -/
theorem sampleSystem_spec (source : TelemetrySource) (timestampNs : Int64) :
    ((∃ s, sampleSystem source timestampNs = .ok s) ↔
      (∃ meminfo, Understood source "/proc/meminfo" MemInfo.parse meminfo) ∧
      (∃ vmstat, Understood source "/proc/vmstat" VmStat.parse vmstat) ∧
      ∃ swap, Understood source "/proc/swaps" Swaps.parse swap) ∧
    ∀ s, sampleSystem source timestampNs = .ok s → s.Honest source := by
  refine ⟨?_, fun s h => sampleSystem_honest h⟩
  simp only [sampleSystem_eq_ok]
  constructor
  · rintro ⟨s, meminfo, vmstat, swap, hmem, hvm, hswap, -⟩
    exact ⟨⟨meminfo, hmem⟩, ⟨vmstat, hvm⟩, swap, hswap⟩
  · rintro ⟨⟨meminfo, hmem⟩, ⟨vmstat, hvm⟩, swap, hswap⟩
    exact ⟨_, meminfo, vmstat, swap, hmem, hvm, hswap, rfl⟩

end Nemor.Collector
