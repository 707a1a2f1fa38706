import Nemor.Policy.Input
import Nemor.Tiering.BootV6.Manifest
import Nemor.Tiering.Topology
import Nemor.Tiering.WriteBudget

/-!
# Tiering: which backend is recommended

`recommendBackend` selects the storage-backed backend behind a row of gates, the last two of
which look at evidence: two sealed records of one host that match each other, and a pair of
benchmarks that compare well.

The input says in which environment and from which source state the question is asked, and each
benchmark says which backend it measured. No gate reads any of these.
-/

namespace Nemor.Tiering

open MachineNumbers

open Policy (PressureState)
open BootV6 (StorageProfile SameHostZramBaselineEvidence SameHostProfileEvidence isSha256)

/-! ## §1 Evidence -/

/-- The backends of swap. -/
inductive BackendKind where
  | zram
  | zswapStorageBacked
  | zswapNvme
  | external
  | mixed
  deriving DecidableEq

/-- What a benchmark of one backend has measured. -/
structure BenchmarkEvidence where
  backend : BackendKind
  real : Bool
  compressionRatio : Option F64
  swapLatencyNs : Option UInt64
  backingWriteBytes : Option UInt64
  oom : Bool

/-- What a recommendation is made from. -/
structure RecommendationInput where
  current : BackendKind
  gaming : Bool
  pressure : PressureState
  storage : StorageTopology
  zramBenchmark : Option BenchmarkEvidence
  zswapBenchmark : Option BenchmarkEvidence
  sameHostZramBaseline : Option SameHostZramBaselineEvidence
  sameHostProfileEvidence : Option SameHostProfileEvidence
  budget : BudgetDecision
  safetyEvents : ℕ
  sourceState : String
  environmentIdentity : String

/-- The recommendation with its reasons. -/
structure BackendRecommendation where
  selected : BackendKind
  alternative : BackendKind
  confidence : String
  reasons : List String
  evidence : List String
  blocked : Bool
  requiresReboot : Bool
  ruleVersion : String
  productionActivation : Bool

/-- The derived debug text of a profile. -/
def debugProfile : StorageProfile → String
  | .nvmeSsd => "NvmeSsd"
  | .sataSsd => "SataSsd"
  | .sasSsd => "SasSsd"
  | .usbSsd => "UsbSsd"
  | .otherNonRotational => "OtherNonRotational"
  | .rotational => "Rotational"
  | .composite => "Composite"
  | .virtual => "Virtual"
  | .ambiguous => "Ambiguous"

/-! ## §2 The gates -/

/-- The two records are of one validation, real and clean. They are compared with each other only. -/
def matchingSameHostEvidence (b : SameHostZramBaselineEvidence) (p : SameHostProfileEvidence)
    (profile : StorageProfile) : Bool :=
  b.schema == BootV6.zramBaselineEvidence
    && p.schema == BootV6.profileBenchmarkEvidence
    && p.profile == profile
    && b.validationId == p.validationId
    && b.sourceCommit == p.sourceCommit
    && b.sourceStateSha256 == p.sourceStateSha256
    && b.environmentSha256 == p.environmentSha256
    && b.topologySha256 == p.topologySha256
    && b.workloadSha256 == p.workloadSha256
    && b.real
    && p.real
    && !b.oom
    && !p.oom
    && !b.safetyFailure
    && !p.safetyFailure
    && b.cleanupPassed
    && p.cleanupPassed
    && b.finalRestorePassed
    && p.finalRestorePassed
    && p.writeBudgetPassed
    && p.backingWriteBytes.isSome
    && p.latencyNs.isSome
    && isSha256 b.archiveSha256
    && isSha256 p.archiveSha256
    && isSha256 b.rawEvidenceSha256
    && isSha256 p.rawEvidenceSha256
    && b.workloadProtocol == BootV6.workloadProtocol
    && p.workloadProtocol == BootV6.workloadProtocol
    && p.backingWriteConfidence == "bounded-physical-device-attributed"

/-- How much slower the profile may be. -/
def maxLatencyRegressionPercent : UInt64 := 10

/-- The profile is better, and not worse in what matters. -/
def comparisonPolicyPasses (input : RecommendationInput) : Bool :=
  match input.zramBenchmark, input.zswapBenchmark with
  | some zram, some profile =>
    if !zram.real || !profile.real || zram.oom || profile.oom then
      false
    else
      match zram.swapLatencyNs, profile.swapLatencyNs with
      | some baseLatency, some profileLatency =>
        let latencyOk :=
          profileLatency ≤ U64.saturatingMul baseLatency (100 + maxLatencyRegressionPercent) / 100
        let benefit :=
          match zram.compressionRatio, profile.compressionRatio with
          | some base, some candidate => base.lt candidate
          | _, _ => false
        latencyOk && benefit && profile.backingWriteBytes.isSome
      | _, _ => false
  | _, _ => false

/-- The host is in need of memory now. -/
def RecommendationInput.severe (input : RecommendationInput) : Bool :=
  input.pressure == .critical || input.pressure == .emergency

/-- There are matching records for the profile of the storage. -/
def RecommendationInput.baselineReady (input : RecommendationInput) : Bool :=
  input.sameHostZramBaseline.any fun baseline =>
    input.sameHostProfileEvidence.any fun profileEvidence =>
      input.storage.profile.any fun profile =>
        matchingSameHostEvidence baseline profileEvidence profile

/-- The selected backend, its reasons and the evidence named for it. -/
def decideBackend (input : RecommendationInput) : BackendKind × List String × List String :=
  let profile := input.storage.profile
  if input.gaming then
    (.zram, ["gaming_preserves_low_write_current_zram"], [])
  else if input.severe then
    (.zram, ["severe_pressure_blocks_structural_switch"], [])
  else if 0 < input.safetyEvents then
    (.zram, ["recent_safety_event"], [])
  else if !input.budget.allowed then
    (.zram, ["write_budget_exceeded"], [])
  else if !profile.any StorageProfile.bootSupported then
    (.zram, ["storage_profile_unsupported"], [])
  else if !input.baselineReady then
    (.zram,
      ["same_host_zram_baseline_missing",
        match profile with
        | some .sataSsd => "sata_boot_validation_missing"
        | some .nvmeSsd => "nvme_boot_validation_missing"
        | _ => "profile_boot_validation_missing"], [])
  else if !comparisonPolicyPasses input then
    (.zram, ["storage_profile_comparison_missing_or_not_beneficial"], [])
  else
    (.zswapStorageBacked, ["matching_same_host_profile_evidence"],
      (profile.map fun profile => "profile=" ++ debugProfile profile).toList)

/-- `recommend_backend`. -/
def recommendBackend (input : RecommendationInput) : BackendRecommendation :=
  let (selected, reasons, evidence) := decideBackend input
  { selected := selected
    alternative := if selected == .zram then .zswapStorageBacked else .zram
    confidence :=
      if selected == .zswapStorageBacked then "measured"
      else if input.current == .zram then "conservative" else "low"
    reasons := reasons
    evidence :=
      evidence ++ if input.zramBenchmark.any (·.real) then ["zram_real_baseline"] else []
    blocked := selected == .zram && input.current != .zram
    requiresReboot := selected != input.current
    ruleVersion := BootV6.ruleVersion
    productionActivation := false }

/-! ## §3 What the gates establish -/

/-- No gate refuses. -/
structure RecommendationInput.GatesOpen (input : RecommendationInput) : Prop where
  notGaming : input.gaming = false
  notSevere : input.severe = false
  noSafetyEvent : input.safetyEvents = 0
  budgetAllowed : input.budget.allowed = true
  supported : input.storage.profile.any StorageProfile.bootSupported = true
  baselineReady : input.baselineReady = true
  comparison : comparisonPolicyPasses input = true

theorem selected_iff (input : RecommendationInput) :
    (recommendBackend input).selected = .zswapStorageBacked ↔ input.GatesOpen := by
  constructor
  · intro h
    simp only [recommendBackend, decideBackend] at h
    split_ifs at h with hgaming hsevere hevents hbudget hsupported hready hcomparison
    simp only [Bool.not_eq_true, Bool.not_eq_true', Bool.not_eq_false] at *
    exact ⟨hgaming, hsevere, by omega, hbudget, hsupported, hready, hcomparison⟩
  · intro h
    simp [recommendBackend, decideBackend, h.notGaming, h.notSevere, h.noSafetyEvent,
      h.budgetAllowed, h.supported, h.baselineReady, h.comparison]

/-- Two sealed records of one validation, for the profile of the storage. -/
structure SameHostRecords (baseline : SameHostZramBaselineEvidence)
    (evidence : SameHostProfileEvidence) (profile : StorageProfile) : Prop where
  profile_eq : evidence.profile = profile
  validation : baseline.validationId = evidence.validationId
  sourceState : baseline.sourceStateSha256 = evidence.sourceStateSha256
  environment : baseline.environmentSha256 = evidence.environmentSha256
  topology : baseline.topologySha256 = evidence.topologySha256
  real : baseline.real = true ∧ evidence.real = true
  survived : baseline.oom = false ∧ evidence.oom = false
  safe : baseline.safetyFailure = false ∧ evidence.safetyFailure = false
  cleaned : baseline.cleanupPassed = true ∧ evidence.cleanupPassed = true
  restored : baseline.finalRestorePassed = true ∧ evidence.finalRestorePassed = true
  budget : evidence.writeBudgetPassed = true
  measured : evidence.backingWriteBytes.isSome = true ∧ evidence.latencyNs.isSome = true

theorem sameHostRecords_of_matching {baseline : SameHostZramBaselineEvidence}
    {evidence : SameHostProfileEvidence} {profile : StorageProfile}
    (h : matchingSameHostEvidence baseline evidence profile = true) :
    SameHostRecords baseline evidence profile := by
  simp only [matchingSameHostEvidence, Bool.and_eq_true, beq_iff_eq, Bool.not_eq_true'] at h
  constructor <;> simp only [h, and_self]

/-- Two real benchmarks without an out-of-memory kill, the second with measured writes, a
    latency at most ten per cent higher and a strictly better compression. -/
structure Beneficial (zram zswap : BenchmarkEvidence) : Prop where
  real : zram.real = true ∧ zswap.real = true
  survived : zram.oom = false ∧ zswap.oom = false
  latency : ∃ base candidate, zram.swapLatencyNs = some base ∧
    zswap.swapLatencyNs = some candidate ∧ 100 * candidate.toNat ≤ 110 * base.toNat
  compression : ∃ base candidate, zram.compressionRatio = some base ∧
    zswap.compressionRatio = some candidate ∧ base.lt candidate = true
  writes : zswap.backingWriteBytes.isSome = true

theorem latency_of_le {base candidate : UInt64}
    (h : candidate ≤ U64.saturatingMul base (100 + maxLatencyRegressionPercent) / 100) :
    100 * candidate.toNat ≤ 110 * base.toNat := by
  have hpercent : (100 + maxLatencyRegressionPercent).toNat = 110 := rfl
  have hhundred : (100 : UInt64).toNat = 100 := rfl
  rw [UInt64.le_iff_toNat_le, UInt64.toNat_div, U64.toNat_saturatingMul, hpercent, hhundred] at h
  omega

theorem beneficial_of_passes {input : RecommendationInput}
    (h : comparisonPolicyPasses input = true) :
    ∃ zram zswap, input.zramBenchmark = some zram ∧ input.zswapBenchmark = some zswap ∧
      Beneficial zram zswap := by
  unfold comparisonPolicyPasses at h
  split at h
  · next zram zswap hzram hzswap =>
    split_ifs at h with hrefused
    split at h
    · next base candidate hbase hcandidate =>
      simp only [Bool.or_eq_true, Bool.not_eq_true', not_or, Bool.not_eq_false,
        Bool.not_eq_true, Bool.and_eq_true, decide_eq_true_eq] at hrefused h
      obtain ⟨⟨⟨hreal, hreal'⟩, hoom⟩, hoom'⟩ := hrefused
      obtain ⟨⟨hlatency, hbenefit⟩, hwrites⟩ := h
      refine ⟨zram, zswap, hzram, hzswap, ⟨hreal, hreal'⟩, ⟨hoom, hoom'⟩,
        ⟨base, candidate, hbase, hcandidate, latency_of_le hlatency⟩, ?_, hwrites⟩
      split at hbenefit
      · next base candidate hbase hcandidate =>
        exact ⟨base, candidate, hbase, hcandidate, hbenefit⟩
      · contradiction
    · contradiction
  · contradiction

theorem records_of_ready {input : RecommendationInput} (h : input.baselineReady = true) :
    ∃ baseline evidence profile, input.sameHostZramBaseline = some baseline ∧
      input.sameHostProfileEvidence = some evidence ∧ input.storage.profile = some profile ∧
      SameHostRecords baseline evidence profile := by
  simp only [RecommendationInput.baselineReady, Option.any_eq_true] at h
  obtain ⟨baseline, hbaseline, evidence, hevidence, profile, hprofile, hmatching⟩ := h
  exact ⟨baseline, evidence, profile, hbaseline, hevidence, hprofile,
    sameHostRecords_of_matching hmatching⟩

/-! ## §4 Evidence of this host -/

section Binding

-- the digest under which the records name a storage device
variable (topologySha256 : StorageTopology → String)

/-- The records were made in the environment, from the source state and on the device of the
    input. -/
structure FromHere (input : RecommendationInput) (baseline : SameHostZramBaselineEvidence)
    (evidence : SameHostProfileEvidence) : Prop where
  environment : baseline.environmentSha256 = input.environmentIdentity ∧
    evidence.environmentSha256 = input.environmentIdentity
  sourceState : baseline.sourceStateSha256 = input.sourceState ∧
    evidence.sourceStateSha256 = input.sourceState
  device : baseline.topologySha256 = topologySha256 input.storage ∧
    evidence.topologySha256 = topologySha256 input.storage

/-- Everything that is documented about the evidence for a storage-backed backend. -/
structure Bound (input : RecommendationInput) (zram zswap : BenchmarkEvidence)
    (baseline : SameHostZramBaselineEvidence) (evidence : SameHostProfileEvidence)
    (profile : StorageProfile) : Prop where
  calm : input.gaming = false ∧ input.severe = false ∧ input.safetyEvents = 0
  budget : input.budget.allowed = true
  supported : profile.bootSupported = true
  records : SameHostRecords baseline evidence profile
  fromHere : FromHere topologySha256 input baseline evidence
  kinds : zram.backend = .zram ∧ zswap.backend = .zswapStorageBacked
  beneficial : Beneficial zram zswap

/-- The evidence is all there, and is of this input. -/
def RecommendationInput.EvidenceBound (input : RecommendationInput) : Prop :=
  ∃ zram zswap baseline evidence profile,
    (input.zramBenchmark = some zram ∧ input.zswapBenchmark = some zswap) ∧
    (input.sameHostZramBaseline = some baseline ∧
      input.sameHostProfileEvidence = some evidence) ∧
    input.storage.profile = some profile ∧
    Bound topologySha256 input zram zswap baseline evidence profile

/-- The sealed baseline, if there is one, names what the input names. -/
def RecommendationInput.BaselineFromHere (input : RecommendationInput) : Prop :=
  ∀ baseline ∈ input.sameHostZramBaseline,
    baseline.environmentSha256 = input.environmentIdentity ∧
    baseline.sourceStateSha256 = input.sourceState ∧
    baseline.topologySha256 = topologySha256 input.storage

/-- The benchmarks measured the two backends they are handed in as. -/
def RecommendationInput.KindsAsNamed (input : RecommendationInput) : Prop :=
  (∀ zram ∈ input.zramBenchmark, zram.backend = .zram) ∧
  ∀ zswap ∈ input.zswapBenchmark, zswap.backend = .zswapStorageBacked

variable {topologySha256} {input : RecommendationInput}

theorem evidenceBound_of_open (hopen : input.GatesOpen)
    (hhere : input.BaselineFromHere topologySha256) (hkinds : input.KindsAsNamed) :
    input.EvidenceBound topologySha256 := by
  obtain ⟨baseline, evidence, profile, hbaseline, hevidence, hprofile, hrecords⟩ :=
    records_of_ready hopen.baselineReady
  obtain ⟨zram, zswap, hzram, hzswap, hbeneficial⟩ := beneficial_of_passes hopen.comparison
  obtain ⟨henvironment, hsource, hdevice⟩ := hhere baseline hbaseline
  have hsupported : profile.bootSupported = true := by
    have h := hopen.supported
    rwa [hprofile, Option.any_some] at h
  -- the profile record repeats what the baseline names
  have hfrom : FromHere topologySha256 input baseline evidence :=
    { environment := ⟨henvironment, hrecords.environment ▸ henvironment⟩
      sourceState := ⟨hsource, hrecords.sourceState ▸ hsource⟩
      device := ⟨hdevice, hrecords.topology ▸ hdevice⟩ }
  exact ⟨zram, zswap, baseline, evidence, profile, ⟨hzram, hzswap⟩, ⟨hbaseline, hevidence⟩,
    hprofile,
    { calm := ⟨hopen.notGaming, hopen.notSevere, hopen.noSafetyEvent⟩
      budget := hopen.budgetAllowed
      supported := hsupported
      records := hrecords
      fromHere := hfrom
      kinds := ⟨hkinds.1 zram hzram, hkinds.2 zswap hzswap⟩
      beneficial := hbeneficial }⟩

theorem named_of_evidenceBound (h : input.EvidenceBound topologySha256) :
    input.BaselineFromHere topologySha256 ∧ input.KindsAsNamed := by
  obtain ⟨zram, zswap, baseline, evidence, profile, ⟨hzram, hzswap⟩, ⟨hbaseline, -⟩, -, hbound⟩ :=
    h
  have hhere := hbound.fromHere
  simp only [RecommendationInput.BaselineFromHere, RecommendationInput.KindsAsNamed, hzram,
    hzswap, hbaseline, Option.mem_some_iff]
  constructor
  · rintro _ rfl
    exact ⟨hhere.environment.1, hhere.sourceState.1, hhere.device.1⟩
  constructor
  · rintro _ rfl
    exact hbound.kinds.1
  · rintro _ rfl
    exact hbound.kinds.2

/-- A storage-backed recommendation rests on evidence of this host exactly when the sealed
    baseline names the host and the benchmarks measured what they are handed in as: the gates
    look at neither. -/
theorem recommendBackend_bound_iff (topologySha256 : StorageTopology → String)
    (input : RecommendationInput) :
    ((recommendBackend input).selected = .zswapStorageBacked →
        input.EvidenceBound topologySha256) ↔
      (input.GatesOpen → input.BaselineFromHere topologySha256 ∧ input.KindsAsNamed) := by
  rw [selected_iff]
  constructor
  · intro hbound hopen
    exact named_of_evidenceBound (hbound hopen)
  · intro hnamed hopen
    exact evidenceBound_of_open hopen (hnamed hopen).1 (hnamed hopen).2

end Binding

/-! ## §5 Foreign evidence -/

/-- A digest of one digit. -/
def sampleDigest (digit : Char) : String := String.ofList (List.replicate 64 digit)

/-- Sealed measurements of zram. -/
def sampleBaseline : SameHostZramBaselineEvidence where
  schema := BootV6.zramBaselineEvidence
  validationId := "same-host-validation"
  sourceCommit := "commit"
  sourceStateSha256 := sampleDigest '1'
  environmentSha256 := sampleDigest '2'
  topologySha256 := sampleDigest '3'
  workloadSha256 := sampleDigest '4'
  real := true
  oom := false
  safetyFailure := false
  cleanupPassed := true
  finalRestorePassed := true
  archiveSha256 := sampleDigest '5'
  rawEvidenceSha256 := sampleDigest '7'
  workloadProtocol := BootV6.workloadProtocol

/-- Sealed measurements of the profile. -/
def sampleEvidence : SameHostProfileEvidence where
  schema := BootV6.profileBenchmarkEvidence
  validationId := "same-host-validation"
  profile := .sataSsd
  sourceCommit := "commit"
  sourceStateSha256 := sampleDigest '1'
  environmentSha256 := sampleDigest '2'
  topologySha256 := sampleDigest '3'
  workloadSha256 := sampleDigest '4'
  real := true
  oom := false
  safetyFailure := false
  cleanupPassed := true
  finalRestorePassed := true
  writeBudgetPassed := true
  backingWriteBytes := some 4
  latencyNs := some 3
  archiveSha256 := sampleDigest '6'
  rawEvidenceSha256 := sampleDigest '8'
  workloadProtocol := BootV6.workloadProtocol
  backingWriteConfidence := "bounded-physical-device-attributed"

/-- A SATA disk. -/
def sampleStorage : StorageTopology where
  mountSource := "/dev/sda1"
  filesystem := "ext4"
  chain := ["sda1", "sda"]
  physical := none
  ambiguous := false
  profileVersion := BootV6.storageProfileVersion
  profile := some .sataSsd
  deviceIdentity := none
  filesystemIdentity := none

/-- A benchmark with a compression ratio. -/
def sampleBenchmark (backend : BackendKind) (ratio : ℚ) : BenchmarkEvidence where
  backend := backend
  real := true
  compressionRatio := some (.finite ratio)
  swapLatencyNs := some 3
  backingWriteBytes := some 4
  oom := false

/-- A question asked in some environment, with a second benchmark of some backend. -/
def sampleQuestion (environment : String) (backend : BackendKind) : RecommendationInput where
  current := .zram
  gaming := false
  pressure := .normal
  storage := sampleStorage
  zramBenchmark := some (sampleBenchmark .zram 2)
  zswapBenchmark := some (sampleBenchmark backend 3)
  sameHostZramBaseline := some sampleBaseline
  sameHostProfileEvidence := some sampleEvidence
  budget := (⟨1, 1⟩ : WriteBudget).evaluate [] 0
  safetyEvents := 0
  sourceState := sampleDigest '1'
  environmentIdentity := environment

/-- Evidence of another environment, and a historical benchmark in a matching environment, are
    each enough for a storage-backed recommendation. -/
theorem recommendBackend_foreign :
    (¬ ((recommendBackend (sampleQuestion "another host" .zswapStorageBacked)).selected =
          .zswapStorageBacked →
        (sampleQuestion "another host" .zswapStorageBacked).EvidenceBound
          fun _ => sampleDigest '3')) ∧
    ¬ ((recommendBackend (sampleQuestion (sampleDigest '2') .zswapNvme)).selected =
          .zswapStorageBacked →
        (sampleQuestion (sampleDigest '2') .zswapNvme).EvidenceBound
          fun _ => sampleDigest '3') := by
  constructor
  · intro hbound
    have hselected : (recommendBackend (sampleQuestion "another host"
        .zswapStorageBacked)).selected = .zswapStorageBacked := by decide +kernel
    have hhere := (named_of_evidenceBound (hbound hselected)).1 sampleBaseline rfl
    have hdiffer : sampleDigest '2' ≠ "another host" := by decide +kernel
    exact hdiffer hhere.1
  · intro hbound
    have hselected : (recommendBackend (sampleQuestion (sampleDigest '2')
        .zswapNvme)).selected = .zswapStorageBacked := by decide +kernel
    have hkinds := (named_of_evidenceBound (hbound hselected)).2.2 _ rfl
    exact absurd hkinds (by decide)

end Nemor.Tiering
