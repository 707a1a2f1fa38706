import Nemor.Damon.Trace
import Nemor.Damos.Plan

/-!
# DAMOS: candidates of a shadow run

In a shadow run the kernel writes an event for every region the scheme would act on. The events
are parsed from the trace one by one, and the regions are accepted as candidates only together:
each must lie in the COLD zone and share nothing with the other two, wherever the zones are.
-/

namespace Nemor.Damos

open Fallible MachineNumbers U64 Text

open Damon (AddressRange)

/-! ## §1 Events -/

/-- A region that a scheme is about to act on. -/
structure DamosBeforeApplyEvent where
  /-- In 128 bits; nothing is computed with it. -/
  timestampNs : ℕ
  contextIdx : UInt32
  schemeIdx : UInt32
  targetIdx : UInt32
  nrRegions : UInt32
  range : AddressRange
  size : UInt64
  nrAccesses : UInt64
  age : UInt64
  deriving DecidableEq

/-- The number behind a name that the token has to start with. -/
def parseNamed (token : Option (List Char)) (name : String) : Except DamosError UInt64 :=
  okOr ((token.bind (stripPrefix (name ++ "=").toList)).bind parseU64)
    (.invalid ("invalid " ++ name))

/-- Two decimal addresses with a hyphen between them and a colon behind. -/
def parseRange (token : List Char) : Option AddressRange := do
  let token ← stripSuffix [':'] token
  let (start, end_) ← splitOnce '-' token
  let start ← parseU64 start
  let end_ ← parseU64 end_
  return { start, end_ }

/-- A number that has to be there. -/
def parseCounter (token : Option (List Char)) (name : String) : Except DamosError UInt64 :=
  okOr (token.bind parseU64) (.invalid ("invalid candidate " ++ name))

/-- `parse_damos_before_apply`. -/
def parseDamosBeforeApply (line : List Char) (timestampNs : ℕ) :
    Except DamosError DamosBeforeApplyEvent := do
  let payload ← okOr (splitOnceAt "damos_before_apply:".toList line)
    (.invalid "missing damos_before_apply marker")
  -- the tokens are taken one after the other
  let tokens := splitWhitespace (trim payload.2)
  let contextIdx ← parseNamed tokens[0]? "ctx_idx"
  let schemeIdx ← parseNamed tokens[1]? "scheme_idx"
  let targetIdx ← parseNamed tokens[2]? "target_idx"
  let nrRegions ← parseNamed tokens[3]? "nr_regions"
  let range ← okOr (tokens[4]?.bind parseRange) (.invalid "invalid candidate range")
  refuse (range.start ≥ range.end_) (.invalid "empty candidate range")
  let nrAccesses ← parseCounter tokens[5]? "nr_accesses"
  let age ← parseCounter tokens[6]? "age"
  let contextIdx ← okOr (tryU32 contextIdx) (.invalid "context index overflow")
  let schemeIdx ← okOr (tryU32 schemeIdx) (.invalid "scheme index overflow")
  let targetIdx ← okOr (tryU32 targetIdx) (.invalid "target index overflow")
  let nrRegions ← okOr (tryU32 nrRegions) (.invalid "region count overflow")
  return {
    timestampNs, contextIdx, schemeIdx, targetIdx, nrRegions, range
    size := range.end_ - range.start
    nrAccesses, age }

/-- Whatever the line, the region of an event has a byte, and its size is the number of them. -/
theorem range_of_parse {line : List Char} {timestampNs : ℕ} {event : DamosBeforeApplyEvent}
    (h : parseDamosBeforeApply line timestampNs = .ok event) :
    event.range.start < event.range.end_ ∧ event.size = event.range.end_ - event.range.start := by
  simp only [parseDamosBeforeApply, bind_eq_ok, refuse_eq_ok, pure, Except.pure,
    Except.ok.injEq] at h
  obtain ⟨_, -, _, -, _, -, _, -, _, -, range, -, _, hrange, _, -, _, -, _, -, _, -, _, -, _, -,
    rfl⟩ := h
  exact ⟨UInt64.not_le.1 hrange, rfl⟩

/-! ## §2 Candidates -/

/-- The region is of the only scheme, idle for long enough, and in the cold zone alone. -/
def validateCandidate (hot warm cold : AddressRange) (ageMin : UInt64)
    (candidate : DamosBeforeApplyEvent) : Except DamosError Unit := do
  refuse (candidate.contextIdx ≠ 0 ∨ candidate.schemeIdx ≠ 0 ∨ candidate.targetIdx ≠ 0)
    (.invalid "external DAMOS event rejected")
  refuse
    (candidate.range.start < cold.start ∨ candidate.range.end_ > cold.end_ ∨
      candidate.range.overlap hot > 0 ∨ candidate.range.overlap warm > 0 ∨
      candidate.nrAccesses ≠ 0 ∨ candidate.age < ageMin)
    (.invalid "candidate violates COLD fence or access pattern")

/-- All candidates are, and there is one. -/
def validateShadowCandidates (candidates : List DamosBeforeApplyEvent)
    (hot warm cold : AddressRange) (ageMin : UInt64) : Except DamosError Unit := do
  refuse (candidates = []) (.invalid "cumulative counters cannot replace candidate evidence")
  candidates.forM (validateCandidate hot warm cold ageMin)

theorem overlap_le_zero {a b : AddressRange} : a.overlap b ≤ 0 ↔ Disjoint a.bytes b.bytes := by
  rw [Finset.disjoint_iff_inter_eq_empty, ← Finset.card_eq_zero, ← AddressRange.toNat_overlap,
    UInt64.le_iff_toNat_le]
  simp

/-- What is asked of a candidate, in terms of the bytes of its region. -/
structure Fenced (hot warm cold : AddressRange) (ageMin : UInt64)
    (candidate : DamosBeforeApplyEvent) : Prop where
  own : candidate.contextIdx = 0 ∧ candidate.schemeIdx = 0 ∧ candidate.targetIdx = 0
  inCold : candidate.range.bytes ⊆ cold.bytes
  notHot : Disjoint candidate.range.bytes hot.bytes
  notWarm : Disjoint candidate.range.bytes warm.bytes
  unaccessed : candidate.nrAccesses = 0
  aged : ageMin ≤ candidate.age

/-- The bounds of a region with a byte are those of its bytes. -/
theorem bytes_subset_iff {a b : AddressRange} (h : a.start < a.end_) :
    a.bytes ⊆ b.bytes ↔ b.start ≤ a.start ∧ a.end_ ≤ b.end_ := by
  rw [AddressRange.bytes, AddressRange.bytes,
    Finset.Ico_subset_Ico_iff (UInt64.lt_iff_toNat_lt.1 h), UInt64.le_iff_toNat_le,
    UInt64.le_iff_toNat_le]

theorem validateCandidate_eq_ok {hot warm cold : AddressRange} {ageMin : UInt64}
    {candidate : DamosBeforeApplyEvent} (h : candidate.range.start < candidate.range.end_) :
    validateCandidate hot warm cold ageMin candidate = .ok () ↔
      Fenced hot warm cold ageMin candidate := by
  simp only [validateCandidate, refuse_bind_eq_ok, refuse_eq_ok, not_or, not_not, UInt64.not_lt,
    gt_iff_lt, ne_eq, overlap_le_zero]
  constructor
  · rintro ⟨hown, hstart, hend, hhot, hwarm, haccesses, hage⟩
    exact ⟨hown, (bytes_subset_iff h).2 ⟨hstart, hend⟩, hhot, hwarm, haccesses, hage⟩
  · intro hfenced
    obtain ⟨hstart, hend⟩ := (bytes_subset_iff h).1 hfenced.inCold
    exact ⟨hfenced.own, hstart, hend, hfenced.notHot, hfenced.notWarm, hfenced.unaccessed,
      hfenced.aged⟩

/-- **Candidates are accepted together, and exactly when each of them is fenced.** -/
theorem validateShadowCandidates_eq_ok {candidates : List DamosBeforeApplyEvent}
    {hot warm cold : AddressRange} {ageMin : UInt64}
    (h : ∀ candidate ∈ candidates, candidate.range.start < candidate.range.end_) :
    validateShadowCandidates candidates hot warm cold ageMin = .ok () ↔
      candidates ≠ [] ∧ ∀ candidate ∈ candidates, Fenced hot warm cold ageMin candidate := by
  simp only [validateShadowCandidates, refuse_bind_eq_ok, forM_eq_ok]
  apply and_congr_right
  intro _
  constructor
  · intro hall candidate hmem
    exact (validateCandidate_eq_ok (h candidate hmem)).1 (hall candidate hmem)
  · intro hall candidate hmem
    exact (validateCandidate_eq_ok (h candidate hmem)).2 (hall candidate hmem)

/-! ## §3 Soundness -/

/-- **Accepted candidates lie in the COLD zone.** The candidates may be any of the events that the
    lines of a trace hold, and the zones may be anywhere. -/
theorem bytes_of_accepted (lines : List (List Char × ℕ)) (candidates : List DamosBeforeApplyEvent)
    (hot warm cold : AddressRange) (ageMin : UInt64)
    (hparsed : ∀ candidate ∈ candidates, ∃ line ∈ lines,
      parseDamosBeforeApply line.1 line.2 = .ok candidate)
    (haccepted : validateShadowCandidates candidates hot warm cold ageMin = .ok ()) :
    ∀ candidate ∈ candidates, candidate.range.bytes.Nonempty ∧
      ∀ byte ∈ candidate.range.bytes, byte ∈ cold.bytes ∧ byte ∉ hot.bytes ∧ byte ∉ warm.bytes := by
  have hrange : ∀ candidate ∈ candidates, candidate.range.start < candidate.range.end_ := by
    intro candidate hmem
    obtain ⟨line, -, hline⟩ := hparsed candidate hmem
    exact (range_of_parse hline).1
  intro candidate hmem
  have hfenced := ((validateShadowCandidates_eq_ok hrange).1 haccepted).2 candidate hmem
  constructor
  · have hlt := UInt64.lt_iff_toNat_lt.1 (hrange candidate hmem)
    simpa [AddressRange.bytes] using hlt
  · intro byte hbyte
    exact ⟨hfenced.inCold hbyte, Finset.disjoint_left.1 hfenced.notHot hbyte,
      Finset.disjoint_left.1 hfenced.notWarm hbyte⟩

/-- A region in the cold zone. -/
def coldEvent : DamosBeforeApplyEvent where
  timestampNs := 1
  contextIdx := 0
  schemeIdx := 0
  targetIdx := 0
  nrRegions := 3
  range := ⟨4096, 8192⟩
  size := 4096
  nrAccesses := 0
  age := 4

/-- The line of the event. -/
def coldLine : List Char :=
  "damos_before_apply: ctx_idx=0 scheme_idx=0 target_idx=0 nr_regions=3 4096-8192: 0 4".toList

/-- The zones have no gap between them and the candidate fills the last one. -/
theorem bytes_of_accepted_line :
    coldEvent.range.bytes.Nonempty ∧
      ∀ byte ∈ coldEvent.range.bytes, byte ∈ AddressRange.bytes ⟨4096, 8192⟩ ∧
        byte ∉ AddressRange.bytes ⟨0, 2048⟩ ∧ byte ∉ AddressRange.bytes ⟨2048, 4096⟩ := by
  apply bytes_of_accepted [(coldLine, 1)] [coldEvent] ⟨0, 2048⟩ ⟨2048, 4096⟩ ⟨4096, 8192⟩ 3
  · intro candidate hmem
    obtain rfl := List.mem_singleton.1 hmem
    have hparse : parseDamosBeforeApply coldLine 1 = .ok coldEvent := by decide +kernel
    exact ⟨_, List.mem_singleton_self _, hparse⟩
  · decide +kernel
  · simp

end Nemor.Damos
