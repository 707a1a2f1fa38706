import Mathlib.Data.List.Chain
import Nemor.Lib.Fallible
import Nemor.Lib.MachineNumbers

/-!
# The envelope of the capacity search

The ceiling of the search is derived from the effective maximum of the host, the ladder of
levels and the memory limit of the worker from the ceiling. The ceiling and the limit keep the
same margin, but the limit keeps it after rounding up to the alignment, and the ceiling is
tried at one size only.
-/

namespace Nemor.Capacity

open Fallible MachineNumbers

/-! ## §1 Ceiling, ladder and limit -/

/-- Loads are multiples of 16 MiB. -/
def alignmentBytes : UInt64 := 16 * 1024 * 1024

/-- A mebibyte. -/
def mib : UInt64 := 1024 * 1024

/-- The largest load with room for its margin. -/
def safeSearchCeiling (effectiveMaximum : UInt64) : Except String UInt64 := do
  let candidate := U64.saturatingMul effectiveMaximum 10 / 11
  let aligned := candidate / alignmentBytes * alignmentBytes
  let margin := max (aligned / 10) (64 * 1024 * 1024)
  refuse (aligned = 0 ∨ effectiveMaximum < U64.saturatingAdd aligned margin)
    "no safe aligned capacity search ceiling"
  return aligned

/-- `(10..=100).step_by(10)`. -/
def ladderPercents : List UInt64 := [10, 20, 30, 40, 50, 60, 70, 80, 90, 100]

/-- One level of the ladder. -/
def rung (ceiling percent : UInt64) : UInt64 :=
  U64.saturatingMul ceiling percent / 100 / alignmentBytes * alignmentBytes

/-- Add a rung, which has to be higher than the last. -/
def pushRung (ceiling : UInt64) (levels : List UInt64) (percent : UInt64) :
    Except String (List UInt64) := do
  let aligned := rung ceiling percent
  refuse (aligned = 0 ∨ (levels.getLast?.any fun prior => decide (aligned ≤ prior)) = true)
    "capacity ladder is not unique, nonzero, and increasing"
  return levels ++ [aligned]

/-- The rungs of a ladder, up to the ceiling. -/
def capacityLadder (ceiling : UInt64) : Except String (List UInt64) := do
  let levels ← ladderPercents.foldlM (pushRung ceiling) []
  refuse (levels.getLast? ≠ some ceiling) "capacity ladder does not end at safe ceiling"
  return levels

/-- A limit with the figures it follows from. -/
structure MemoryMaxDerivation where
  highestTargetBytes : UInt64
  workerMarginBytes : UInt64
  alignmentBytes : UInt64
  sharedMemoryMaxBytes : UInt64
  deriving DecidableEq

/-- The limit for a load: the load, its margin, and what aligns it. -/
def deriveMemoryMax (highestTargetBytes effectiveMaximumBytes alignmentBytes : UInt64) :
    Except String MemoryMaxDerivation := do
  refuse (alignmentBytes = 0 ∨ highestTargetBytes = 0)
    "MemoryMax derivation requires nonzero target and alignment"
  let margin := max (highestTargetBytes / 10) (64 * mib)
  let unaligned ← okOr (U64.add highestTargetBytes margin) "MemoryMax derivation overflow"
  let padded ← okOr (U64.add unaligned (alignmentBytes - 1)) "MemoryMax alignment overflow"
  let rounded := padded / alignmentBytes * alignmentBytes
  refuse (effectiveMaximumBytes < rounded ∨ rounded ≤ highestTargetBytes)
    "shared MemoryMax is outside the safe effective envelope"
  return {
    highestTargetBytes := highestTargetBytes
    workerMarginBytes := rounded - highestTargetBytes
    alignmentBytes := alignmentBytes
    sharedMemoryMaxBytes := rounded }

/-! ## §2 The same in numbers -/

/-- The alignment in bytes. -/
def block : ℕ := 16 * 1024 * 1024

/-- What is kept free above a target: a tenth of it, and at least 64 MiB. -/
def marginOf (target : ℕ) : ℕ := max (target / 10) (64 * 1024 * 1024)

/-- The only size that is tried: ten elevenths of the maximum, rounded down. -/
def candidateOf (effectiveMaximum : ℕ) : ℕ :=
  min (effectiveMaximum * 10) (2 ^ 64 - 1) / 11 / block * block

@[simp] theorem toNat_alignmentBytes : alignmentBytes.toNat = block := rfl

theorem toNat_margin (target : UInt64) :
    (max (target / 10) (64 * 1024 * 1024)).toNat = marginOf target.toNat := by
  rw [U64.toNat_max, UInt64.toNat_div]
  rfl

theorem toNat_candidate (effectiveMaximum : UInt64) :
    (U64.saturatingMul effectiveMaximum 10 / 11 / alignmentBytes * alignmentBytes).toNat =
      candidateOf effectiveMaximum.toNat := by
  rw [U64.toNat_div_mul, UInt64.toNat_div, U64.toNat_saturatingMul]
  rfl

theorem candidateOf_le (m : ℕ) : candidateOf m ≤ 2 ^ 64 / 11 := by
  unfold candidateOf block
  omega

/-- A candidate and its margin stay far below the largest 64-bit number. -/
theorem add_marginOf_lt {target : ℕ} (h : target ≤ 2 ^ 64 / 11) :
    target + marginOf target + block < 2 ^ 64 := by
  unfold marginOf block
  omega

theorem toNat_saturatingAdd_margin {target : UInt64} (h : target.toNat ≤ 2 ^ 64 / 11) :
    (U64.saturatingAdd target (max (target / 10) (64 * 1024 * 1024))).toNat =
      target.toNat + marginOf target.toNat := by
  have hlt := add_marginOf_lt h
  rw [U64.toNat_saturatingAdd, toNat_margin]
  omega

/-- The ceiling is the candidate, if that is not zero and fits with its margin. -/
theorem safeSearchCeiling_eq_ok {m c : UInt64} :
    safeSearchCeiling m = .ok c ↔ c.toNat = candidateOf m.toNat ∧ 0 < c.toNat ∧
      c.toNat + marginOf c.toNat ≤ m.toNat := by
  have hcandidate := toNat_candidate m
  have hle := candidateOf_le m.toNat
  simp only [safeSearchCeiling, refuse_bind_eq_ok]
  generalize U64.saturatingMul m 10 / 11 / alignmentBytes * alignmentBytes = aligned at hcandidate
  have hfits : ¬ (aligned = 0 ∨ m < U64.saturatingAdd aligned
      (max (aligned / 10) (64 * 1024 * 1024))) ↔
      0 < aligned.toNat ∧ aligned.toNat + marginOf aligned.toNat ≤ m.toNat := by
    rw [not_or, UInt64.lt_iff_toNat_lt, toNat_saturatingAdd_margin (hcandidate ▸ hle), Nat.not_lt,
      ← UInt64.toNat_inj, UInt64.toNat_zero, Nat.pos_iff_ne_zero]
  rw [hfits]
  constructor
  · rintro ⟨hfits, ⟨⟩⟩
    exact ⟨hcandidate, hfits⟩
  · rintro ⟨hc, hroom⟩
    obtain rfl : c = aligned := UInt64.toNat_inj.1 (hc.trans hcandidate.symm)
    exact ⟨hroom, rfl⟩

/-! ## §3 The ladder -/

theorem toNat_rung (ceiling percent : UInt64) :
    (rung ceiling percent).toNat =
      min (ceiling.toNat * percent.toNat) (2 ^ 64 - 1) / 100 / block * block := by
  have hhundred : (100 : UInt64).toNat = 100 := rfl
  rw [rung, U64.toNat_div_mul, UInt64.toNat_div, U64.toNat_saturatingMul, hhundred,
    toNat_alignmentBytes]

/-- A level exceeds the one that was pushed last, if there is one. -/
theorem above_last_iff {levels : List UInt64} {aligned : UInt64} :
    ¬ (levels.getLast?.any fun prior => decide (aligned ≤ prior)) = true ↔
      ∀ prior ∈ levels.getLast?, prior < aligned := by
  cases levels.getLast? <;> simp

theorem pushRung_eq_ok {ceiling percent : UInt64} {levels out : List UInt64} :
    pushRung ceiling levels percent = .ok out ↔ rung ceiling percent ≠ 0 ∧
      (∀ prior ∈ levels.getLast?, prior < rung ceiling percent) ∧
      out = levels ++ [rung ceiling percent] := by
  rw [pushRung, refuse_bind_eq_ok, not_or, above_last_iff, and_assoc]
  refine and_congr Iff.rfl (and_congr Iff.rfl ?_)
  exact ⟨fun h => (Except.ok.inj h).symm, fun h => congrArg Except.ok h.symm⟩

/-- The rungs are pushed one by one when none of them is zero and each exceeds the one before. -/
theorem foldlM_pushRung {ceiling : UInt64} {percents levels out : List UInt64} :
    percents.foldlM (pushRung ceiling) levels = .ok out ↔
      (∀ percent ∈ percents, rung ceiling percent ≠ 0) ∧
      (levels.getLast?.toList ++ percents.map (rung ceiling)).IsChain (· < ·) ∧
      out = levels ++ percents.map (rung ceiling) := by
  induction percents generalizing levels with
  | nil =>
    simp only [List.foldlM_nil, pure, Except.pure, Except.ok.injEq, List.map_nil, List.append_nil]
    cases levels.getLast? <;> simp [eq_comm]
  | cons percent percents ih =>
    have hfirst : (∃ next, pushRung ceiling levels percent = .ok next ∧
        percents.foldlM (pushRung ceiling) next = .ok out) ↔
        rung ceiling percent ≠ 0 ∧ (∀ prior ∈ levels.getLast?, prior < rung ceiling percent) ∧
          percents.foldlM (pushRung ceiling) (levels ++ [rung ceiling percent]) = .ok out := by
      simp only [pushRung_eq_ok]
      constructor
      · rintro ⟨_, ⟨hnonzero, hprior, rfl⟩, hrest⟩
        exact ⟨hnonzero, hprior, hrest⟩
      · rintro ⟨hnonzero, hprior, hrest⟩
        exact ⟨_, ⟨hnonzero, hprior, rfl⟩, hrest⟩
    rw [List.foldlM_cons, bind_eq_ok, hfirst, ih, List.getLast?_concat, List.forall_mem_cons]
    simp only [Option.toList_some, List.map_cons, List.append_assoc, List.cons_append,
      List.nil_append]
    cases levels.getLast? with
    | none => simp [and_assoc]
    | some prior =>
      simp only [Option.mem_def, Option.some.injEq, forall_eq', Option.toList_some,
        List.cons_append, List.nil_append, List.isChain_cons_cons]
      tauto

/-- The ladder is its ten rungs, when they are positive and increasing and end at the ceiling. -/
theorem capacityLadder_eq_ok {ceiling : UInt64} {levels : List UInt64} :
    capacityLadder ceiling = .ok levels ↔ levels = ladderPercents.map (rung ceiling) ∧
      (∀ level ∈ levels, level ≠ 0) ∧ levels.IsChain (· < ·) ∧
      levels.getLast? = some ceiling := by
  unfold capacityLadder
  rw [bind_eq_ok]
  simp only [foldlM_pushRung, refuse_bind_eq_ok, not_not]
  constructor
  · rintro ⟨_, ⟨hnonzero, hchain, rfl⟩, hlast, ⟨⟩⟩
    exact ⟨rfl, by simpa using hnonzero, hchain, hlast⟩
  · rintro ⟨rfl, hnonzero, hchain, hlast⟩
    exact ⟨_, ⟨by simpa using hnonzero, hchain, rfl⟩, hlast, rfl⟩

/-- Where nothing saturates, a rung is its percentage of the blocks of the ceiling. -/
theorem toNat_rung_of_blocks {ceiling percent : UInt64} {blocks : ℕ}
    (hblocks : ceiling.toNat = blocks * block) (hfits : 100 * ceiling.toNat < 2 ^ 64)
    (hpercent : percent.toNat ≤ 100) :
    (rung ceiling percent).toNat = blocks * percent.toNat / 100 * block := by
  have hproduct : ceiling.toNat * percent.toNat ≤ ceiling.toNat * 100 :=
    Nat.mul_le_mul_left _ hpercent
  rw [toNat_rung, Nat.min_eq_left (by omega), hblocks, Nat.div_div_eq_div_mul,
    Nat.mul_right_comm, Nat.mul_div_mul_right _ _ (by decide)]

/-- With ten blocks or more, ten percent more are at least one block more. -/
theorem rung_lt {ceiling percent next : UInt64} {blocks : ℕ}
    (hblocks : ceiling.toNat = blocks * block) (hfits : 100 * ceiling.toNat < 2 ^ 64)
    (hten : 10 ≤ blocks) (hnext : percent.toNat + 10 ≤ next.toNat ∧ next.toNat ≤ 100) :
    rung ceiling percent < rung ceiling next := by
  rw [UInt64.lt_iff_toNat_lt, toNat_rung_of_blocks hblocks hfits (by omega),
    toNat_rung_of_blocks hblocks hfits hnext.2]
  refine Nat.mul_lt_mul_of_pos_right ?_ (by decide)
  have hstep : blocks * (percent.toNat + 10) ≤ blocks * next.toNat :=
    Nat.mul_le_mul_left _ hnext.1
  rw [Nat.mul_add] at hstep
  omega

theorem rung_ne_zero {ceiling percent : UInt64} {blocks : ℕ}
    (hblocks : ceiling.toNat = blocks * block) (hfits : 100 * ceiling.toNat < 2 ^ 64)
    (hten : 10 ≤ blocks) (hpercent : 10 ≤ percent.toNat ∧ percent.toNat ≤ 100) :
    rung ceiling percent ≠ 0 := by
  intro hzero
  have hvalue := toNat_rung_of_blocks hblocks hfits hpercent.2
  rw [hzero, UInt64.toNat_zero] at hvalue
  have hproduct := Nat.mul_le_mul hten hpercent.1
  have hpos : 0 < blocks * percent.toNat / 100 * block :=
    Nat.mul_pos (Nat.div_pos hproduct (by decide)) (by decide)
  omega

/-- A ceiling of whole blocks has a ladder if it has ten of them and a hundred ceilings fit
    into the type. -/
theorem exists_capacityLadder_iff {ceiling : UInt64} {blocks : ℕ}
    (hblocks : ceiling.toNat = blocks * block) :
    (∃ levels, capacityLadder ceiling = .ok levels) ↔
      10 ≤ blocks ∧ 100 * ceiling.toNat < 2 ^ 64 := by
  simp only [capacityLadder_eq_ok, exists_eq_left]
  constructor
  · rintro ⟨hnonzero, -, hlast⟩
    have hfirst : (rung ceiling 10).toNat ≠ 0 := fun hzero =>
      hnonzero _ List.mem_cons_self (UInt64.toNat_inj.1 hzero)
    have hfinal : (rung ceiling 100).toNat = ceiling.toNat :=
      congrArg UInt64.toNat (Option.some.inj hlast)
    rw [toNat_rung] at hfirst hfinal
    have hten : (10 : UInt64).toNat = 10 := rfl
    have hhundred : (100 : UInt64).toNat = 100 := rfl
    rw [hten] at hfirst
    rw [hhundred] at hfinal
    unfold block at *
    constructor
    · -- with fewer blocks the lowest rung is rounded down to nothing
      by_contra hfew
      omega
    · omega
  · rintro ⟨hten, hfits⟩
    -- no rung is zero, the rungs ascend, and the last one is the ceiling
    refine ⟨?_, ?_, ?_⟩
    · intro level hlevel
      obtain ⟨percent, hpercent, rfl⟩ := List.mem_map.1 hlevel
      have hrange : (ladderPercents.all fun percent =>
          decide (10 ≤ percent.toNat ∧ percent.toNat ≤ 100)) = true := by decide
      have hpercent := of_decide_eq_true (List.all_eq_true.1 hrange percent hpercent)
      exact rung_ne_zero hblocks hfits hten hpercent
    · have hsteps : ladderPercents.IsChain fun percent next =>
          percent.toNat + 10 ≤ next.toNat ∧ next.toNat ≤ 100 := by decide
      rw [List.isChain_map]
      exact hsteps.imp fun percent next => rung_lt hblocks hfits hten
    · have hlast : (rung ceiling 100).toNat = ceiling.toNat := by
        rw [toNat_rung_of_blocks hblocks hfits (Nat.le_refl _), hblocks]
        exact congrArg (· * block) (Nat.mul_div_cancel blocks (by decide))
      exact congrArg some (UInt64.toNat_inj.1 hlast)

/-! ## §4 The limit -/

/-- The margin rounded up, together with the target, to whole blocks. -/
def limitOf (target : ℕ) : ℕ := (target + marginOf target + (block - 1)) / block * block

theorem add_marginOf_le_limitOf (target : ℕ) : target + marginOf target ≤ limitOf target := by
  unfold limitOf block
  omega

theorem lt_limitOf (target : ℕ) : target < limitOf target := by
  have hle := add_marginOf_le_limitOf target
  unfold marginOf at hle
  omega

theorem toNat_limit {target : ℕ} (h : target ≤ 2 ^ 64 / 11) :
    (UInt64.ofNat (limitOf target)).toNat = limitOf target := by
  have hlt := add_marginOf_lt h
  refine UInt64.toNat_ofNat_of_lt' (Nat.lt_of_le_of_lt ?_ hlt)
  unfold limitOf block
  omega

/-- For a target of the search the limit exists if it fits under the maximum. -/
theorem deriveMemoryMax_eq_ok {c m : UInt64} (hpos : 0 < c.toNat) (hle : c.toNat ≤ 2 ^ 64 / 11)
    {d : MemoryMaxDerivation} :
    deriveMemoryMax c m alignmentBytes = .ok d ↔ limitOf c.toNat ≤ m.toNat ∧
      d = ⟨c, .ofNat (limitOf c.toNat) - c, alignmentBytes, .ofNat (limitOf c.toNat)⟩ := by
  have hlt := add_marginOf_lt hle
  have hmargin : (max (c / 10) (64 * mib)).toNat = marginOf c.toNat := toNat_margin c
  have hpad : (alignmentBytes - 1).toNat = block - 1 := rfl
  -- neither sum overflows
  have hunaligned : (UInt64.ofNat (c.toNat + marginOf c.toNat)).toNat =
      c.toNat + marginOf c.toNat :=
    UInt64.toNat_ofNat_of_lt' (Nat.lt_of_le_of_lt (Nat.le_add_right _ _) hlt)
  have hpadded : (UInt64.ofNat (c.toNat + marginOf c.toNat + (block - 1))).toNat =
      c.toNat + marginOf c.toNat + (block - 1) :=
    UInt64.toNat_ofNat_of_lt' (Nat.lt_of_le_of_lt (Nat.add_le_add_left (Nat.sub_le _ _) _) hlt)
  have hfirst : U64.add c (max (c / 10) (64 * mib)) =
      some (.ofNat (c.toNat + marginOf c.toNat)) :=
    (U64.add_eq_some (by rw [hmargin]; omega)).2 (by rw [hmargin, hunaligned])
  have hsecond : U64.add (.ofNat (c.toNat + marginOf c.toNat)) (alignmentBytes - 1) =
      some (.ofNat (c.toNat + marginOf c.toNat + (block - 1))) :=
    (U64.add_eq_some (by rw [hunaligned, hpad]; omega)).2 (by rw [hunaligned, hpad, hpadded])
  have hlimit := toNat_limit hle
  have hrounded : .ofNat (c.toNat + marginOf c.toNat + (block - 1)) / alignmentBytes *
      alignmentBytes = UInt64.ofNat (limitOf c.toNat) := by
    rw [← UInt64.toNat_inj, U64.toNat_div_mul, hpadded, hlimit]
    rfl
  have habove : ¬ (m < UInt64.ofNat (limitOf c.toNat) ∨ UInt64.ofNat (limitOf c.toNat) ≤ c) ↔
      limitOf c.toNat ≤ m.toNat := by
    rw [not_or, UInt64.lt_iff_toNat_lt, UInt64.le_iff_toNat_le, hlimit, Nat.not_lt, Nat.not_le]
    exact and_iff_left (lt_limitOf _)
  have hnonzero : ¬ (alignmentBytes = 0 ∨ c = 0) := by
    rintro (hzero | rfl)
    · exact absurd hzero (by decide)
    · exact absurd hpos (by decide)
  unfold deriveMemoryMax
  dsimp only
  rw [refuse_bind_eq_ok, hfirst, okOr_some, ok_bind, hsecond, okOr_some, ok_bind,
    refuse_bind_eq_ok, hrounded, habove]
  constructor
  · rintro ⟨-, hfits, ⟨⟩⟩
    exact ⟨hfits, rfl⟩
  · rintro ⟨hfits, rfl⟩
    exact ⟨hnonzero, hfits, rfl⟩

/-! ## §5 When the three agree -/

/-- What the callers rely on: a ceiling with a ladder has a limit that keeps the margin, and no
    ceiling is refused where some aligned size has room. -/
structure EnvelopeAgrees (effectiveMaximum : UInt64) : Prop where
  derivable : ∀ c levels, safeSearchCeiling effectiveMaximum = .ok c →
    capacityLadder c = .ok levels →
    ∃ d, deriveMemoryMax c effectiveMaximum alignmentBytes = .ok d ∧
      d.sharedMemoryMaxBytes ≤ effectiveMaximum ∧
      c.toNat + marginOf c.toNat ≤ d.sharedMemoryMaxBytes.toNat
  exhaustive : ∀ e, safeSearchCeiling effectiveMaximum = .error e →
    ¬ ∃ c, 0 < c ∧ block ∣ c ∧ c + marginOf c ≤ effectiveMaximum.toNat

/-- The maxima on which the three agree. Below 80 MiB nothing has room; below 704 MiB the margin
    is 64 MiB; above, it is a tenth of the ceiling, and the remainders by 176 MiB and by 16 MiB
    say whether it still fits when it is rounded up; the largest ceilings have no ladder. -/
def InStep (m : ℕ) : Prop :=
  m < 5 * block ∨
  (m < 44 * block ∧ 33 * block + 10 * (m % block) < m - m % block) ∨
  (44 * block ≤ m ∧
    (m % (11 * block) < block ∨ 10 * (m % block) < m % (11 * block) - m % block)) ∨
  120946279058 * block ≤ 10 * m

/-- The ceiling for a maximum, in blocks. -/
def blocksOf (m : ℕ) : ℕ := min (m * 10) (2 ^ 64 - 1) / 11 / block

theorem candidateOf_eq (m : ℕ) : candidateOf m = blocksOf m * block := rfl

/-- The candidate is accepted as the ceiling. -/
def Accepted (m : ℕ) : Prop := 0 < candidateOf m ∧ candidateOf m + marginOf (candidateOf m) ≤ m

theorem safeSearchCeiling_error_iff {m : UInt64} :
    (∃ e, safeSearchCeiling m = .error e) ↔ ¬ Accepted m.toNat := by
  have hcandidate := toNat_candidate m
  have hok : (∃ c, safeSearchCeiling m = .ok c) ↔ Accepted m.toNat := by
    simp only [safeSearchCeiling_eq_ok]
    constructor
    · rintro ⟨c, hc, hfits⟩
      rwa [hc] at hfits
    · intro hfits
      exact ⟨_, hcandidate, by rwa [hcandidate]⟩
  rw [← hok]
  cases safeSearchCeiling m with
  | ok c => simp
  | error e => simp

/-- The smallest aligned size with its margin takes five blocks. -/
theorem exists_room_iff {m : ℕ} :
    (∃ c, 0 < c ∧ block ∣ c ∧ c + marginOf c ≤ m) ↔ 5 * block ≤ m := by
  constructor
  · rintro ⟨c, hpos, hblock, hfits⟩
    have hle := Nat.le_of_dvd hpos hblock
    unfold marginOf at hfits
    unfold block at *
    omega
  · intro h
    exact ⟨block, by decide, Nat.dvd_refl _, Nat.le_trans (by decide) h⟩

theorem derivable_iff {m : UInt64} :
    (∀ c levels, safeSearchCeiling m = .ok c → capacityLadder c = .ok levels →
      ∃ d, deriveMemoryMax c m alignmentBytes = .ok d ∧ d.sharedMemoryMaxBytes ≤ m ∧
        c.toNat + marginOf c.toNat ≤ d.sharedMemoryMaxBytes.toNat) ↔
      (Accepted m.toNat → 10 ≤ blocksOf m.toNat → 100 * candidateOf m.toNat < 2 ^ 64 →
        limitOf (candidateOf m.toNat) ≤ m.toNat) := by
  have hcandidate := toNat_candidate m
  have hle := candidateOf_le m.toNat
  generalize U64.saturatingMul m 10 / 11 / alignmentBytes * alignmentBytes = c at hcandidate
  have hblocks : c.toNat = blocksOf m.toNat * block := hcandidate
  rw [← hcandidate] at hle ⊢
  constructor
  · intro h haccepted hten hfits
    obtain ⟨levels, hladder⟩ := (exists_capacityLadder_iff hblocks).2 ⟨hten, hfits⟩
    unfold Accepted at haccepted
    rw [← hcandidate] at haccepted
    obtain ⟨d, hd, -⟩ := h c levels (safeSearchCeiling_eq_ok.2 ⟨hcandidate, haccepted⟩) hladder
    exact ((deriveMemoryMax_eq_ok haccepted.1 hle).1 hd).1
  · intro h c' levels hceiling hladder
    obtain ⟨hc', hpos, hroom⟩ := safeSearchCeiling_eq_ok.1 hceiling
    obtain rfl : c' = c := UInt64.toNat_inj.1 (hc'.trans hcandidate.symm)
    obtain ⟨hten, hfits⟩ := (exists_capacityLadder_iff hblocks).1 ⟨levels, hladder⟩
    have hlimit := h ⟨by rwa [← hc'], by rwa [← hc']⟩ hten hfits
    refine ⟨_, (deriveMemoryMax_eq_ok hpos hle).2 ⟨hlimit, rfl⟩, ?_, ?_⟩
    · rw [UInt64.le_iff_toNat_le, toNat_limit hle]
      exact hlimit
    · rw [toNat_limit hle]
      exact add_marginOf_le_limitOf _

theorem envelopeAgrees_iff_numbers {m : UInt64} :
    EnvelopeAgrees m ↔
      (Accepted m.toNat → 10 ≤ blocksOf m.toNat → 100 * candidateOf m.toNat < 2 ^ 64 →
        limitOf (candidateOf m.toNat) ≤ m.toNat) ∧
      (¬ Accepted m.toNat → m.toNat < 5 * block) := by
  rw [← derivable_iff, ← safeSearchCeiling_error_iff, ← Nat.not_le, ← exists_room_iff]
  exact ⟨fun h => ⟨h.derivable, fun ⟨e, he⟩ => h.exhaustive e he⟩,
    fun h => ⟨h.1, fun e he => h.2 ⟨e, he⟩⟩⟩

/-! ### The numbers -/

theorem limitOf_blocks (k : ℕ) : limitOf (k * block) = (k + max 4 ((k + 9) / 10)) * block := by
  unfold limitOf marginOf block
  omega

/-- A candidate below 640 MiB keeps a margin of four blocks. -/
theorem marginOf_blocks {k : ℕ} (hk : k < 40) : marginOf (k * block) = 4 * block := by
  unfold marginOf block
  omega

/-- Where nothing saturates, the candidate has ten elevenths of the blocks. -/
theorem blocksOf_bounds {m : ℕ} (hfits : m * 10 < 2 ^ 64) :
    11 * block * blocksOf m ≤ 10 * m ∧ 10 * m < 11 * block * (blocksOf m + 1) := by
  unfold blocksOf
  rw [Nat.min_eq_left (by omega), Nat.div_div_eq_div_mul, Nat.mul_comm 10 m]
  exact ⟨Nat.mul_div_le _ _, Nat.lt_mul_div_succ _ (by decide)⟩

/-- A margin of four blocks fits exactly if there is a gap of four whole blocks. -/
theorem four_blocks_fit_iff {m k : ℕ} (hk : 11 * block * k ≤ 10 * m)
    (hk' : 10 * m < 11 * block * (k + 1)) :
    (k + 4) * block ≤ m ↔ 33 * block + 10 * (m % block) < m - m % block := by
  have hsplit := Nat.div_add_mod m block
  have hrest := Nat.mod_lt m (show 0 < block by decide)
  generalize m / block = whole at hsplit
  generalize m % block = rest at *
  unfold block at *
  have hwhole : (k + 4) * (16 * 1024 * 1024) ≤ m ↔ k + 4 ≤ whole := by omega
  rw [hwhole]
  omega

/-- A margin of a tenth, rounded up to whole blocks, fits exactly if the remainder by eleven
    blocks has a tenth of its whole blocks to spare. -/
theorem tenth_fits_iff {m k : ℕ} (hk : 11 * block * k ≤ 10 * m)
    (hk' : 10 * m < 11 * block * (k + 1)) :
    (k + (k + 9) / 10) * block ≤ m ↔
      m % (11 * block) < block ∨ 10 * (m % block) < m % (11 * block) - m % block := by
  have hsplit := Nat.div_add_mod m (11 * block)
  have hlt := Nat.mod_lt m (show 0 < 11 * block by decide)
  have hsame : m % block = m % (11 * block) % block := (Nat.mod_mul_left_mod m 11 block).symm
  rw [hsame]
  generalize m / (11 * block) = eleven at hsplit
  generalize m % (11 * block) = s at *
  -- the remainder by eleven blocks in whole blocks and the rest
  have hparts := Nat.div_add_mod s block
  have hrest := Nat.mod_lt s (show 0 < block by decide)
  generalize s / block = whole at hparts
  generalize s % block = rest at *
  unfold block at *
  have hfit : (k + (k + 9) / 10) * (16 * 1024 * 1024) ≤ m ↔
      k + (k + 9) / 10 ≤ 11 * eleven + whole := by omega
  have hspare : (s < 16 * 1024 * 1024 ∨ 10 * rest < s - rest) ↔
      whole = 0 ∨ 10 * rest < whole * (16 * 1024 * 1024) := by omega
  rw [hfit, hspare]
  by_cases hzero : whole = 0
  · have hblocks : k = 10 * eleven := by omega
    omega
  by_cases htenth : 10 * rest < whole * (16 * 1024 * 1024)
  · have hblocks : k = 10 * eleven + whole - 1 := by omega
    omega
  · have hblocks : k = 10 * eleven + whole := by omega
    omega

/-- The largest ceilings are those whose hundredfold does not fit into the type. -/
theorem no_ladder_iff {m : ℕ} (hm : m < 2 ^ 64) :
    2 ^ 64 ≤ 100 * candidateOf m ↔ 120946279058 * block ≤ 10 * m := by
  unfold candidateOf block
  omega

/-- Between 80 and 704 MiB the margin is four blocks, before and after rounding. -/
theorem agrees_below {m : ℕ} (hroom : 5 * block ≤ m) (hm : m < 44 * block) :
    (Accepted m ↔ 33 * block + 10 * (m % block) < m - m % block) ∧
      (Accepted m → limitOf (candidateOf m) ≤ m) := by
  have hbounds := blocksOf_bounds (m := m) (by unfold block at hm; omega)
  have hfew : 0 < blocksOf m ∧ blocksOf m < 40 := by
    unfold block at *
    omega
  have hpos : 0 < candidateOf m := Nat.mul_pos hfew.1 (by decide)
  have hmargin : candidateOf m + marginOf (candidateOf m) = (blocksOf m + 4) * block := by
    rw [candidateOf_eq, marginOf_blocks hfew.2, Nat.add_mul]
  have hlimit : limitOf (candidateOf m) = (blocksOf m + 4) * block := by
    rw [candidateOf_eq, limitOf_blocks, Nat.max_eq_left (by omega)]
  constructor
  · rw [Accepted, hmargin, four_blocks_fit_iff hbounds.1 hbounds.2]
    exact and_iff_right hpos
  · intro haccepted
    rw [hlimit, ← hmargin]
    exact haccepted.2

/-- From 704 MiB on the candidate is always accepted. -/
theorem accepted_above {m : ℕ} (hm : 44 * block ≤ m) : Accepted m := by
  unfold Accepted marginOf candidateOf block at *
  constructor <;> omega

theorem limit_fits_above {m : ℕ} (hm : 44 * block ≤ m) (hfits : m * 10 < 2 ^ 64) :
    limitOf (candidateOf m) ≤ m ↔
      m % (11 * block) < block ∨ 10 * (m % block) < m % (11 * block) - m % block := by
  have hbounds := blocksOf_bounds hfits
  have hmany : 40 ≤ blocksOf m := by
    unfold block at *
    omega
  rw [candidateOf_eq, limitOf_blocks, Nat.max_eq_right (by omega),
    tenth_fits_iff hbounds.1 hbounds.2]

/-- **The search envelope.** Ceiling, ladder and limit agree exactly on these maxima. -/
theorem envelopeAgrees_iff (effectiveMaximum : UInt64) :
    EnvelopeAgrees effectiveMaximum ↔ InStep effectiveMaximum.toNat := by
  have hm := effectiveMaximum.toNat_lt
  rw [envelopeAgrees_iff_numbers]
  generalize effectiveMaximum.toNat = m at hm
  unfold InStep
  rcases Nat.lt_or_ge m (5 * block) with hnone | hroom
  · -- nothing has room, so nothing is accepted
    have hrefused : ¬ Accepted m := fun haccepted => Nat.not_le_of_lt hnone
      (exists_room_iff.1 ⟨candidateOf m, haccepted.1, Nat.dvd_mul_left _ _, haccepted.2⟩)
    exact iff_of_true ⟨fun haccepted => absurd haccepted hrefused, fun _ => hnone⟩ (.inl hnone)
  rcases Nat.lt_or_ge m (44 * block) with hbelow | habove
  · -- an accepted candidate has its limit, and a refused one should not have been refused
    obtain ⟨haccepted, hlimit⟩ := agrees_below hroom hbelow
    rw [haccepted] at hlimit ⊢
    unfold block at *
    constructor
    · rintro ⟨-, hrefused⟩
      by_contra hno
      have hnone := hrefused (by omega)
      omega
    · intro hin
      have hfits : 33 * (16 * 1024 * 1024) + 10 * (m % (16 * 1024 * 1024)) <
          m - m % (16 * 1024 * 1024) := by omega
      exact ⟨fun _ _ _ => hlimit hfits, fun hno => absurd hfits hno⟩
  · -- the candidate is accepted, and the limit is left
    have haccepted := accepted_above habove
    by_cases hlast : 120946279058 * block ≤ 10 * m
    · have hladder := (no_ladder_iff hm).2 hlast
      exact iff_of_true ⟨fun _ _ hfits => absurd hfits (by omega), fun h => absurd haccepted h⟩
        (.inr (.inr (.inr hlast)))
    · have hladder : 100 * candidateOf m < 2 ^ 64 := by
        rw [← Nat.not_le, no_ladder_iff hm]
        exact hlast
      have hfits : m * 10 < 2 ^ 64 := by
        unfold block at hlast
        omega
      have hten : 10 ≤ blocksOf m := by
        have hbounds := blocksOf_bounds hfits
        unfold block at *
        omega
      rw [← limit_fits_above habove hfits]
      constructor
      · rintro ⟨hlimit, -⟩
        exact .inr (.inr (.inl ⟨habove, hlimit haccepted hten hladder⟩))
      · rintro (hnone | ⟨hbelow, -⟩ | ⟨-, hlimit⟩ | hlast')
        · exact absurd hnone (Nat.not_lt.2 hroom)
        · exact absurd hbelow (Nat.not_lt.2 habove)
        · exact ⟨fun _ _ _ => hlimit, fun h => absurd haccepted h⟩
        · exact absurd hlast' hlast

/-- At 100 MiB the only size that is tried does not fit, though 32 MiB would; at 756652442 bytes
    the ceiling of 656 MiB has a ladder and no limit. -/
theorem envelope_out_of_step :
    ¬ EnvelopeAgrees (100 * mib) ∧ ¬ EnvelopeAgrees 756652442 := by
  constructor
  · intro h
    have hrefused : safeSearchCeiling (100 * mib) =
        .error "no safe aligned capacity search ceiling" := by decide +kernel
    exact h.exhaustive _ hrefused ⟨2 * block, by decide, ⟨2, rfl⟩, by decide⟩
  · intro h
    have hceiling : safeSearchCeiling 756652442 = .ok (656 * mib) := by decide +kernel
    have hladder : (capacityLadder (656 * mib)).isOk = true := by decide +kernel
    have hlimit : deriveMemoryMax (656 * mib) 756652442 alignmentBytes =
        .error "shared MemoryMax is outside the safe effective envelope" := by decide +kernel
    obtain ⟨levels, hlevels⟩ := exists_of_isOk hladder
    obtain ⟨d, hd, -⟩ := h.derivable _ _ hceiling hlevels
    rw [hlimit] at hd
    cases hd

end Nemor.Capacity
