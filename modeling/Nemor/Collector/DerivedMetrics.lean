import Nemor.Collector.Meminfo
import Nemor.Collector.ProcessFields
import Nemor.Collector.Vmstat

/-!
# Metrics that are put together

A metric that is the sum or the difference of two counters is to be reported when both of them
are there. Three of the four are; the file cache is reported from one of its counters alone.
-/

namespace Nemor.Collector

open Fallible FoldedLines MachineNumbers Text

/-! ## §1 Sums and differences -/

/-- The metric is only there as the sum of two counters that are there. -/
def SumOf (metric left right : Option UInt64) : Prop :=
  ∀ x, metric = some x → ∃ a b, left = some a ∧ right = some b ∧ x.toNat = a.toNat + b.toNat

/-- The same for the difference. -/
def DifferenceOf (metric left right : Option UInt64) : Prop :=
  ∀ x, metric = some x → ∃ a b, left = some a ∧ right = some b ∧ x.toNat + b.toNat = a.toNat

theorem sumOf_uss (clean dirty : Option UInt64) : SumOf (ussOf clean dirty) clean dirty := by
  intro x hx
  cases clean with
  | none => cases hx
  | some a =>
    cases dirty with
    | none => cases hx
    | some b => exact ⟨a, b, rfl, rfl, U64.add_eq_some_iff.1 hx⟩

theorem differenceOf_minorFaults (all major : Option UInt64) :
    DifferenceOf (VmStat.minorFaultsOf all major) all major := by
  intro x hx
  cases all with
  | none => cases hx
  | some a =>
    cases major with
    | none => cases hx
    | some b => exact ⟨a, b, rfl, rfl, U64.sub_eq_some_iff.1 hx⟩

theorem differenceOf_swapUsed {total free used : Option UInt64}
    (h : MemInfo.swapUsed total free = .ok used) : DifferenceOf used total free := by
  intro x hx
  subst hx
  cases total with
  | none => cases h
  | some a =>
    cases free with
    | none => cases h
    | some b =>
      simp only [MemInfo.swapUsed, bind_eq_ok, okOr_eq_ok] at h
      obtain ⟨used, hused, hx⟩ := h
      cases hx
      exact ⟨a, b, rfl, rfl, U64.sub_eq_some_iff.1 hused⟩

/-- **A sum with missing parts taken as zero is the sum of its parts when both or none are
there.** -/
theorem sumOf_addOptional_iff {values : String → Option UInt64} {left right : String}
    {sum : Option UInt64} (h : MemInfo.addOptional values left right = .ok sum) :
    SumOf sum (values left) (values right) ↔
      ((values left).isSome = true ↔ (values right).isSome = true) := by
  unfold MemInfo.addOptional at h
  cases hleft : values left with
  | none =>
    cases hright : values right with
    | none =>
      simp only [hleft, hright] at h
      cases h
      exact iff_of_true (fun _ hx => nomatch hx) Iff.rfl
    -- the value that is missing counts as 0, so the sum is made up
    | some b =>
      simp only [hleft, hright, bind_eq_ok, okOr_eq_ok] at h
      obtain ⟨x, -, hx⟩ := h
      cases hx
      refine iff_of_false (fun hsum => ?_) (by simp)
      obtain ⟨_, _, hnone, -⟩ := hsum x rfl
      cases hnone
  | some a =>
    cases hright : values right with
    -- the same with the right one missing
    | none =>
      simp only [hleft, hright, bind_eq_ok, okOr_eq_ok] at h
      obtain ⟨x, -, hx⟩ := h
      cases hx
      refine iff_of_false (fun hsum => ?_) (by simp)
      obtain ⟨_, _, -, hnone, -⟩ := hsum x rfl
      cases hnone
    | some b =>
      simp only [hleft, hright, bind_eq_ok, okOr_eq_ok, Option.getD_some] at h
      obtain ⟨x, hsum, hx⟩ := h
      cases hx
      refine iff_of_true (fun y hy => ?_) (by simp)
      exact ⟨a, b, rfl, rfl, Option.some.inj hy ▸ U64.add_eq_some_iff.1 hsum⟩

/-! ## §2 The texts -/

/-- The amount of a key in `smaps_rollup`, in bytes; the first line of a key counts. -/
def smapsCounter (input : List Char) (key : String) : Option UInt64 :=
  (findField input key).bind fun raw =>
    (kibBytes "smaps_rollup" (kibComplaints key) raw).toOption

theorem parseKibField_eq {input : List Char} {key : String} {v : Option UInt64}
    (h : parseKibField "smaps_rollup" input key = .ok v) : v = smapsCounter input key := by
  unfold parseKibField at h
  unfold smapsCounter
  cases hfind : findField input key with
  | none =>
    simp only [hfind] at h
    cases h
    rfl
  | some raw =>
    simp only [hfind, bind_eq_ok] at h
    obtain ⟨bytes, hbytes, hv⟩ := h
    cases hv
    simp [hbytes, Except.toOption]

theorem uss_eq {input : List Char} {s : SmapsValues} (h : parseSmapsRollup input = .ok s) :
    s.ussBytes =
      ussOf (smapsCounter input "Private_Clean") (smapsCounter input "Private_Dirty") := by
  simp only [parseSmapsRollup, bind_eq_ok] at h
  obtain ⟨pss, -, pssBytes, -, clean, hclean, dirty, hdirty, hs⟩ := h
  cases hs
  rw [← parseKibField_eq hclean, ← parseKibField_eq hdirty]

/-- A counter of the memory is in a text. -/
def Occurs (input : List Char) (key : String) : Prop :=
  ∃ bytes, (key, bytes) ∈ MemInfo.fieldsIn input

/-- **When no metric is made up.** All four metrics are those of their counters, and the records
do not depend on the order of the lines, when the two counters of the file cache are both there
or both missing. -/
theorem no_metric_made_up_iff {mem vm smaps : List Char} {m : MemInfo} {v : VmStat}
    {s : SmapsValues} (hm : MemInfo.parse mem = .ok m) (hv : VmStat.parse vm = .ok v)
    (hs : parseSmapsRollup smaps = .ok s) :
    (SumOf m.fileCacheBytes (MemInfo.counterOf mem "Cached") (MemInfo.counterOf mem "Buffers") ∧
      DifferenceOf m.swapUsedBytes (MemInfo.counterOf mem "SwapTotal")
        (MemInfo.counterOf mem "SwapFree") ∧
      DifferenceOf v.minorFaults (VmStat.counterOf vm "pgfault")
        (VmStat.counterOf vm "pgmajfault") ∧
      SumOf s.ussBytes (smapsCounter smaps "Private_Clean") (smapsCounter smaps "Private_Dirty") ∧
      (∀ mem', (lines mem).Perm (lines mem') → MemInfo.DistinctKeys mem →
        MemInfo.parse mem' = .ok m) ∧
      ∀ vm', (lines vm).Perm (lines vm') → VmStat.DistinctKeys vm → VmStat.parse vm' = .ok v) ↔
    (Occurs mem "Cached" ↔ Occurs mem "Buffers") := by
  obtain ⟨hcache, hswap⟩ := MemInfo.ofValues_derived (MemInfo.parse_eq_ok.1 hm).2
  have hminor := VmStat.parse_minorFaults hv
  have hmem (mem' : List Char) (h : (lines mem).Perm (lines mem'))
      (hkeys : MemInfo.DistinctKeys mem) : MemInfo.parse mem' = .ok m :=
    (MemInfo.parse_perm h hkeys m).1 hm
  have hvm (vm' : List Char) (h : (lines vm).Perm (lines vm')) (hkeys : VmStat.DistinctKeys vm) :
      VmStat.parse vm' = .ok v := (VmStat.parse_perm h hkeys v).1 hv
  have hoccurs (key : String) : (MemInfo.counterOf mem key).isSome = true ↔ Occurs mem key :=
    lastValue_isSome_iff
  -- only the file cache depends on the condition
  rw [sumOf_addOptional_iff hcache, hoccurs, hoccurs]
  constructor
  · intro ⟨h, _⟩
    exact h
  · intro h
    refine ⟨h, differenceOf_swapUsed hswap, ?_, ?_, hmem, hvm⟩
    · rw [hminor]
      exact differenceOf_minorFaults _ _
    · rw [uss_eq hs]
      exact sumOf_uss _ _

/-! ## §3 Two texts -/

/-- The memory with some counters more. -/
def memWith (more : List String) : List Char :=
  (["MemTotal: 10 kB\n", "MemAvailable: 4 kB\n"] ++ more).flatMap String.toList

/-- A file cache is reported though there are no buffers. -/
theorem file_cache_without_buffers :
    MemInfo.counterOf (memWith ["Cached: 3 kB\n"]) "Buffers" = none ∧
      (MemInfo.parse (memWith ["Cached: 3 kB\n"])).map MemInfo.fileCacheBytes =
        .ok (some 3072) := by
  decide +kernel

/-- A `/proc/meminfo` with both parts of the file cache. -/
def completeMem : List Char := memWith ["Cached: 80 kB\n", "Buffers: 20 kB\n"]

/-- With the buffers there it is the sum, and nothing else is made up in texts that are read with
it. -/
theorem file_cache_with_buffers :
    SumOf (some 102400) (MemInfo.counterOf completeMem "Cached")
      (MemInfo.counterOf completeMem "Buffers") := by
  have hmem : MemInfo.parse completeMem =
      .ok ⟨10240, 4096, none, some 102400, none, none, none, none⟩ := by
    decide +kernel
  have hvm : VmStat.parse "pgfault 100\npgmajfault 4\n".toList =
      .ok { VmStat.empty with
        pageFaults := some 100, majorFaults := some 4, minorFaults := some 96 } := by
    decide +kernel
  have hsmaps : parseSmapsRollup "Pss: 8 kB\nPrivate_Clean: 2 kB\n".toList =
      .ok { pssBytes := 8192, ussBytes := none } := by
    decide +kernel
  have hfields : MemInfo.fieldsIn completeMem =
      [("MemTotal", 10240), ("MemAvailable", 4096), ("Cached", 81920), ("Buffers", 20480)] := by
    decide +kernel
  refine ((no_metric_made_up_iff hmem hvm hsmaps).2 (iff_of_true ?_ ?_)).1
  · exact ⟨81920, by simp [hfields]⟩
  · exact ⟨20480, by simp [hfields]⟩

end Nemor.Collector
