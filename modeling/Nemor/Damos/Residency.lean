import Nemor.Damos.Plan

/-!
# DAMOS: residency of a range

A snapshot of the page map counts the pages of a range by what holds them. Its validation adds
and multiplies the counts in 64 bits without checking for an overflow: a build with overflow
checks stops there, any other goes on modulo `2 ^ 64` and accepts counts that only add up so.
-/

namespace Nemor.Damos

open Fallible

open Damon (Panic)

/-! ## §1 Arithmetic of a build -/

/-- What a build does when an operation overflows. -/
inductive OnOverflow where
  | panic
  | wrap
  deriving DecidableEq

namespace OnOverflow

/-- What a build does with a result that may not fit. -/
def check (build : OnOverflow) (exact : ℕ) (wrapped : UInt64) : Except Panic UInt64 :=
  match build with
  | .panic => if exact < 2 ^ 64 then .ok wrapped else .error .overflow
  | .wrap => .ok wrapped

/-- Addition. -/
def add (build : OnOverflow) (a b : UInt64) : Except Panic UInt64 :=
  build.check (a.toNat + b.toNat) (a + b)

/-- Multiplication. -/
def mul (build : OnOverflow) (a b : UInt64) : Except Panic UInt64 :=
  build.check (a.toNat * b.toNat) (a * b)

theorem check_eq_ok {build : OnOverflow} {exact : ℕ} {wrapped c : UInt64} :
    build.check exact wrapped = .ok c ↔ wrapped = c ∧ (build = .panic → exact < 2 ^ 64) := by
  cases build with
  | panic =>
    by_cases h : exact < 2 ^ 64
    · simp only [check, if_pos h, Except.ok.injEq]
      exact ⟨fun hc => ⟨hc, fun _ => h⟩, fun hc => hc.1⟩
    · simp only [check, if_neg h]
      exact ⟨nofun, fun hc => absurd (hc.2 trivial) h⟩
  | wrap => simp [check]

end OnOverflow

/-! ## §2 Snapshots -/

/-- How many pages of a range are resident, page by page. -/
structure RangeResidencySnapshot where
  rangeStart : UInt64
  rangeEnd : UInt64
  rangeSizeBytes : UInt64
  pageSize : UInt64
  totalPages : UInt64
  presentPages : UInt64
  presentBytes : UInt64
  swappedPages : UInt64
  swappedBytes : UInt64
  notPresentNotSwappedPages : UInt64
  readErrors : UInt64
  /-- In 128 bits; nothing is computed with it. -/
  timestampNs : ℕ
  source : String
  deriving DecidableEq

namespace RangeResidencySnapshot

/-- `||`: what stands behind is evaluated only if it has to be. -/
def either (x : Bool) (rest : Except Panic Bool) : Except Panic Bool :=
  if x then .ok true else rest

theorem either_eq_false {x : Bool} {rest : Except Panic Bool} :
    either x rest = .ok false ↔ x = false ∧ rest = .ok false := by
  cases x <;> simp [either]

/-- Whether a check refuses the snapshot. -/
def refused (build : OnOverflow) (s : RangeResidencySnapshot) : Except Panic Bool :=
  either (s.rangeStart ≥ s.rangeEnd) <|
  either (s.pageSize = 0) <|
  either (s.rangeSizeBytes ≠ s.rangeEnd - s.rangeStart) <|
  either (s.totalPages ≠ s.rangeSizeBytes / s.pageSize) <| do
  let pages ← build.add s.presentPages s.swappedPages
  let pages ← build.add pages s.notPresentNotSwappedPages
  either (pages ≠ s.totalPages) <| do
  let present ← build.mul s.presentPages s.pageSize
  either (s.presentBytes ≠ present) <| do
  let swapped ← build.mul s.swappedPages s.pageSize
  either (s.swappedBytes ≠ swapped) <|
  either (s.readErrors ≠ 0) <|
  .ok (s.source ≠ "proc_pagemap")

/-- The figures of a snapshot go together. -/
def validate (build : OnOverflow) (s : RangeResidencySnapshot) :
    Except Panic (Except DamosError Unit) := do
  let refused ← s.refused build
  return refuse (refused = true) (.invalid "invalid exact-range pagemap snapshot")

/-! ## §3 What validation guarantees -/

/-- The checks as a build without overflow checks sees them. -/
structure Passes (s : RangeResidencySnapshot) : Prop where
  nonempty : s.rangeStart.toNat < s.rangeEnd.toNat
  page : s.pageSize.toNat ≠ 0
  size : s.rangeSizeBytes.toNat = s.rangeEnd.toNat - s.rangeStart.toNat
  total : s.totalPages.toNat = s.rangeSizeBytes.toNat / s.pageSize.toNat
  pages : (s.presentPages.toNat + s.swappedPages.toNat + s.notPresentNotSwappedPages.toNat) %
    2 ^ 64 = s.totalPages.toNat
  present : s.presentBytes.toNat = s.presentPages.toNat * s.pageSize.toNat % 2 ^ 64
  swapped : s.swappedBytes.toNat = s.swappedPages.toNat * s.pageSize.toNat % 2 ^ 64
  readErrors : s.readErrors = 0
  source : s.source = "proc_pagemap"

/-- The pages of the range by what holds them, counted exactly. -/
def countedPages (s : RangeResidencySnapshot) : ℕ :=
  s.presentPages.toNat + s.swappedPages.toNat + s.notPresentNotSwappedPages.toNat

/-- What a snapshot says of its range, in natural numbers. -/
structure Exact (s : RangeResidencySnapshot) : Prop where
  pages : s.countedPages = s.totalPages.toNat
  present : s.presentBytes.toNat = s.presentPages.toNat * s.pageSize.toNat
  swapped : s.swappedBytes.toNat = s.swappedPages.toNat * s.pageSize.toNat
  fits : s.presentBytes.toNat + s.swappedBytes.toNat ≤ s.rangeEnd.toNat - s.rangeStart.toNat

/-- Counts below the bound of the machine are exact once they pass. -/
theorem exact_of_passes {s : RangeResidencySnapshot} (h : s.Passes)
    (hcount : s.countedPages < 2 ^ 64) : s.Exact := by
  have hpages : s.countedPages = s.totalPages.toNat := by
    rw [← h.pages]
    exact (Nat.mod_eq_of_lt hcount).symm
  -- whole pages fill at most the range
  have hfit : s.countedPages * s.pageSize.toNat ≤ s.rangeSizeBytes.toNat := by
    rw [hpages, h.total]
    exact Nat.div_mul_le_self _ _
  have hsplit : s.presentPages.toNat * s.pageSize.toNat + s.swappedPages.toNat * s.pageSize.toNat ≤
      s.countedPages * s.pageSize.toNat := by
    rw [← Nat.add_mul]
    exact Nat.mul_le_mul_right _ (Nat.le_add_right _ _)
  have hsize : s.rangeSizeBytes.toNat < 2 ^ 64 := s.rangeSizeBytes.toNat_lt
  have hpresent := h.present
  have hswapped := h.swapped
  rw [Nat.mod_eq_of_lt (by omega)] at hpresent hswapped
  have hrange := h.size
  exact ⟨hpages, hpresent, hswapped, by omega⟩

/-- The checks in machine words. -/
theorem passes_iff {s : RangeResidencySnapshot} :
    s.Passes ↔ s.rangeStart < s.rangeEnd ∧ s.pageSize ≠ 0 ∧
      s.rangeSizeBytes = s.rangeEnd - s.rangeStart ∧
      s.totalPages = s.rangeSizeBytes / s.pageSize ∧
      s.presentPages + s.swappedPages + s.notPresentNotSwappedPages = s.totalPages ∧
      s.presentBytes = s.presentPages * s.pageSize ∧
      s.swappedBytes = s.swappedPages * s.pageSize ∧
      s.readErrors = 0 ∧ s.source = "proc_pagemap" := by
  simp only [UInt64.lt_iff_toNat_lt, ← UInt64.toNat_inj, ne_eq, UInt64.toNat_div,
    UInt64.toNat_mul, UInt64.toNat_add, Nat.mod_add_mod]
  constructor
  · intro h
    have hle : s.rangeStart ≤ s.rangeEnd := UInt64.le_iff_toNat_le.2 (Nat.le_of_lt h.nonempty)
    rw [UInt64.toNat_sub_of_le _ _ hle]
    exact ⟨h.nonempty, h.page, h.size, h.total, h.pages, h.present, h.swapped,
      congrArg UInt64.toNat h.readErrors, h.source⟩
  · rintro ⟨hrange, hpage, hsize, htotal, hpages, hpresent, hswapped, herrors, hsource⟩
    have hle : s.rangeStart ≤ s.rangeEnd := UInt64.le_iff_toNat_le.2 (Nat.le_of_lt hrange)
    rw [UInt64.toNat_sub_of_le _ _ hle] at hsize
    exact ⟨hrange, hpage, hsize, htotal, hpages, hpresent, hswapped,
      UInt64.toNat_inj.1 herrors, hsource⟩

theorem refused_eq_false {build : OnOverflow} {s : RangeResidencySnapshot} :
    s.refused build = .ok false ↔
      s.Passes ∧ (build = .panic → s.countedPages < 2 ^ 64) := by
  simp only [refused, either_eq_false, bind_eq_ok, OnOverflow.add, OnOverflow.mul,
    OnOverflow.check_eq_ok, Except.ok.injEq, decide_eq_false_iff_not, ge_iff_le, UInt64.not_le,
    ne_eq, not_not]
  constructor
  · rintro ⟨hrange, hpage, hsize, htotal, _, ⟨rfl, hadd⟩, _, ⟨rfl, hadd'⟩, hpages, _, ⟨rfl, -⟩,
      hpresent, _, ⟨rfl, -⟩, hswapped, herrors, hsource⟩
    refine ⟨passes_iff.2 ⟨hrange, hpage, hsize, htotal, hpages, hpresent, hswapped, herrors,
      hsource⟩, fun hpanic => ?_⟩
    have h := hadd hpanic
    have h' := hadd' hpanic
    rw [UInt64.toNat_add, Nat.mod_eq_of_lt h] at h'
    exact h'
  · rintro ⟨h, hcount⟩
    obtain ⟨hrange, hpage, hsize, htotal, hpages, hpresent, hswapped, herrors, hsource⟩ :=
      passes_iff.1 h
    -- the first sum is below the whole count, and each product is a number of the snapshot
    have hfirst : build = .panic → s.presentPages.toNat + s.swappedPages.toNat < 2 ^ 64 :=
      fun hpanic => Nat.lt_of_le_of_lt (Nat.le_add_right _ _) (hcount hpanic)
    refine ⟨hrange, hpage, hsize, htotal, _, ⟨rfl, hfirst⟩, _, ⟨rfl, fun hpanic => ?_⟩, hpages, _,
      ⟨rfl, fun hpanic => ?_⟩, hpresent, _, ⟨rfl, fun hpanic => ?_⟩, hswapped, herrors, hsource⟩
    · rw [UInt64.toNat_add, Nat.mod_eq_of_lt (hfirst hpanic)]
      exact hcount hpanic
    · rw [← (exact_of_passes h (hcount hpanic)).present]
      exact s.presentBytes.toNat_lt
    · rw [← (exact_of_passes h (hcount hpanic)).swapped]
      exact s.swappedBytes.toNat_lt

theorem validate_eq_ok {build : OnOverflow} {s : RangeResidencySnapshot} :
    s.validate build = .ok (.ok ()) ↔
      s.Passes ∧ (build = .panic → s.countedPages < 2 ^ 64) := by
  rw [← refused_eq_false, validate]
  cases s.refused build with
  | error e => simp [bind, Except.bind]
  | ok refused => simp [bind, Except.bind, pure, Except.pure, refuse_eq_ok]

/-- The snapshots that are accepted by mistake: their page counts exceed the pages of the range by
    a multiple of `2 ^ 64`, and all else is in order. -/
structure Carried (s : RangeResidencySnapshot) : Prop where
  passes : s.Passes
  carry : 2 ^ 64 ≤ s.countedPages

/-- **An accepted snapshot is exact unless its counts carry over.** In a build with overflow
    checks no accepted snapshot is wrong. -/
theorem exact_of_validate_iff (build : OnOverflow) (s : RangeResidencySnapshot) :
    (s.validate build = .ok (.ok ()) → s.Exact) ↔ ¬ (build = .wrap ∧ s.Carried) := by
  constructor
  · rintro hexact ⟨rfl, hcarried⟩
    have haccepted : s.validate .wrap = .ok (.ok ()) :=
      validate_eq_ok.2 ⟨hcarried.passes, nofun⟩
    have hpages := (hexact haccepted).pages
    have htotal := s.totalPages.toNat_lt
    have hcarry := hcarried.carry
    omega
  · intro hno hvalid
    obtain ⟨hpasses, hpanic⟩ := validate_eq_ok.1 hvalid
    apply exact_of_passes hpasses
    by_contra hcarry
    cases build with
    | panic => exact hcarry (hpanic rfl)
    | wrap => exact hno ⟨rfl, hpasses, Nat.le_of_not_lt hcarry⟩

/-- One page of 4096 bytes, of which `2 ^ 63` pages are present and as many swapped out. -/
def wrapped : RangeResidencySnapshot where
  rangeStart := 0x1000
  rangeEnd := 0x2000
  rangeSizeBytes := 4096
  pageSize := 4096
  totalPages := 1
  presentPages := 0x8000000000000000
  presentBytes := 0
  swappedPages := 0x8000000000000000
  swappedBytes := 0
  notPresentNotSwappedPages := 1
  readErrors := 0
  timestampNs := 1
  source := "proc_pagemap"

theorem wrapped_accepted :
    wrapped.validate .wrap = .ok (.ok ()) ∧ wrapped.countedPages ≠ wrapped.totalPages.toNat ∧
      wrapped.presentBytes.toNat ≠ wrapped.presentPages.toNat * wrapped.pageSize.toNat := by
  decide +kernel

end RangeResidencySnapshot

end Nemor.Damos
