import Nemor.Collector.Source
import Nemor.Lib.FoldedLines

/-!
# The counters of the memory management

`/proc/vmstat` has a line for each counter. The pages that were scanned and reclaimed are counted
by several counters each, which of them depends on the kernel; all counters of such a family are
added up.

- §1: reading the text
- §2: what is read
- §3: other orders of the lines
- §4: the ways in which a kernel shows a count
- §5: when the total is the count
-/

namespace Nemor.Collector

open Fallible FoldedLines KeyedLines MachineNumbers Text

/-! ## §1 Reading the text -/

/-- What is read of `/proc/vmstat`. -/
structure VmStat where
  swapInPages : Option UInt64
  swapOutPages : Option UInt64
  pageFaults : Option UInt64
  majorFaults : Option UInt64
  minorFaults : Option UInt64
  pgscan : Option UInt64
  pgsteal : Option UInt64
  workingsetRefault : Option UInt64
  deriving DecidableEq

namespace VmStat

/-- No counter has been seen. -/
def empty : VmStat := ⟨none, none, none, none, none, none, none, none⟩

/-- The key of a family, alone or with more behind an underscore. -/
def inFamily (family key : String) : Bool :=
  key == family || (family ++ "_").toList.isPrefixOf key.toList

/-- Counters that are read. -/
def relevant (key : String) : Bool :=
  key ∈ ["pswpin", "pswpout", "pgfault", "pgmajfault"] || inFamily "pgscan" key ||
    inFamily "pgsteal" key || inFamily "workingset_refault" key

/-- A line with one of the counters, or another line. -/
def readLine (line : List Char) : Except CollectorError (Option (String × UInt64)) :=
  match splitWhitespace line with
  | [] => .ok none
  | rawKey :: rest =>
    let key := String.ofList rawKey
    if !relevant key then .ok none
    else
      match rest with
      | [] => .error (.invalid "vmstat" ("`" ++ key ++ "` has no counter"))
      | [raw] => do
        let value ← counter "vmstat" ("`" ++ key ++ "` is invalid") raw
        return some (key, value)
      | _ => .error (.invalid "vmstat" ("`" ++ key ++ "` contains trailing data"))

/-- Add to a sum that may not have begun. -/
def checkedAccumulate (target : Option UInt64) (value : UInt64) (key : String) :
    Except CollectorError (Option UInt64) := do
  let sum ← okOr (U64.accumulate target value)
    (.invalid "vmstat" ("aggregate including `" ++ key ++ "` overflows"))
  return some sum

/-- Take up one counter. -/
def update (result : VmStat) (field : String × UInt64) : Except CollectorError VmStat :=
  let (key, value) := field
  if key = "pswpin" then .ok { result with swapInPages := some value }
  else if key = "pswpout" then .ok { result with swapOutPages := some value }
  else if key = "pgfault" then .ok { result with pageFaults := some value }
  else if key = "pgmajfault" then .ok { result with majorFaults := some value }
  else if inFamily "pgscan" key then do
    let pgscan ← checkedAccumulate result.pgscan value key
    return { result with pgscan }
  else if inFamily "pgsteal" key then do
    let pgsteal ← checkedAccumulate result.pgsteal value key
    return { result with pgsteal }
  else if inFamily "workingset_refault" key then do
    let workingsetRefault ← checkedAccumulate result.workingsetRefault value key
    return { result with workingsetRefault }
  else .ok result

/-- The faults that were not major ones, if both counters are there and fit together. -/
def minorFaultsOf (all major : Option UInt64) : Option UInt64 :=
  match all, major with
  | some all, some major => U64.sub all major
  | _, _ => none

/-- `parse`. -/
def parse (input : List Char) : Except CollectorError VmStat := do
  let result ← (lines input).foldlM (step readLine update) empty
  return { result with minorFaults := minorFaultsOf result.pageFaults result.majorFaults }

/-! ## §2 What is read -/

theorem prefix_of_inFamily {family key : String} (h : inFamily family key = true) :
    family.toList <+: key.toList := by
  rcases Bool.or_eq_true_iff.1 h with h | h
  · rw [beq_iff_eq.1 h]
  · rw [List.isPrefixOf_iff_prefix, String.toList_append] at h
    exact (List.prefix_append _ _).trans h

/-- A key belongs to one family only, when no family starts like another one. -/
theorem inFamily_eq_false {family other key : String} (h : inFamily family key = true)
    (hnot : ¬ family.toList <+: other.toList) (hnot' : ¬ other.toList <+: family.toList) :
    inFamily other key = false := by
  by_contra hother
  have hprefix := prefix_of_inFamily (Bool.eq_true_of_not_eq_false hother)
  cases List.prefix_or_prefix_of_prefix (prefix_of_inFamily h) hprefix with
  | inl h => exact hnot h
  | inr h => exact hnot' h

/-- The total of a family after a field. -/
def grown (family : String) (total : Option UInt64) (field : String × UInt64) :
    Option (Option UInt64) :=
  if inFamily family field.1 = true then (U64.accumulate total field.2).map some else some total

/-- The value of a key after a field. -/
def replaced (key : String) (value : Option UInt64) (field : String × UInt64) : Option UInt64 :=
  if field.1 = key then some field.2 else value

theorem checkedAccumulate_eq_ok {target sum : Option UInt64} {value : UInt64} {key : String} :
    checkedAccumulate target value key = .ok sum ↔
      (U64.accumulate target value).map some = some sum := by
  rw [checkedAccumulate]
  cases U64.accumulate target value with
  | none => simp [okOr, bind, Except.bind]
  | some n =>
    rw [okOr_some, ok_bind]
    simp [pure, Except.pure]

theorem ofFamily_ok_iff {target : Option UInt64} {value : UInt64} {key : String}
    {f : Option UInt64 → VmStat} {r : VmStat} :
    (checkedAccumulate target value key >>= fun sum => .ok (f sum)) = .ok r ↔
      ∃ sum, (U64.accumulate target value).map some = some sum ∧ f sum = r := by
  simp only [bind_eq_ok, checkedAccumulate_eq_ok, Except.ok.injEq]

/-- **What a field does to each part of the record.** -/
theorem update_eq_ok {s r : VmStat} {field : String × UInt64} :
    update s field = .ok r ↔
      (grown "pgscan" s.pgscan field = some r.pgscan ∧
        grown "pgsteal" s.pgsteal field = some r.pgsteal ∧
        grown "workingset_refault" s.workingsetRefault field = some r.workingsetRefault) ∧
      (replaced "pswpin" s.swapInPages field = r.swapInPages ∧
        replaced "pswpout" s.swapOutPages field = r.swapOutPages ∧
        replaced "pgfault" s.pageFaults field = r.pageFaults ∧
        replaced "pgmajfault" s.majorFaults field = r.majorFaults) ∧
      s.minorFaults = r.minorFaults := by
  obtain ⟨key, value⟩ := field
  have hname : ∀ name ∈ ["pswpin", "pswpout", "pgfault", "pgmajfault"],
      inFamily "pgscan" name = false ∧ inFamily "pgsteal" name = false ∧
        inFamily "workingset_refault" name = false := by
    decide
  -- the match of the code: a counter of its own, or one of a family
  by_cases hnamed : key ∈ ["pswpin", "pswpout", "pgfault", "pgmajfault"]
  · obtain ⟨hscan, hsteal, hrefault⟩ := hname key hnamed
    simp only [List.mem_cons, List.not_mem_nil, or_false] at hnamed
    obtain ⟨r1, r2, r3, r4, r5, r6, r7, r8⟩ := r
    rcases hnamed with rfl | rfl | rfl | rfl <;>
      simp [update, grown, replaced, hscan, hsteal, hrefault] <;> grind
  · simp only [List.mem_cons, List.not_mem_nil, or_false, not_or] at hnamed
    obtain ⟨h1, h2, h3, h4⟩ := hnamed
    obtain ⟨s1, s2, s3, s4, s5, s6, s7, s8⟩ := s
    obtain ⟨r1, r2, r3, r4, r5, r6, r7, r8⟩ := r
    by_cases hscan : inFamily "pgscan" key = true
    · -- no key is in two families
      have hsteal : inFamily "pgsteal" key = false :=
        inFamily_eq_false hscan (by decide) (by decide)
      have hrefault : inFamily "workingset_refault" key = false :=
        inFamily_eq_false hscan (by decide) (by decide)
      simp only [update, if_neg h1, if_neg h2, if_neg h3, if_neg h4, if_pos hscan, hsteal, hrefault,
        grown, replaced, Bool.false_eq_true, if_false, pure, Except.pure, ofFamily_ok_iff]
      grind
    by_cases hsteal : inFamily "pgsteal" key = true
    · have hrefault : inFamily "workingset_refault" key = false :=
        inFamily_eq_false hsteal (by decide) (by decide)
      simp only [update, if_neg h1, if_neg h2, if_neg h3, if_neg h4, if_neg hscan, if_pos hsteal,
        hrefault, grown, replaced, Bool.false_eq_true, if_false, pure, Except.pure, ofFamily_ok_iff]
      grind
    by_cases hrefault : inFamily "workingset_refault" key = true
    · simp only [update, if_neg h1, if_neg h2, if_neg h3, if_neg h4, if_neg hscan, if_neg hsteal,
        if_pos hrefault, grown, replaced, pure, Except.pure, ofFamily_ok_iff]
      grind
    · simp only [update, if_neg h1, if_neg h2, if_neg h3, if_neg h4, if_neg hscan, if_neg hsteal,
        if_neg hrefault, grown, replaced]
      grind

/-- The values of a family. -/
def familyValues (family : String) (fields : List (String × UInt64)) : List UInt64 :=
  (fields.filter fun field => inFamily family field.1).map Prod.snd

theorem foldlM_grown (family : String) (fields : List (String × UInt64)) (t : Option UInt64) :
    fields.foldlM (grown family) t = U64.total t (familyValues family fields) := by
  induction fields generalizing t with
  | nil => rfl
  | cons field fields ih =>
    rw [List.foldlM_cons]
    by_cases hfamily : inFamily family field.1 = true
    · have hvalues : familyValues family (field :: fields) =
          field.2 :: familyValues family fields := by
        simp [familyValues, hfamily]
      rw [hvalues, U64.total_cons, grown, if_pos hfamily]
      cases U64.accumulate t field.2 <;> simp [ih]
    · have hvalues : familyValues family (field :: fields) = familyValues family fields := by
        simp [familyValues, hfamily]
      rw [hvalues, grown, if_neg hfamily, ← ih]
      rfl

theorem foldl_replaced (key : String) (fields : List (String × UInt64)) (v : Option UInt64) :
    fields.foldl (replaced key) v = (lastValue fields key).or v := by
  induction fields generalizing v with
  | nil => rfl
  | cons field fields ih =>
    rw [List.foldl_cons, ih, lastValue_cons, Option.or_assoc, replaced]
    congr 1
    by_cases hkey : field.1 = key <;> simp [hkey]

/-- **What the fields of a text do to each part of the record.** -/
theorem foldlM_update_eq_ok {fields : List (String × UInt64)} {s r : VmStat} :
    fields.foldlM update s = .ok r ↔
      (U64.total s.pgscan (familyValues "pgscan" fields) = some r.pgscan ∧
        U64.total s.pgsteal (familyValues "pgsteal" fields) = some r.pgsteal ∧
        U64.total s.workingsetRefault (familyValues "workingset_refault" fields) =
          some r.workingsetRefault) ∧
      ((lastValue fields "pswpin").or s.swapInPages = r.swapInPages ∧
        (lastValue fields "pswpout").or s.swapOutPages = r.swapOutPages ∧
        (lastValue fields "pgfault").or s.pageFaults = r.pageFaults ∧
        (lastValue fields "pgmajfault").or s.majorFaults = r.majorFaults) ∧
      s.minorFaults = r.minorFaults := by
  simp only [← foldlM_grown, ← foldl_replaced]
  induction fields generalizing s with
  | nil =>
    obtain ⟨s1, s2, s3, s4, s5, s6, s7, s8⟩ := s
    obtain ⟨r1, r2, r3, r4, r5, r6, r7, r8⟩ := r
    simp only [List.foldlM_nil, List.foldl_nil, pure, Except.pure]
    grind
  | cons field fields ih =>
    simp only [List.foldlM_cons, List.foldl_cons, bind_eq_ok, update_eq_ok, ih, Option.bind_eq_bind,
      Option.bind_eq_some_iff]
    constructor
    · rintro ⟨u, ⟨⟨h1, h2, h3⟩, ⟨h4, h5, h6, h7⟩, h8⟩, ⟨k1, k2, k3⟩, k4, k5⟩
      rw [h4, h5, h6, h7, h8]
      exact ⟨⟨⟨_, h1, k1⟩, ⟨_, h2, k2⟩, _, h3, k3⟩, k4, k5⟩
    · rintro ⟨⟨⟨scan, h1, k1⟩, ⟨steal, h2, k2⟩, refault, h3, k3⟩, k4, k5⟩
      exact ⟨⟨_, _, _, _, _, scan, steal, refault⟩, ⟨⟨h1, h2, h3⟩, ⟨rfl, rfl, rfl, rfl⟩, rfl⟩,
        ⟨k1, k2, k3⟩, k4, k5⟩

/-- The counters that a text gives. -/
def fieldsIn (input : List Char) : List (String × UInt64) := fieldsOf readLine (lines input)

theorem parse_eq_ok {input : List Char} {r : VmStat} :
    parse input = .ok r ↔
      Readable readLine (lines input) ∧ ∃ u, (fieldsIn input).foldlM update empty = .ok u ∧
        r = { u with minorFaults := minorFaultsOf u.pageFaults u.majorFaults } := by
  simp only [parse, bind_eq_ok, foldlM_step_eq_ok, and_assoc, exists_and_left]
  refine and_congr_right fun _ => exists_congr fun u => and_congr_right fun _ => ?_
  exact ⟨fun h => (Except.ok.inj h).symm, fun h => h ▸ rfl⟩

/-! ## §3 Other orders of the lines -/

theorem familyValues_perm (family : String) {fields fields' : List (String × UInt64)}
    (h : fields.Perm fields') :
    (familyValues family fields).Perm (familyValues family fields') := (h.filter _).map _

theorem commuting_update : Commuting update := by
  intro s f g hkey
  -- two fields one after the other are a fold over two fields
  have hfold (f g : String × UInt64) (r : VmStat) :
      attempt update (attempt update (some s) f) g = some r ↔ [f, g].foldlM update s = .ok r := by
    rw [foldlM_eq_ok_iff]
    rfl
  have hlast (key : String) : lastValue [f, g] key = lastValue [g, f] key := by
    simp only [lastValue_cons, lastValue_nil]
    grind
  have htotal (family : String) (t : Option UInt64) :
      U64.total t (familyValues family [f, g]) = U64.total t (familyValues family [g, f]) :=
    U64.total_perm (familyValues_perm family (List.Perm.swap g f [])) t
  refine Option.ext fun r => ?_
  rw [hfold, hfold, foldlM_update_eq_ok, foldlM_update_eq_ok]
  simp only [hlast, htotal]

/-- No counter comes twice. -/
def DistinctKeys (input : List Char) : Prop := ((fieldsIn input).map Prod.fst).Nodup

/-- **The order of the lines does not matter.** -/
theorem parse_perm {input input' : List Char} (h : (lines input).Perm (lines input'))
    (hkeys : DistinctKeys input) (r : VmStat) : parse input = .ok r ↔ parse input' = .ok r := by
  simp only [parse, bind_eq_ok]
  exact exists_congr fun u => and_congr_left fun _ => foldlM_step_perm h hkeys commuting_update

/-- A counter that is not added up. -/
def counterOf (input : List Char) (key : String) : Option UInt64 := lastValue (fieldsIn input) key

/-- The minor faults of a text. -/
theorem parse_minorFaults {input : List Char} {r : VmStat} (h : parse input = .ok r) :
    r.minorFaults = minorFaultsOf (counterOf input "pgfault") (counterOf input "pgmajfault") := by
  obtain ⟨-, u, hu, rfl⟩ := parse_eq_ok.1 h
  obtain ⟨-, ⟨-, -, hall, hmajor⟩, -⟩ := foldlM_update_eq_ok.1 hu
  simp only [counterOf, ← hall, ← hmajor, empty, Option.or_none]

/-! ## §4 The ways in which a kernel shows a count -/

/-- How the kernel splits a total. -/
inductive BreakdownKind where
  | plain
  | byReclaimer
  | byPageType
  deriving DecidableEq

/-- The count in one piece, or divided up completely. -/
inductive Breakdown where
  | plain (pages : UInt64)
  | byReclaimer (kswapd direct khugepaged : UInt64)
  | byPageType (anon file : UInt64)

namespace Breakdown

/-- The kind of a breakdown. -/
def kind : Breakdown → BreakdownKind
  | .plain _ => .plain
  | .byReclaimer _ _ _ => .byReclaimer
  | .byPageType _ _ => .byPageType

/-- The counters that show it. -/
def counters (family : String) : Breakdown → List (String × UInt64)
  | .plain pages => [(family, pages)]
  | .byReclaimer kswapd direct khugepaged =>
    [(family ++ "_kswapd", kswapd), (family ++ "_direct", direct),
      (family ++ "_khugepaged", khugepaged)]
  | .byPageType anon file => [(family ++ "_anon", anon), (family ++ "_file", file)]

/-- The pages that are counted, each once. -/
def pages : Breakdown → ℕ
  | .plain pages => pages.toNat
  | .byReclaimer kswapd direct khugepaged => kswapd.toNat + direct.toNat + khugepaged.toNat
  | .byPageType anon file => anon.toNat + file.toNat

theorem sum_counters (family : String) (b : Breakdown) :
    ((b.counters family).map fun field => field.2.toNat).sum = b.pages := by
  cases b <;> simp [counters, pages, Nat.add_assoc]

theorem counters_ne_nil (family : String) (b : Breakdown) : b.counters family ≠ [] := by
  cases b <;> simp [counters]

end Breakdown

/-- The counters of a family that count its pages. -/
def pageCounters (family : String) : List String :=
  [family, family ++ "_kswapd", family ++ "_direct", family ++ "_khugepaged", family ++ "_anon",
    family ++ "_file"]

/-- A text shows a number of pages by some breakdowns, and has other counters with the same start
that count something else. -/
structure Exposition (family : String) (pages : UInt64) (fields : List (String × UInt64)) where
  shown : List Breakdown
  others : List (String × UInt64)
  shown_nonempty : shown ≠ []
  kinds_distinct : (shown.map Breakdown.kind).Nodup
  shown_complete : ∀ b ∈ shown, b.pages = pages.toNat
  others_uncounted : ∀ other ∈ others, other.1 ∉ pageCounters family
  fields_perm : (fields.filter fun field => inFamily family field.1).Perm
    (shown.flatMap (Breakdown.counters family) ++ others)

/-- The pages are shown in one way, or there are none, and the other counters are at zero. -/
def Exposition.Single {family : String} {pages : UInt64} {fields : List (String × UInt64)}
    (e : Exposition family pages fields) : Prop :=
  (pages = 0 ∨ e.shown.length = 1) ∧ ∀ other ∈ e.others, other.2 = 0

/-! ## §5 When the total is the count -/

section Totals

variable {family : String} {pages : UInt64} {fields : List (String × UInt64)}

/-- Each breakdown is added once more, and so are the other counters. -/
theorem Exposition.sum_familyValues (e : Exposition family pages fields) :
    ((familyValues family fields).map UInt64.toNat).sum =
      e.shown.length * pages.toNat + (e.others.map fun other => other.2.toNat).sum := by
  have hsum := (e.fields_perm.map fun field => field.2.toNat).sum_nat
  rw [familyValues, List.map_map]
  refine hsum.trans ?_
  rw [List.map_append, List.sum_append]
  congr 1
  have hcomplete := e.shown_complete
  generalize e.shown = shown at hcomplete
  induction shown with
  | nil => simp
  | cons b shown ih =>
    rw [List.flatMap_cons, List.map_append, List.sum_append, Breakdown.sum_counters,
      hcomplete b List.mem_cons_self, ih fun c hc => hcomplete c (List.mem_cons_of_mem b hc),
      List.length_cons, Nat.add_mul, Nat.one_mul, Nat.add_comm]

theorem Exposition.familyValues_ne_nil (e : Exposition family pages fields) :
    familyValues family fields ≠ [] := by
  intro hnil
  have hfields := List.map_eq_nil_iff.1 hnil
  have hshown := e.fields_perm
  rw [hfields] at hshown
  obtain ⟨b, shown, hcons⟩ := List.exists_cons_of_ne_nil e.shown_nonempty
  have hnone := List.append_eq_nil_iff.1 (List.nil_perm.1 hshown)
  rw [hcons, List.flatMap_cons, List.append_eq_nil_iff] at hnone
  exact b.counters_ne_nil family hnone.1.1

/-- **The total is the number of pages when they are shown in one way.** -/
theorem Exposition.total_iff (e : Exposition family pages fields) :
    U64.total none (familyValues family fields) = some (some pages) ↔ e.Single := by
  have hlength := List.length_pos_iff.2 e.shown_nonempty
  have hothers : (e.others.map fun other => other.2.toNat).sum = 0 ↔
      ∀ other ∈ e.others, other.2 = 0 := by
    rw [List.sum_eq_zero_iff_forall_eq_nat, List.forall_mem_map]
    simp only [← UInt64.toNat_inj]
    rfl
  rw [U64.total_none_iff, and_iff_right e.familyValues_ne_nil, e.sum_familyValues, Single,
    ← hothers, ← UInt64.toNat_inj]
  generalize (e.others.map fun other => other.2.toNat).sum = rest
  obtain ⟨more, hmore⟩ : ∃ more, e.shown.length = more + 1 := ⟨e.shown.length - 1, by omega⟩
  rw [hmore, Nat.add_mul]
  constructor
  · intro h
    have hnone : more * pages.toNat = 0 := by omega
    rcases Nat.mul_eq_zero.1 hnone with hzero | hzero
    · exact ⟨.inr (by omega), by omega⟩
    · exact ⟨.inl hzero, by omega⟩
  · rintro ⟨hzero | hone, hrest⟩
    · have : pages.toNat = 0 := hzero
      simp [this, hrest]
    · have : more = 0 := by omega
      simp [this, hrest]

/-- The counters of a family fit together. -/
def Fits (family : String) (fields : List (String × UInt64)) : Prop :=
  ((familyValues family fields).map UInt64.toNat).sum < 2 ^ 64

/-- A text is parsed when its lines are readable and the totals of its families are there. -/
theorem exists_parse {input : List Char} {scan steal refault : Option UInt64}
    (hread : Readable readLine (lines input))
    (hscan : U64.total none (familyValues "pgscan" (fieldsIn input)) = some scan)
    (hsteal : U64.total none (familyValues "pgsteal" (fieldsIn input)) = some steal)
    (hrefault : U64.total none (familyValues "workingset_refault" (fieldsIn input)) =
      some refault) :
    ∃ r, parse input = .ok r ∧ r.pgscan = scan ∧ r.pgsteal = steal := by
  have hfold := (foldlM_update_eq_ok (s := empty)
    (r := ⟨_, _, _, _, none, scan, steal, refault⟩)).2
      ⟨⟨hscan, hsteal, hrefault⟩, ⟨rfl, rfl, rfl, rfl⟩, rfl⟩
  exact ⟨_, parse_eq_ok.2 ⟨hread, _, hfold, rfl⟩, rfl, rfl⟩

/-- The totals of a text that is parsed. -/
theorem parse_totals {input : List Char} {r : VmStat} (h : parse input = .ok r) :
    U64.total none (familyValues "pgscan" (fieldsIn input)) = some r.pgscan ∧
      U64.total none (familyValues "pgsteal" (fieldsIn input)) = some r.pgsteal := by
  obtain ⟨-, u, hu, rfl⟩ := parse_eq_ok.1 h
  obtain ⟨⟨hscan, hsteal, -⟩, -⟩ := foldlM_update_eq_ok.1 hu
  exact ⟨hscan, hsteal⟩

/-- **When the totals are the numbers of pages.** A kernel that shows them in several ways has them
added up as often, together with whatever else starts like them. -/
theorem reclaim_totals_iff {input : List Char} (hread : Readable readLine (lines input))
    (hrefault : Fits "workingset_refault" (fieldsIn input)) :
    (∀ (pages : UInt64) (e : Exposition "pgscan" pages (fieldsIn input)),
      Fits "pgsteal" (fieldsIn input) →
        ((∃ r, parse input = .ok r ∧ r.pgscan = some pages) ↔ e.Single)) ∧
    ∀ (pages : UInt64) (e : Exposition "pgsteal" pages (fieldsIn input)),
      Fits "pgscan" (fieldsIn input) →
        ((∃ r, parse input = .ok r ∧ r.pgsteal = some pages) ↔ e.Single) := by
  obtain ⟨refault, hrefault⟩ := U64.exists_total hrefault
  constructor
  · intro pages e hsteal
    obtain ⟨steal, hsteal⟩ := U64.exists_total hsteal
    rw [← e.total_iff]
    constructor
    · intro ⟨r, hr, hpages⟩
      exact hpages ▸ (parse_totals hr).1
    · intro hscan
      obtain ⟨r, hr, hpages, -⟩ := exists_parse hread hscan hsteal hrefault
      exact ⟨r, hr, hpages⟩
  · intro pages e hscan
    obtain ⟨scan, hscan⟩ := U64.exists_total hscan
    rw [← e.total_iff]
    constructor
    · intro ⟨r, hr, hpages⟩
      exact hpages ▸ (parse_totals hr).2
    · intro hsteal
      obtain ⟨r, hr, -, hpages⟩ := exists_parse hread hscan hsteal hrefault
      exact ⟨r, hr, hpages⟩

end Totals

/-- A kernel that shows eight scanned pages by who has reclaimed them and by their type. -/
def bothBreakdowns : List Char :=
  ["pgscan_kswapd 3\n", "pgscan_direct 5\n", "pgscan_khugepaged 0\n",
    "pgscan_direct_throttle 1\n", "pgscan_anon 6\n", "pgscan_file 2\n"].flatMap String.toList

theorem fieldsIn_bothBreakdowns : fieldsIn bothBreakdowns =
    [("pgscan_kswapd", 3), ("pgscan_direct", 5), ("pgscan_khugepaged", 0),
      ("pgscan_direct_throttle", 1), ("pgscan_anon", 6), ("pgscan_file", 2)] := by
  decide +kernel

/-- Eight pages, by reclaimer and by type, and one throttling. -/
def bothExposition : Exposition "pgscan" 8 (fieldsIn bothBreakdowns) where
  shown := [.byReclaimer 3 5 0, .byPageType 6 2]
  others := [("pgscan_direct_throttle", 1)]
  shown_nonempty := List.cons_ne_nil _ _
  kinds_distinct := by decide
  shown_complete := by simp [Breakdown.pages]
  others_uncounted := by decide
  fields_perm := by
    rw [fieldsIn_bothBreakdowns]
    decide +kernel

/-- Seventeen pages are reported. -/
theorem both_breakdowns_added :
    Nonempty (Exposition "pgscan" 8 (fieldsIn bothBreakdowns)) ∧
      parse bothBreakdowns = .ok { empty with pgscan := some 17 } :=
  ⟨⟨bothExposition⟩, by decide +kernel⟩

/-- A kernel that shows them by their type only. -/
def oneBreakdown : List Char := "pgscan_anon 6\npgscan_file 2\n".toList

/-- The same pages by type only. -/
def oneExposition : Exposition "pgscan" 8 (fieldsIn oneBreakdown) where
  shown := [.byPageType 6 2]
  others := []
  shown_nonempty := List.cons_ne_nil _ _
  kinds_distinct := by decide
  shown_complete := by simp [Breakdown.pages]
  others_uncounted := by simp
  fields_perm := by
    have hfields : fieldsIn oneBreakdown = [("pgscan_anon", 6), ("pgscan_file", 2)] := by
      decide +kernel
    rw [hfields]
    decide +kernel

/-- Eight pages are reported. -/
theorem one_breakdown_reported :
    ∃ r, parse oneBreakdown = .ok r ∧ r.pgscan = some 8 := by
  have hread : Readable readLine (lines oneBreakdown) := by
    have hlines : lines oneBreakdown = ["pgscan_anon 6".toList, "pgscan_file 2".toList] := by
      decide +kernel
    simp only [Readable, hlines, List.forall_mem_cons]
    exact ⟨⟨some ("pgscan_anon", 6), by decide +kernel⟩,
      ⟨some ("pgscan_file", 2), by decide +kernel⟩, by simp⟩
  have hfits (family : String) (hnone : familyValues family (fieldsIn oneBreakdown) = []) :
      Fits family (fieldsIn oneBreakdown) := by
    simp [Fits, hnone]
  refine ((reclaim_totals_iff hread (hfits _ (by decide +kernel))).1 8 oneExposition
    (hfits _ (by decide +kernel))).2 ⟨.inr rfl, ?_⟩
  simp [oneExposition]

end VmStat

end Nemor.Collector
