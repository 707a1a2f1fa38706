import Mathlib.Order.Lattice
import Nemor.Lib.Framing

/-!
# DAMON: aggregation windows

The kernel writes one event for each region when an aggregation window ends, and every event of
a window carries the number of its regions. `groupAggregationWindows` cuts the stream of
events into windows again by these numbers alone: it looks neither at the target nor at the
addresses. What it returns of a stream with a gap is therefore decided by the number of regions
of the window behind the gap.
-/

namespace Nemor.Damon

open Framing

/-! ## §1 Grouping -/

/-- What an aggregation event says of a region. -/
structure TraceRegion where
  targetId : UInt64
  nrRegions : UInt32
  start : UInt64
  end_ : UInt64
  nrAccesses : UInt64
  age : UInt64
  deriving DecidableEq

namespace TraceRegion

/-- How many regions its window has. -/
def count (region : TraceRegion) : ℕ := region.nrRegions.toNat

end TraceRegion

/-- `group_aggregation_windows`. -/
def groupAggregationWindows (regions : List TraceRegion) : List (List TraceRegion) :=
  group TraceRegion.count regions

/-- A window with all its regions. -/
structure Complete (window : List TraceRegion) : Prop where
  nonempty : window ≠ []
  counted : ∀ region ∈ window, region.nrRegions.toNat = window.length

/-- The regions come in the order of their addresses and do not overlap. -/
def OrderedDisjoint (window : List TraceRegion) : Prop :=
  window.Pairwise fun a b => a.end_ ≤ b.start

instance (window : List TraceRegion) : Decidable (OrderedDisjoint window) :=
  inferInstanceAs (Decidable (List.Pairwise _ _))

theorem group_complete {windows : List (List TraceRegion)} (h : ∀ w ∈ windows, Complete w) :
    groupAggregationWindows windows.flatten = windows := by
  have hfilter : windows.filter (fun w => !w.isEmpty) = windows := by
    rw [List.filter_eq_self]
    intro w hw
    simp [(h w hw).nonempty]
  rw [groupAggregationWindows, group_flatten TraceRegion.count fun w hw => (h w hw).counted,
    hfilter]

/-- **Grouping inverts flattening**, and from any stream at all it returns slices, each of which is
    a window with as many regions as each of them says. -/
theorem groupAggregationWindows_inverse :
    (∀ windows : List (List TraceRegion), (∀ w ∈ windows, Complete w) →
      groupAggregationWindows windows.flatten = windows) ∧
    ∀ regions : List TraceRegion, Slices regions (groupAggregationWindows regions) ∧
      ∀ w ∈ groupAggregationWindows regions, Complete w := by
  refine ⟨fun windows h => group_complete h, fun regions => ?_⟩
  obtain ⟨hslices, hwindows⟩ := group_slices TraceRegion.count regions
  exact ⟨hslices, fun w hw => ⟨(hwindows w hw).1, (hwindows w hw).2⟩⟩

/-- A region of target 1 with four bytes. -/
def regionAt (nrRegions : UInt32) (start : UInt64) : TraceRegion where
  targetId := 1
  nrRegions := nrRegions
  start := start
  end_ := start + 4
  nrAccesses := 0
  age := 0

theorem groupAggregationWindows_inverse_two :
    groupAggregationWindows [regionAt 2 0, regionAt 2 4, regionAt 1 0] =
      [[regionAt 2 0, regionAt 2 4], [regionAt 1 0]] := by
  apply groupAggregationWindows_inverse.1 [[regionAt 2 0, regionAt 2 4], [regionAt 1 0]]
  intro w hw
  simp only [List.mem_cons, List.not_mem_nil, or_false] at hw
  rcases hw with rfl | rfl <;> exact ⟨by decide, by decide⟩

/-- Two regions that overlap are a window if each says that there are two. -/
theorem groupAggregationWindows_overlapping :
    ∃ w ∈ groupAggregationWindows [regionAt 2 0, regionAt 2 2], ¬ OrderedDisjoint w := by
  decide

/-! ## §2 Streams with a gap -/

/-- What the kernel reports when an aggregation window of a target ends. -/
structure KernelWindow where
  targetId : UInt64
  regions : List TraceRegion
  ofTarget : ∀ region ∈ regions, region.targetId = targetId
  counted : ∀ region ∈ regions, region.nrRegions.toNat = regions.length

/-- A region with the position of its window. -/
structure Event where
  window : ℕ
  region : TraceRegion
  deriving DecidableEq

namespace Event

/-- How many regions the window of an event has. -/
def count (event : Event) : ℕ := event.region.count

end Event

/-- The events of each window, the first of which has number `i`. -/
def eventsFrom (i : ℕ) (windows : List KernelWindow) : List (List Event) :=
  (windows.zipIdx i).map fun (w, k) => w.regions.map (Event.mk k)

/-- What a capture misses: everything before a position, or the event at one. -/
inductive Capture where
  | startingAt (position : ℕ)
  | without (position : ℕ)
  deriving DecidableEq

namespace Capture

/-- Where the gap is. -/
def position : Capture → ℕ
  | startingAt n | without n => n

/-- What a capture with its gap at `offset` keeps of a list. -/
def keep {α : Type} : Capture → ℕ → List α → List α
  | startingAt _, offset, l => l.drop offset
  | without _, offset, l => l.eraseIdx offset

/-- What is left of the events. -/
def stream (capture : Capture) (windows : List KernelWindow) : List Event :=
  capture.keep capture.position (eventsFrom 0 windows).flatten

end Capture

/-- The windows that are returned, with the windows their regions come from. -/
def groupEvents (stream : List Event) : List (List Event) := group Event.count stream

/-- The events are regions of one window, of one target. -/
def FromOneWindow (windows : List KernelWindow) (returned : List Event) : Prop :=
  ∃ i, ∃ w ∈ windows[i]?, ∀ event ∈ returned,
    event.window = i ∧ event.region ∈ w.regions ∧ event.region.targetId = w.targetId

/-- Every window that is returned has regions of one kernel window only. -/
def NeverMixed (windows : List KernelWindow) (capture : Capture) : Prop :=
  ∀ returned ∈ groupEvents (capture.stream windows), FromOneWindow windows returned

/-- The window with the gap is missed or kept as a whole, or the next window that has a region is
    of another length, or there is none. -/
def Resynchronises (windows : List KernelWindow) (capture : Capture) : Prop :=
  ∀ before w later offset, windows = before ++ w :: later → offset < w.regions.length →
    capture.position = (before.flatMap KernelWindow.regions).length + offset →
    capture.keep offset w.regions = [] ∨ capture.keep offset w.regions = w.regions ∨
      ∀ next ∈ later.find? (fun next => !next.regions.isEmpty),
        next.regions.length ≠ w.regions.length

/-! ### Events -/

section Events

variable {i : ℕ} {windows before later : List KernelWindow} {w : KernelWindow}

theorem eventsFrom_append : eventsFrom i (before ++ w :: later) =
    eventsFrom i before ++
      w.regions.map (Event.mk (i + before.length)) :: eventsFrom (i + before.length + 1) later := by
  simp [eventsFrom, List.zipIdx_append, List.zipIdx_cons]

theorem length_eventsFrom :
    (eventsFrom i windows).flatten.length = (windows.flatMap KernelWindow.regions).length := by
  induction windows generalizing i with
  | nil => rfl
  | cons w rest ih =>
    have hrest := @ih (i + 1)
    simp only [eventsFrom, List.zipIdx_cons, List.map_cons, List.flatten_cons, List.length_append,
      List.length_map, List.flatMap_cons] at hrest ⊢
    omega

theorem mem_eventsFrom {returned : List Event} (h : returned ∈ eventsFrom i windows) :
    ∃ (k : ℕ) (w : KernelWindow), windows[k]? = some w ∧
      returned = w.regions.map (Event.mk (i + k)) := by
  simp only [eventsFrom, List.mem_map, Prod.exists,
    List.mk_mem_zipIdx_iff_le_and_getElem?_sub] at h
  obtain ⟨w, k, ⟨hk, hw⟩, rfl⟩ := h
  exact ⟨k - i, w, hw, by rw [Nat.add_sub_cancel' hk]⟩

theorem KernelWindow.count_event {w : KernelWindow} {k : ℕ} {event : Event}
    (h : event ∈ w.regions.map (Event.mk k)) :
    event.window = k ∧ event.count = w.regions.length := by
  obtain ⟨region, hregion, rfl⟩ := List.mem_map.1 h
  exact ⟨rfl, w.counted region hregion⟩

theorem whole_eventsFrom {returned : List Event} (h : returned ∈ eventsFrom i windows) :
    Whole Event.count returned := by
  obtain ⟨k, w, -, rfl⟩ := mem_eventsFrom h
  intro event hevent
  simpa using (w.count_event hevent).2

/-- The events of one window come from it. -/
theorem fromOneWindow_of_mem {returned : List Event} (h : returned ∈ eventsFrom 0 windows) :
    FromOneWindow windows returned := by
  obtain ⟨k, w, hw, rfl⟩ := mem_eventsFrom h
  refine ⟨k, w, hw, fun event hevent => ?_⟩
  obtain ⟨region, hregion, rfl⟩ := List.mem_map.1 hevent
  exact ⟨Nat.zero_add k, hregion, w.ofTarget region hregion⟩

/-- The stream goes on with the events of the next window that has a region. -/
theorem flatten_eventsFrom (i : ℕ) (later : List KernelWindow) :
    (later.find? (fun next => !next.regions.isEmpty) = none ∧ (eventsFrom i later).flatten = []) ∨
    ∃ next j rest, later.find? (fun next => !next.regions.isEmpty) = some next ∧
      next.regions ≠ [] ∧ i ≤ j ∧
      (eventsFrom i later).flatten = next.regions.map (Event.mk j) ++ rest := by
  induction later generalizing i with
  | nil => exact .inl ⟨rfl, rfl⟩
  | cons w later ih =>
    by_cases hempty : w.regions = []
    · have hskip : (eventsFrom i (w :: later)).flatten = (eventsFrom (i + 1) later).flatten := by
        simp [eventsFrom, List.zipIdx_cons, hempty]
      rw [List.find?_cons_of_neg (by simp [hempty]), hskip]
      rcases ih (i + 1) with hnone | ⟨next, j, rest, hnext, hne, hj, hflat⟩
      · exact .inl hnone
      · exact .inr ⟨next, j, rest, hnext, hne, by omega, hflat⟩
    · refine .inr ⟨w, i, (eventsFrom (i + 1) later).flatten, ?_, hempty, Nat.le_refl i, ?_⟩
      · exact List.find?_cons_of_pos (by simpa using hempty)
      · simp [eventsFrom, List.zipIdx_cons]

/-- The first event says how many regions that window has. -/
theorem count_head_eventsFrom {event : Event}
    (h : event ∈ (eventsFrom i later).flatten.head?) :
    ∃ next, later.find? (fun next => !next.regions.isEmpty) = some next ∧
      event.count = next.regions.length := by
  rcases flatten_eventsFrom i later with ⟨-, hnil⟩ | ⟨next, j, rest, hnext, hne, -, hflat⟩
  · simp [hnil] at h
  · rw [hflat, List.head?_append_of_ne_nil _ (by simpa using hne)] at h
    exact ⟨next, hnext, (next.count_event (List.mem_of_mem_head? h)).2⟩

/-- A position in the stream is one in a window. -/
theorem exists_window {n : ℕ} (h : n < (windows.flatMap KernelWindow.regions).length) :
    ∃ before w later offset, windows = before ++ w :: later ∧ offset < w.regions.length ∧
      n = (before.flatMap KernelWindow.regions).length + offset := by
  induction windows generalizing n with
  | nil => simp at h
  | cons w rest ih =>
    by_cases hfirst : n < w.regions.length
    · exact ⟨[], w, rest, n, rfl, hfirst, by simp⟩
    · rw [List.flatMap_cons, List.length_append] at h
      obtain ⟨before, v, later, offset, rfl, hoffset, hn⟩ := @ih (n - w.regions.length) (by omega)
      refine ⟨w :: before, v, later, offset, rfl, hoffset, ?_⟩
      rw [List.flatMap_cons, List.length_append]
      omega

end Events

/-! ### What a capture keeps -/

section Keep

variable {α β : Type} (capture : Capture) (offset : ℕ)

theorem keep_sublist (l : List α) : (capture.keep offset l).Sublist l := by
  cases capture with
  | startingAt => exact List.drop_sublist _ _
  | without => exact List.eraseIdx_sublist _ _

theorem length_keep_lt {capture : Capture} {offset : ℕ} {l : List α}
    (h : capture.keep offset l ≠ l) : (capture.keep offset l).length < l.length := by
  have hsub := keep_sublist capture offset l
  have hne : (capture.keep offset l).length ≠ l.length := fun heq => h (hsub.eq_of_length heq)
  have hle := hsub.length_le
  omega

theorem keep_map (f : α → β) (l : List α) :
    capture.keep offset (l.map f) = (capture.keep offset l).map f := by
  cases capture with
  | startingAt => exact List.map_drop.symm
  | without => simp [Capture.keep, List.eraseIdx_eq_take_drop_succ]

/-- A gap inside a list leaves what comes after it, and what comes before if it is one event. -/
theorem keep_append (a : List (List α)) {b c : List α} (h : offset < b.length) :
    ∃ kept, (kept = [] ∨ kept = a) ∧ capture.keep (a.flatten.length + offset)
      (a.flatten ++ b ++ c) = kept.flatten ++ capture.keep offset b ++ c := by
  cases capture with
  | startingAt =>
    refine ⟨[], .inl rfl, ?_⟩
    simp only [Capture.keep, List.append_assoc, List.drop_length_add_append]
    exact List.drop_append_of_le_length (Nat.le_of_lt h)
  | without =>
    refine ⟨a, .inr rfl, ?_⟩
    simp only [Capture.keep, List.append_assoc]
    rw [List.eraseIdx_append_of_length_le (Nat.le_add_right _ _), Nat.add_sub_cancel_left,
      List.eraseIdx_append_of_lt_length h]

end Keep

/-! ## §3 When windows are mixed -/

section Gap

variable {capture : Capture} {before later : List KernelWindow} {w : KernelWindow} {offset : ℕ}

/-- The stream of a capture with its gap in one window. -/
theorem stream_eq (hoffset : offset < w.regions.length)
    (hposition : capture.position = (before.flatMap KernelWindow.regions).length + offset) :
    ∃ kept, (kept = [] ∨ kept = eventsFrom 0 before) ∧
      capture.stream (before ++ w :: later) =
        kept.flatten ++ (capture.keep offset w.regions).map (Event.mk before.length) ++
          (eventsFrom (before.length + 1) later).flatten := by
  have hlt : offset < (w.regions.map (Event.mk before.length)).length := by simpa using hoffset
  obtain ⟨kept, hkept, heq⟩ := keep_append capture offset (eventsFrom 0 before)
    (c := (eventsFrom (before.length + 1) later).flatten) hlt
  refine ⟨kept, hkept, ?_⟩
  rw [keep_map] at heq
  rw [Capture.stream, eventsFrom_append, hposition, ← @length_eventsFrom 0 before, ← heq]
  simp only [List.flatten_append, List.flatten_cons, Nat.zero_add, List.append_assoc]

/-- What is left of the window with the gap is counted as the window is. -/
theorem count_left {event : Event} {i : ℕ}
    (h : event ∈ (capture.keep offset w.regions).map (Event.mk i)) :
    event.window = i ∧ event.count = w.regions.length :=
  w.count_event (((keep_sublist capture offset _).map _).subset h)

/-- Nothing is mixed when the window with the gap is whole or missing, or is followed by a window
    of another length. -/
theorem mem_eventsFrom_of_returned (hoffset : offset < w.regions.length)
    (hposition : capture.position = (before.flatMap KernelWindow.regions).length + offset)
    (hgap : capture.keep offset w.regions = [] ∨ capture.keep offset w.regions = w.regions ∨
      ∀ next ∈ later.find? (fun next => !next.regions.isEmpty),
        next.regions.length ≠ w.regions.length)
    {returned : List Event} (h : returned ∈ groupEvents (capture.stream (before ++ w :: later))) :
    returned ∈ eventsFrom 0 (before ++ w :: later) := by
  obtain ⟨kept, hkept, heq⟩ := @stream_eq capture before later w offset hoffset hposition
  have hevents : eventsFrom 0 (before ++ w :: later) = eventsFrom 0 before ++
      w.regions.map (Event.mk before.length) :: eventsFrom (before.length + 1) later := by
    rw [eventsFrom_append, Nat.zero_add]
  have hwhole : ∀ v ∈ eventsFrom 0 (before ++ w :: later), Whole Event.count v :=
    fun v hv => whole_eventsFrom hv
  have hin : ∀ v ∈ kept ++ eventsFrom (before.length + 1) later,
      v ∈ eventsFrom 0 (before ++ w :: later) := by
    rw [hevents]
    rcases hkept with rfl | rfl <;> grind
  rw [groupEvents, heq] at h
  by_cases hmissing : capture.keep offset w.regions = []
  · -- the window has no event in the stream
    apply hin
    apply mem_of_mem_group Event.count fun v hv => hwhole v (hin v hv)
    simpa [hmissing] using h
  · by_cases hkeeps : capture.keep offset w.regions = w.regions
    · -- the window is one of those that are found again
      have hin' : ∀ v ∈ kept ++
          w.regions.map (Event.mk before.length) :: eventsFrom (before.length + 1) later,
          v ∈ eventsFrom 0 (before ++ w :: later) := by
        rw [hevents] at hin ⊢
        grind
      apply hin'
      apply mem_of_mem_group Event.count fun v hv => hwhole v (hin' v hv)
      simpa [hkeeps] using h
    · -- a part of the window is left, and the next event does not go on from it
      have hother : ∀ event ∈ (eventsFrom (before.length + 1) later).flatten.head?,
          event.count ≠ w.regions.length := by
        intro event hevent
        obtain ⟨next, hnext, hcount⟩ := count_head_eventsFrom hevent
        rw [hcount]
        exact (hgap.resolve_left hmissing).resolve_left hkeeps next hnext
      rw [group_resync Event.count (fun v hv => hwhole v (hin v (by simp [hv])))
        (fun v hv => hwhole v (hin v (by simp [hv]))) (fun event hevent => (count_left hevent).2)
        (by simpa using hmissing) (by simpa using length_keep_lt hkeeps) hother] at h
      exact hin _ (List.mem_of_mem_filter h)

/-- What is left of a window is completed from the next one, if that has the same length. -/
theorem mixed_of_same (hoffset : offset < w.regions.length)
    (hposition : capture.position = (before.flatMap KernelWindow.regions).length + offset)
    (hleft : capture.keep offset w.regions ≠ [])
    (hkeeps : capture.keep offset w.regions ≠ w.regions)
    {next : KernelWindow} (hnext : later.find? (fun next => !next.regions.isEmpty) = some next)
    (hsame : next.regions.length = w.regions.length) :
    ¬ NeverMixed (before ++ w :: later) capture := by
  intro hnever
  obtain ⟨kept, hkept, heq⟩ := @stream_eq capture before later w offset hoffset hposition
  have hwhole : ∀ v ∈ kept, Whole Event.count v := by
    intro v hv
    rcases hkept with rfl | rfl
    · simp at hv
    · exact whole_eventsFrom hv
  have hlt := length_keep_lt hkeeps
  rcases flatten_eventsFrom (before.length + 1) later with
    ⟨hnone, -⟩ | ⟨_, j, rest, hfind, -, hj, hflat⟩
  · simp [hnone] at hnext
  rw [hnext] at hfind
  cases hfind
  have hleft_mem : ∀ event ∈ (capture.keep offset w.regions).map (Event.mk before.length),
      event.window = before.length ∧ event.count = w.regions.length :=
    fun event hevent => count_left hevent
  have hnext_mem : ∀ event ∈ next.regions.map (Event.mk j),
      event.window = j ∧ event.count = w.regions.length :=
    fun event hevent => hsame ▸ next.count_event hevent
  have hreturned := mem_group_of_same Event.count hwhole (fun event h => (hleft_mem event h).2)
    (by simpa using hleft) (by simpa using hlt) (fun event h => (hnext_mem event h).2)
    (by simpa using hsame) rest
  rw [← hflat, ← heq] at hreturned
  -- the window that is returned has a region of each of the two
  obtain ⟨i, _, -, hone⟩ := hnever _ hreturned
  have hfirst : before.length = i := by
    obtain ⟨region, hregion⟩ := List.exists_mem_of_ne_nil _ hleft
    exact (hone _ (List.mem_append_left _ (List.mem_map_of_mem hregion))).1
  have hsecond : j = i := by
    have htake : (next.regions.map (Event.mk j)).take (w.regions.length -
        ((capture.keep offset w.regions).map (Event.mk before.length)).length) ≠ [] := by
      apply List.ne_nil_of_length_pos
      simp only [List.length_take, List.length_map]
      omega
    obtain ⟨event, hevent⟩ := List.exists_mem_of_ne_nil _ htake
    rw [← (hnext_mem event (List.mem_of_mem_take hevent)).1]
    exact (hone _ (List.mem_append_right _ hevent)).1
  omega

/-- A capture that resynchronises never mixes windows. -/
theorem neverMixed_of_resynchronises {windows : List KernelWindow}
    (hresync : Resynchronises windows capture) : NeverMixed windows capture := by
  intro returned hreturned
  apply fromOneWindow_of_mem
  by_cases hinside : capture.position < (windows.flatMap KernelWindow.regions).length
  · obtain ⟨before, w, later, offset, rfl, hoffset, hposition⟩ := exists_window hinside
    exact mem_eventsFrom_of_returned hoffset hposition
      (hresync before w later offset rfl hoffset hposition) hreturned
  · -- the gap is behind the last event
    have hstream : capture.stream windows = [] ∨
        capture.stream windows = (eventsFrom 0 windows).flatten := by
      rw [← @length_eventsFrom 0 windows, not_lt] at hinside
      cases capture with
      | startingAt => exact .inl (List.drop_of_length_le hinside)
      | without => exact .inr (List.eraseIdx_of_length_le hinside)
    rw [groupEvents] at hreturned
    rcases hstream with hnil | hall
    · simp [hnil, group, Grouping.fresh] at hreturned
    · rw [hall] at hreturned
      exact mem_of_mem_group Event.count (fun v hv => whole_eventsFrom hv) hreturned

end Gap

/-- **Windows stay apart exactly when the capture resynchronises at once**: the window with the gap
    is missed or kept as a whole, or the next window has another length. -/
theorem neverMixed_iff (windows : List KernelWindow) (capture : Capture) :
    NeverMixed windows capture ↔ Resynchronises windows capture := by
  constructor
  · rintro hnever before w later offset rfl hoffset hposition
    by_contra hgap
    simp only [not_or, not_forall, not_not] at hgap
    obtain ⟨hleft, hkeeps, next, hnext, hsame⟩ := hgap
    exact mixed_of_same hoffset hposition hleft hkeeps hnext hsame hnever
  · exact neverMixed_of_resynchronises

/-- Two windows of one target with two regions each. -/
def twoPairs : List KernelWindow :=
  [⟨1, [regionAt 2 0, regionAt 2 4], by decide, by decide⟩,
    ⟨1, [regionAt 2 0, regionAt 2 4], by decide, by decide⟩]

/-- When the first of four events is missed, the second and the third make a window. -/
theorem neverMixed_equal_lengths : ¬ NeverMixed twoPairs (.startingAt 1) := by
  intro h
  have hreturned : [Event.mk 0 (regionAt 2 4), Event.mk 1 (regionAt 2 0)] ∈
      groupEvents (Capture.stream (.startingAt 1) twoPairs) := by decide
  obtain ⟨i, _, -, hone⟩ := h _ hreturned
  have hfirst := (hone ⟨0, regionAt 2 4⟩ (by simp)).1
  have hsecond := (hone ⟨1, regionAt 2 0⟩ (by simp)).1
  exact absurd (hfirst.trans hsecond.symm) (by decide)

/-! ## §4 The captured regions -/

/-- Grouping does not see where the regions come from. -/
theorem groupEvents_regions (stream : List Event) :
    groupAggregationWindows (stream.map Event.region) =
      (groupEvents stream).map (List.map Event.region) :=
  group_map TraceRegion.count Event.region stream

/-- From the regions of a capture that resynchronises, each window that is returned has regions of
    one kernel window only. -/
theorem groupAggregationWindows_stream {windows : List KernelWindow} {capture : Capture}
    (hresync : Resynchronises windows capture) {returned : List TraceRegion}
    (h : returned ∈ groupAggregationWindows ((capture.stream windows).map Event.region)) :
    ∃ w ∈ windows, ∀ region ∈ returned, region ∈ w.regions := by
  rw [groupEvents_regions] at h
  obtain ⟨events, hevents, rfl⟩ := List.mem_map.1 h
  obtain ⟨i, w, hw, hone⟩ := neverMixed_of_resynchronises hresync events hevents
  refine ⟨w, List.mem_of_getElem? hw, fun region hregion => ?_⟩
  obtain ⟨event, hevent, rfl⟩ := List.mem_map.1 hregion
  exact (hone event hevent).2.1

end Nemor.Damon
