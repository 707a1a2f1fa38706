import Nemor.Damos.Shadow

/-!
# DAMOS: events as text

The kernel writes the event of a region in one way. Together with the two formats of the
aggregation events this covers the lines the program reads from the trace: every event that was
written is read back behind any text without its marker, and the text that the tracer puts in
front of an event is such a text, because the name of a task is too short for a marker.
-/

namespace Nemor.Damos

open Fallible MachineNumbers U64 Text

open Damon (AddressRange Numeral TraceRegion aggregatedLine assign notMem_decimal parseAggregated
  positionalTokens rangeToken renderNamed renderPositional splitWhitespace_event word_assign)

/-! ## §1 Writing -/

/-- The tokens of an event. -/
def beforeApplyTokens (event : DamosBeforeApplyEvent) : List (List Char) := [
  assign "ctx_idx" (decimal event.contextIdx.toNat),
  assign "scheme_idx" (decimal event.schemeIdx.toNat),
  assign "target_idx" (decimal event.targetIdx.toNat),
  assign "nr_regions" (decimal event.nrRegions.toNat),
  rangeToken .decimal event.range.start event.range.end_,
  decimal event.nrAccesses.toNat,
  decimal event.age.toNat]

/-- The line of an event behind any front. -/
def beforeApplyLine (front : List Char) (event : DamosBeforeApplyEvent) : List Char :=
  front ++ ("damos_before_apply:".toList ++ ' ' :: unwords (beforeApplyTokens event))

/-- What the tracer writes in front of an event: the name of the task, then its number, the CPU,
    flags and the time. -/
structure TraceHeader where
  task : List Char
  rest : List Char
  /-- The kernel keeps 16 bytes for the name and its end. -/
  short : task.length < 16
  noUnderscore : '_' ∉ rest

/-- The front that the kernel writes. -/
def TraceHeader.text (header : TraceHeader) : List Char := header.task ++ '-' :: header.rest

/-! ## §2 Reading back -/

/-- A named number of 32 bits, read in 64. -/
theorem parseNamed_assign (name : String) (n : UInt32) :
    parseNamed (some (assign name (decimal n.toNat))) name = .ok n.toUInt64 := by
  have hassign : assign name (decimal n.toNat) =
      (name ++ "=").toList ++ decimal n.toUInt64.toNat := by
    simp [assign, String.toList_append]
  simp only [parseNamed, hassign, Option.bind_some, stripPrefix_append, parseU64_decimal, okOr_some]

theorem parseRange_rangeToken (range : AddressRange) :
    parseRange (rangeToken .decimal range.start range.end_) = some range := by
  have hsplit : splitOnce '-' (decimal range.start.toNat ++ '-' :: decimal range.end_.toNat) =
      some (decimal range.start.toNat, decimal range.end_.toNat) :=
    splitOnce_append (notMem_decimal (by decide)) _
  simp only [parseRange, rangeToken, stripSuffix_append, Numeral.write, bind, Option.bind_some,
    hsplit, parseU64_decimal, pure]

theorem parseCounter_decimal (n : UInt64) (name : String) :
    parseCounter (some (decimal n.toNat)) name = .ok n := by
  simp [parseCounter]

theorem beforeApplyTokens_words (event : DamosBeforeApplyEvent) :
    ∀ token ∈ beforeApplyTokens event, Word token := by
  have hassign : ∀ name ∈ ["ctx_idx", "scheme_idx", "target_idx", "nr_regions"],
      ∀ n, Word (assign name (decimal n)) := by
    intro name hname n
    have hsolid : ∀ name ∈ ["ctx_idx", "scheme_idx", "target_idx", "nr_regions"],
        (name.toList.all fun c => !UnixPath.isWhiteSpace c) = true := by decide
    exact word_assign (solid_of_all (hsolid name hname)) (word_decimal n).solid
  simp only [beforeApplyTokens, List.forall_mem_cons]
  exact ⟨hassign _ (by simp) _, hassign _ (by simp) _, hassign _ (by simp) _,
    hassign _ (by simp) _, Damon.word_rangeToken _ _ _, word_decimal _, word_decimal _, by simp⟩

theorem parse_beforeApplyLine {front : List Char}
    (hfront : ¬ "damos_before_apply:".toList <:+: front) {event : DamosBeforeApplyEvent}
    (h : event.range.start < event.range.end_)
    (hsize : event.size = event.range.end_ - event.range.start) :
    parseDamosBeforeApply (beforeApplyLine front event) event.timestampNs = .ok event := by
  have hmarker : "damos_before_apply".toList ++ [':'] = "damos_before_apply:".toList := by decide
  have hbody : ':' ∉ "damos_before_apply".toList := by decide
  have hsplit := splitOnceAt_marker hbody (by rwa [hmarker])
    (' ' :: unwords (beforeApplyTokens event))
  rw [hmarker] at hsplit
  have htokens : splitWhitespace (trim (' ' :: unwords (beforeApplyTokens event))) =
      beforeApplyTokens event := by
    rw [splitWhitespace_trim, splitWhitespace_event (beforeApplyTokens_words event)]
  have hnonempty : refuse (event.range.start ≥ event.range.end_)
      (DamosError.invalid "empty candidate range") = .ok () :=
    refuse_eq_ok.2 (UInt64.not_le.2 h)
  simp only [parseDamosBeforeApply, beforeApplyLine, hsplit, okOr_some, htokens, bind, Except.bind]
  simp [beforeApplyTokens, parseNamed_assign, parseRange_rangeToken, parseCounter_decimal,
    hnonempty, ← hsize, pure, Except.pure]

/-! ## §3 The round trip -/

/-- A marker with an underscore that is as long as the name of a task can be is not in front of
    an event. -/
theorem TraceHeader.notInfix (header : TraceHeader) {marker : List Char}
    (hlong : 16 ≤ marker.length) (hminus : '-' ∉ marker) (hunderscore : '_' ∈ marker) :
    ¬ marker <:+: header.text := by
  intro h
  cases isInfix_append_cons hminus h with
  | inl htask =>
    have hshort := header.short
    have hlength := htask.length_le
    omega
  | inr hrest => exact header.noUnderscore (hrest.subset hunderscore)

/-- **Written events are read back, and what is read has a byte.** A region comes back from both
    formats of an aggregation event, and an event of a scheme from its one format, behind any
    text that does not hold the marker; what a tracer writes in front of an event never does. From
    any line whatever, no event with an empty region is read. -/
theorem trace_roundTrip :
    (∀ front, ¬ "damon_aggregated:".toList <:+: front →
      ∀ region : TraceRegion, region.start < region.end_ →
        (∀ numeral, parseAggregated (aggregatedLine front (renderNamed numeral region)) =
          .ok region) ∧
        ∀ numeral, parseAggregated (aggregatedLine front (renderPositional numeral region)) =
          .ok region) ∧
    (∀ front, ¬ "damos_before_apply:".toList <:+: front →
      ∀ event : DamosBeforeApplyEvent, event.range.start < event.range.end_ →
        event.size = event.range.end_ - event.range.start →
        parseDamosBeforeApply (beforeApplyLine front event) event.timestampNs = .ok event) ∧
    (∀ header : TraceHeader, ¬ "damon_aggregated:".toList <:+: header.text ∧
      ¬ "damos_before_apply:".toList <:+: header.text) ∧
    (∀ line region, parseAggregated line = .ok region → region.start < region.end_) ∧
    ∀ line timestampNs event, parseDamosBeforeApply line timestampNs = .ok event →
      event.range.start < event.range.end_ := by
  -- the renderings first, then what holds of every accepted line
  refine ⟨?_, ?_, ?_, ?_, ?_⟩
  · intro front hfront region hregion
    exact ⟨fun numeral => Damon.parseAggregated_named hfront numeral hregion,
      fun numeral => Damon.parseAggregated_positional hfront numeral hregion⟩
  · intro front hfront event hevent hsize
    exact parse_beforeApplyLine hfront hevent hsize
  · intro header
    exact ⟨header.notInfix (by decide) (by decide) (by decide),
      header.notInfix (by decide) (by decide) (by decide)⟩
  · intro line region h
    exact Damon.start_lt_of_parseAggregated h
  · intro line timestampNs event h
    exact (range_of_parse h).1

end Nemor.Damos
