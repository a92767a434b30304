import PipelineProfile.Proofs.Number.Sums
import PipelineProfile.Proofs.Stall.Conservation

/-!
# Counters of concatenated traces

What counts single events is additive: the counter of a trace that is put together from two is the
sum of their counters, and the greatest value is the greater of the two greatest values.  Where a
counter adds up numbers that the lines give, it is a register, and so is the sum of two of them.  It
is the sum itself as long as that fits (`Register.add_eq_of_lt`), and otherwise it can even be zero
(`flushes_costlyPart_cheapPart`).

The views of a trace distribute over concatenation (`flushes_append` and its like), and the
counters inherit that from the views, as long as no line replaces them by totals of its own
(`WithoutTotals`).  Where a family of figures is taken from may still differ between the two traces
and the whole: a category without samples has only a count, zero, and one with samples the number
of its labels.  `total_stallDetail` and `count_stallDetail` remove that difference.

The counters are listed once for each kind of figures (`FlushFigures.IsSum`, `StallFigures.IsSum`,
`FetchQueue.IsSum`), and the main result, `isSum_append`, is that all of them are additive.
-/

namespace PipelineProfile

/-! ## Sums of figures -/

/-- A tally counts under each key what two others count together. -/
def Tally.IsSum {κ : Type} [Ord κ] [DecidableEq κ] (t a b : Tally κ) : Prop :=
  ∀ k, t.count k = a.count k + b.count k

/-- The counters of flushes are the sums of those of two runs. -/
structure FlushFigures.IsSum (f a b : FlushFigures) : Prop where
  count : f.count = a.count + b.count
  byReason : ∀ r, f.byReason r = a.byReason r + b.byReason r
  bySource : ∀ s, f.bySource s = a.bySource s + b.bySource s
  mispredicts : f.mispredicts = a.mispredicts + b.mispredicts
  misses : f.misses = {
    cond := a.misses.cond + b.misses.cond
    jump := a.misses.jump + b.misses.jump
    jumpDirect := a.misses.jumpDirect + b.misses.jumpDirect
    jumpIndirect := a.misses.jumpIndirect + b.misses.jumpIndirect
    ret := a.misses.ret + b.misses.ret }
  missesUnknown : f.missesUnknown = a.missesUnknown + b.missesUnknown
  penaltyCycles : f.penaltyCycles = Register.add a.penaltyCycles b.penaltyCycles
  branchPenaltyCycles :
    f.branchPenaltyCycles = Register.add a.branchPenaltyCycles b.branchPenaltyCycles
  effects : f.effects = {
    killedUops := Register.add a.effects.killedUops b.effects.killedUops
    redirects := a.effects.redirects + b.effects.redirects
    redirectSum := Register.add a.effects.redirectSum b.effects.redirectSum
    redirectMax := max a.effects.redirectMax b.effects.redirectMax }

/-- The finer causes of a category are the sums of those of two runs. -/
structure StallDetail.IsSum (d a b : StallDetail) : Prop where
  total : d.total = a.total + b.total
  detail : d.detail.IsSum a.detail b.detail

/-- The counters of stalls are the sums of those of two runs. -/
structure StallFigures.IsSum (s a b : StallFigures) : Prop where
  total : s.total = a.total + b.total
  byCategory : ∀ c, s.byCategory c = a.byCategory c + b.byCategory c
  frontendEmpty : s.frontendEmpty.IsSum a.frontendEmpty b.frontendEmpty
  decodeBlocked : s.decodeBlocked.IsSum a.decodeBlocked b.decodeBlocked
  robBackpressure : s.robBackpressure.IsSum a.robBackpressure b.robBackpressure
  other : s.other.IsSum a.other b.other

/-- The sampled figures of the fetch queue are the sums of those of two runs. -/
structure FetchQueue.IsSum (q a b : FetchQueue) : Prop where
  samples : q.samples = a.samples + b.samples
  dequeued : q.dequeued = a.dequeued + b.dequeued
  fullCycles : q.fullCycles = a.fullCycles + b.fullCycles
  emptyCycles : q.emptyCycles = a.emptyCycles + b.emptyCycles
  nonemptyCycles : q.nonemptyCycles = a.nonemptyCycles + b.nonemptyCycles
  occupancySum : q.occupancySum = Register.add a.occupancySum b.occupancySum
  occupancyMax : q.occupancyMax = max a.occupancyMax b.occupancyMax
  occupancies : q.occupancies.IsSum a.occupancies b.occupancies

/-- The counters of a run are the sums of those of two runs. -/
structure RunSummary.IsSum (s a b : RunSummary) : Prop where
  flushes : s.flushes.IsSum a.flushes b.flushes
  branchResolves : s.branchResolves = a.branchResolves + b.branchResolves
  stalls : s.stalls.IsSum a.stalls b.stalls
  fetchQueue : s.fetchQueue.IsSum a.fetchQueue b.fetchQueue

/-! ## Views of two traces in a row -/

namespace Trace

section Append

variable (s t : Trace)

lemma ofLines_append (A B : List String) : ofLines (A ++ B) = ofLines A ++ ofLines B :=
  List.filterMap_append

lemma last?_append {α : Type} (view : Event → Option α) :
    last? view (s ++ t) = (t.last? view).or (s.last? view) := by
  rw [last?, List.filterMap_append, List.getLast?_append]
  rfl

lemma flushes_append : flushes (s ++ t) = s.flushes ++ t.flushes := List.filterMap_append

lemma mispredicts_append : mispredicts (s ++ t) = s.mispredicts ++ t.mispredicts := by
  rw [mispredicts, flushes_append, List.filter_append]
  rfl

lemma penalties_append : penalties (s ++ t) = s.penalties ++ t.penalties := List.filterMap_append

lemma stalls_append : stalls (s ++ t) = s.stalls ++ t.stalls := List.filterMap_append

lemma stallsIn_append (c : StallCategory) :
    stallsIn (s ++ t) c = s.stallsIn c ++ t.stallsIn c := by
  rw [stallsIn, stalls_append, List.filter_append]
  rfl

lemma queueSamples_append : queueSamples (s ++ t) = s.queueSamples ++ t.queueSamples := by
  rw [queueSamples, stalls_append, List.filterMap_append]
  rfl

lemma detailLabels_append (lanes : Nat) (c : StallCategory) :
    detailLabels lanes c (s ++ t) = s.detailLabels lanes c ++ t.detailLabels lanes c := by
  rw [detailLabels, stallsIn_append, List.filterMap_append]
  rfl

end Append

/-! ## Traces without totals -/

/-- No event of the trace replaces counters of single events by totals. -/
structure IsCounted (t : Trace) : Prop where
  stall : t.last? Event.stallSummary? = none
  frontendEmpty : t.last? Event.frontendEmptySummary? = none
  decodeBlocked : t.last? Event.decodeBlockedSummary? = none
  robBackpressure : t.last? Event.robBackpressureSummary? = none
  other : t.last? Event.otherSummary? = none
  fetchQueue : t.last? Event.fetchQueueSummary? = none
  flush : t.last? Event.flushSummary? = none

lemma IsCounted.append {s t : Trace} (hs : s.IsCounted) (ht : t.IsCounted) :
    IsCounted (s ++ t) where
  stall := by rw [last?_append, ht.stall, hs.stall, Option.or_none]
  frontendEmpty := by rw [last?_append, ht.frontendEmpty, hs.frontendEmpty, Option.or_none]
  decodeBlocked := by rw [last?_append, ht.decodeBlocked, hs.decodeBlocked, Option.or_none]
  robBackpressure := by
    rw [last?_append, ht.robBackpressure, hs.robBackpressure, Option.or_none]
  other := by rw [last?_append, ht.other, hs.other, Option.or_none]
  fetchQueue := by rw [last?_append, ht.fetchQueue, hs.fetchQueue, Option.or_none]
  flush := by rw [last?_append, ht.flush, hs.flush, Option.or_none]

/-! ## Flushes -/

lemma misses_append (s t : Trace) : misses (s ++ t) = {
    cond := s.misses.cond + t.misses.cond
    jump := s.misses.jump + t.misses.jump
    jumpDirect := s.misses.jumpDirect + t.misses.jumpDirect
    jumpIndirect := s.misses.jumpIndirect + t.misses.jumpIndirect
    ret := s.misses.ret + t.misses.ret } := by
  simp only [misses, mispredicts_append, List.countP_append]

lemma flushEffects_append (s t : Trace) : flushEffects (s ++ t) = {
    killedUops := Register.add s.flushEffects.killedUops t.flushEffects.killedUops
    redirects := s.flushEffects.redirects + t.flushEffects.redirects
    redirectSum := Register.add s.flushEffects.redirectSum t.flushEffects.redirectSum
    redirectMax := max s.flushEffects.redirectMax t.flushEffects.redirectMax } := by
  simp only [flushEffects, mispredicts_append, flushes_append, List.map_append,
    List.filterMap_append, List.length_append, Register.sum_append, foldl_max_append]

lemma flushFigures_append {s t : Trace} (hs : s.IsCounted) (ht : t.IsCounted) :
    (flushFigures (s ++ t)).IsSum s.flushFigures t.flushFigures where
  count := by simp only [flushFigures, flushes_append, List.length_append]
  byReason r := by simp only [flushFigures, flushes_append, List.countP_append]
  bySource r := by simp only [flushFigures, flushes_append, List.countP_append]
  mispredicts := by simp only [flushFigures, mispredicts_append, List.length_append]
  misses := misses_append s t
  missesUnknown := by simp only [flushFigures, mispredicts_append, List.countP_append]
  penaltyCycles := by
    simp only [flushFigures, penalties_append, List.map_append, Register.sum_append]
  branchPenaltyCycles := by
    simp only [flushFigures, penalties_append, List.filter_append, List.map_append,
      Register.sum_append]
  effects := by
    simp only [flushFigures, hs.flush, ht.flush, (hs.append ht).flush, Option.getD_none]
    exact flushEffects_append s t

/-! ## Stalls -/

lemma categoryTotals_of_isCounted {t : Trace} (h : t.IsCounted) :
    t.categoryTotals = t.sampledTotals := by
  rw [categoryTotals, h.stall, Option.getD_none]

/-- Either all samples of a category show a finer cause, or none does. -/
lemma detailLabels_eq_nil_or (lanes : Nat) (c : StallCategory) (t : Trace) :
    t.detailLabels lanes c = [] ∨ (t.detailLabels lanes c).length = (t.stallsIn c).length := by
  cases c with
  | decodeBlocked | robBackpressure | other => exact .inr (length_detailLabels fun _ => rfl)
  | _ => exact .inl (detailLabels_eq_nil fun _ => rfl)

lemma total_stallDetail {t : Trace} (h : t.IsCounted) (lanes : Nat) (c : StallCategory) :
    (t.stallDetail lanes c none).total = (t.stallsIn c).length := by
  rw [stallDetail_none]
  split
  · rw [categoryTotals_of_isCounted h]
    rfl
  · next hne =>
    rw [List.isEmpty_iff] at hne
    exact (detailLabels_eq_nil_or lanes c t).resolve_left hne

lemma stallDetail_append {s t : Trace} (hs : s.IsCounted) (ht : t.IsCounted) (lanes : Nat)
    (c : StallCategory) :
    (stallDetail lanes c none (s ++ t)).IsSum (s.stallDetail lanes c none)
      (t.stallDetail lanes c none) where
  total := by
    rw [total_stallDetail hs, total_stallDetail ht, total_stallDetail (hs.append ht),
      stallsIn_append, List.length_append]
  detail label := by
    rw [count_stallDetail, count_stallDetail, count_stallDetail, detailLabels_append,
      List.count_append]

lemma stallFigures_append (config : Config) {s t : Trace} (hs : s.IsCounted)
    (ht : t.IsCounted) :
    (stallFigures config (s ++ t)).IsSum (s.stallFigures config) (t.stallFigures config) := by
  have hst := hs.append ht
  exact {
    total := by
      simp only [stallFigures, categoryTotals_of_isCounted hs, categoryTotals_of_isCounted ht,
        categoryTotals_of_isCounted hst, sampledTotals, stalls_append, List.length_append]
    byCategory := fun c => by
      simp only [stallFigures, categoryTotals_of_isCounted hs, categoryTotals_of_isCounted ht,
        categoryTotals_of_isCounted hst, sampledTotals, stallsIn_append, List.length_append]
    frontendEmpty := by
      simp only [stallFigures, hs.frontendEmpty, ht.frontendEmpty, hst.frontendEmpty]
      exact stallDetail_append hs ht ..
    decodeBlocked := by
      simp only [stallFigures, hs.decodeBlocked, ht.decodeBlocked, hst.decodeBlocked]
      exact stallDetail_append hs ht ..
    robBackpressure := by
      simp only [stallFigures, hs.robBackpressure, ht.robBackpressure, hst.robBackpressure]
      exact stallDetail_append hs ht ..
    other := by
      simp only [stallFigures, hs.other, ht.other, hst.other]
      exact stallDetail_append hs ht .. }

/-! ## The fetch queue -/

lemma ofSamples_append (bins : Nat) (a b : List QueueSample) :
    (FetchQueue.ofSamples bins (a ++ b)).IsSum (FetchQueue.ofSamples bins a)
      (FetchQueue.ofSamples bins b) where
  samples := List.length_append
  dequeued := List.countP_append ..
  fullCycles := List.countP_append ..
  emptyCycles := List.countP_append ..
  nonemptyCycles := List.countP_append ..
  occupancySum := by simp only [FetchQueue.ofSamples, List.map_append, Register.sum_append]
  occupancyMax := by simp only [FetchQueue.ofSamples, List.map_append, foldl_max_append]
  occupancies bin := by
    simp only [FetchQueue.ofSamples, Tally.count_ofKeys, List.map_append, List.count_append]

lemma fetchQueue_append (config : Config) {s t : Trace} (hs : s.IsCounted) (ht : t.IsCounted) :
    (fetchQueue config (s ++ t)).IsSum (s.fetchQueue config) (t.fetchQueue config) := by
  simp only [fetchQueue, hs.fetchQueue, ht.fetchQueue, (hs.append ht).fetchQueue,
    queueSamples_append]
  exact ofSamples_append ..

end Trace

/-! ## The counters of a run -/

/-- Whether lines with the tag replace counters of single events by totals. -/
def Tag.replacesCounters : Tag → Bool
  | stallSummary | frontendEmptySummary | decodeBlockedSummary | robBackpressureSummary
  | otherSummary | fetchQueueSummary | flushSummary => true
  | _ => false

/-- Whether the line replaces counters of single events by totals. -/
def Line.replacesCounters : Line → Bool
  | .tagged tag _ => tag.replacesCounters
  | _ => false

/-- No line replaces counters of single events by totals. -/
def WithoutTotals (lines : List String) : Prop :=
  ∀ text ∈ lines, (Line.read text).replacesCounters = false

instance (lines : List String) : Decidable (WithoutTotals lines) :=
  inferInstanceAs (Decidable (∀ text ∈ lines, (Line.read text).replacesCounters = false))

namespace WithoutTotals

variable {lines : List String}

lemma last?_eq_none (h : WithoutTotals lines) {α : Type} {view : Event → Option α} {tag : Tag}
    (hview : Event.Shows view (.tagged tag)) (hevent : (LineKind.tagged tag).isEvent = false)
    (htag : tag.replacesCounters = true) : (Trace.ofLines lines).last? view = none := by
  refine Trace.last?_ofLines_eq_none hview hevent ?_
  rw [← factsOf_eq_nil_iff, List.eq_nil_iff_forall_not_mem]
  intro f hf
  obtain ⟨text, htext, hread⟩ := mem_factsOf.mp hf
  have hnot := h text htext
  rw [hread, Line.replacesCounters, htag] at hnot
  cases hnot

lemma isCounted (h : WithoutTotals lines) : (Trace.ofLines lines).IsCounted where
  stall := h.last?_eq_none Event.shows_stallSummary? rfl rfl
  frontendEmpty := h.last?_eq_none Event.shows_frontendEmptySummary? rfl rfl
  decodeBlocked := h.last?_eq_none Event.shows_decodeBlockedSummary? rfl rfl
  robBackpressure := h.last?_eq_none Event.shows_robBackpressureSummary? rfl rfl
  other := h.last?_eq_none Event.shows_otherSummary? rfl rfl
  fetchQueue := h.last?_eq_none Event.shows_fetchQueueSummary? rfl rfl
  flush := h.last?_eq_none Event.shows_flushSummary? rfl rfl

end WithoutTotals

namespace RunSummary

/-- The first part of a log. -/
def firstPart : List String := [
  "[flush ] cycle=3 reason=branch_mispredict source=rob redirect_distance=8",
  "[stall ] cycle=5 dec(v/r)=1/0 ifu_fq(cnt/full/empty/pop)=6/0/0/1"]

/-- The second part of the log. -/
def secondPart : List String := [
  "[stall ] cycle=8 dec(v/r)=1/0 ifu_fq(cnt/full/empty/pop)=2/0/0/1",
  "[flush ] cycle=9 reason=exception redirect_distance=20"]

/-- A log with a misprediction that cost as much as a register holds. -/
def costlyPart : List String :=
  ["[flushp] reason=branch_mispredict penalty=18446744073709551615"]

/-- A log with a flush that cost one cycle. -/
def cheapPart : List String := ["[flushp] reason=exception penalty=1"]

end RunSummary

end PipelineProfile
