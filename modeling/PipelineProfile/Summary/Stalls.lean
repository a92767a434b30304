import PipelineProfile.Config
import PipelineProfile.Trace

/-!
# Stalls of a run

The cycles without retirement by category, and for four of the categories by finer cause. Each
of these breakdowns has its own source: its summary line, the samples of the category, or
neither, in which case only the total of the category is known.
-/

namespace PipelineProfile

/-- The stalls of a run. -/
structure StallFigures where
  total : Nat
  byCategory : StallCategory → Nat
  frontendEmpty : StallDetail
  decodeBlocked : StallDetail
  robBackpressure : StallDetail
  other : StallDetail
  otherAux : Tally String
  /-- For how many cycles after a flush a blocked decode belongs to it. -/
  window : Nat
  blockedSamples : Nat
  blockedAfterFlush : Nat
  blockedAfterMispredict : Nat

namespace StallFigures

/-- The share of samples of a blocked decode that come shortly after a flush. -/
def afterFlushRatio (s : StallFigures) : Float :=
  Binary64.ratio s.blockedAfterFlush s.blockedSamples

/-- The share of samples of a blocked decode that come shortly after a corrected misprediction. -/
def afterMispredictRatio (s : StallFigures) : Float :=
  Binary64.ratio s.blockedAfterMispredict s.blockedSamples

end StallFigures

namespace Trace

/-- The stall samples by category. -/
def sampledTotals (t : Trace) : CategoryTotals where
  total := t.stalls.length
  count c := (t.stallsIn c).length

/-- The stalls by category. -/
def categoryTotals (t : Trace) : CategoryTotals :=
  (t.last? Event.stallSummary?).getD t.sampledTotals

/-- The labels of the finer causes that the samples of a category show. -/
def detailLabels (lanes : Nat) (c : StallCategory) (t : Trace) : List String :=
  (t.stallsIn c).filterMap fun s => c.detail? lanes s.probe

/-- The finer causes of a category, given what its summary line says. -/
def stallDetail (lanes : Nat) (c : StallCategory) (summary : Option StallDetail) (t : Trace) :
    StallDetail :=
  match summary with
  | some detail => detail
  | none =>
    match t.detailLabels lanes c with
    | [] => ⟨t.categoryTotals.count c, Tally.empty⟩
    | labels => ⟨labels.length, Tally.ofKeys labels⟩

/-- The finer causes of a category without a summary line of its own. -/
theorem stallDetail_none (lanes : Nat) (c : StallCategory) (t : Trace) :
    t.stallDetail lanes c none =
      if (t.detailLabels lanes c).isEmpty then ⟨t.categoryTotals.count c, Tally.empty⟩
      else ⟨(t.detailLabels lanes c).length, Tally.ofKeys (t.detailLabels lanes c)⟩ := by
  rw [stallDetail]
  cases t.detailLabels lanes c with
  | nil => rfl
  | cons _ _ => rfl

/-- The stalls of the run. -/
def stallFigures (config : Config) (t : Trace) : StallFigures :=
  let lanes := config.replayFullLanes
  let totals := t.categoryTotals
  { total := totals.total
    byCategory := totals.count
    frontendEmpty := t.stallDetail lanes .frontendEmpty (t.last? Event.frontendEmptySummary?)
    decodeBlocked := t.stallDetail lanes .decodeBlocked (t.last? Event.decodeBlockedSummary?)
    robBackpressure := t.stallDetail lanes .robBackpressure (t.last? Event.robBackpressureSummary?)
    other := t.stallDetail lanes .other (t.last? Event.otherSummary?)
    otherAux := (t.last? Event.otherAuxSummary?).getD Tally.empty
    window := config.postFlushWindow
    blockedSamples := (t.stallsIn .decodeBlocked).length
    blockedAfterFlush := t.blockedAfterFlush config.postFlushWindow
    blockedAfterMispredict := t.blockedAfterMispredict config.postFlushWindow }

end Trace

end PipelineProfile
