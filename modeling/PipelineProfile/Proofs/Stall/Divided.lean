import PipelineProfile.Proofs.Trace.LineKind
import PipelineProfile.Summary

/-!
# Stall categories with labels of the simulator

Three stall categories are divided among finer causes by a summary line whose labels are taken as
they are.  (The category `other` has such a line too, but its labels are changed.)  `DividedStall`
is one of the three, with the tag of its line, the key of its total and its figures, so that what
is true of all three has to be said only once.
-/

namespace PipelineProfile

/-- The stall categories whose summary lines have labels that are taken as they are. -/
inductive DividedStall where
  | frontendEmpty
  | decodeBlocked
  | robBackpressure
  deriving DecidableEq, Repr

namespace DividedStall

/-- The tag of the summary line. -/
def tag : DividedStall → Tag
  | frontendEmpty => .frontendEmptySummary
  | decodeBlocked => .decodeBlockedSummary
  | robBackpressure => .robBackpressureSummary

/-- The key of the total. -/
def totalKey : DividedStall → String
  | frontendEmpty => "frontend_empty_total"
  | decodeBlocked => "decode_blocked_total"
  | robBackpressure => "rob_backpressure_total"

/-- The figures of the category. -/
def figures (s : StallFigures) : DividedStall → StallDetail
  | frontendEmpty => s.frontendEmpty
  | decodeBlocked => s.decodeBlocked
  | robBackpressure => s.robBackpressure

/-- What an event says about the category, if it is the summary of it. -/
def summary? : DividedStall → Event → Option StallDetail
  | frontendEmpty => Event.frontendEmptySummary?
  | decodeBlocked => Event.decodeBlockedSummary?
  | robBackpressure => Event.robBackpressureSummary?

variable (stall : DividedStall)

lemma tag_ne_commit : stall.tag ≠ .commit := by cases stall <;> decide

lemma shows_summary? : Event.Shows stall.summary? (.tagged stall.tag) := by
  cases stall
  · exact Event.shows_frontendEmptySummary?
  · exact Event.shows_decodeBlockedSummary?
  · exact Event.shows_robBackpressureSummary?

lemma bind_summary?_ofTagged? (f : Facts) : (Event.ofTagged? stall.tag f).bind stall.summary? =
    some (StallDetail.ofFacts stall.totalKey f) := by
  cases stall <;> rfl

variable {stall}

/-- The last summary of a category gives its figures. -/
lemma figures_of_last? {config : Config} {t : Trace} {d : StallDetail}
    (h : t.last? stall.summary? = some d) : stall.figures (t.stallFigures config) = d := by
  cases stall
  · exact congrArg (t.stallDetail config.replayFullLanes .frontendEmpty) h
  · exact congrArg (t.stallDetail config.replayFullLanes .decodeBlocked) h
  · exact congrArg (t.stallDetail config.replayFullLanes .robBackpressure) h

end DividedStall

end PipelineProfile
