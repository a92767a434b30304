import PipelineProfile.Event
import PipelineProfile.Metric

/-!
# Traces

A trace is the list of its events. Everything a profile says about a run is a function of that
list, and almost everything of one of two views of it. Lines about the run as a whole are
printed again whenever the simulator has newer figures, so of each kind the last one counts
(`Trace.last?`). Lines about single events are collected (`List.filterMap`).

One figure depends on how events of different kinds follow one another: how many samples of a
blocked decode come shortly after a flush (`Trace.blockedAfterFlush`). For it a trace is read
from the front with the cycle of the last flush in mind.
-/

namespace PipelineProfile

/-- The events of a run, in the order of their lines. -/
abbrev Trace := List Event

namespace Trace

/-- The events on some lines. -/
def ofLines (lines : List String) : Trace :=
  lines.filterMap fun text => Event.ofLine? (Line.read text)

/-! ## The two views -/

/-- The last of the events of one kind. -/
def last? {α : Type} (kind : Event → Option α) (t : Trace) : Option α :=
  (t.filterMap kind).getLast?

/-- The retired instructions. -/
def commits (t : Trace) : List Commit := t.filterMap Event.commit?

/-- The flushes. -/
def flushes (t : Trace) : List Flush := t.filterMap Event.flush?

/-- The flushes that corrected mispredictions. -/
def mispredicts (t : Trace) : List Flush := t.flushes.filter Flush.isMispredict

/-- What the flushes cost. -/
def penalties (t : Trace) : List FlushPenalty := t.filterMap Event.flushPenalty?

/-- The stall samples. -/
def stalls (t : Trace) : List StallSample := t.filterMap Event.stall?

/-- The stall samples of one category. -/
def stallsIn (t : Trace) (c : StallCategory) : List StallSample :=
  t.stalls.filter fun s => s.category = c

/-- The samples of the fetch queue. -/
def queueSamples (t : Trace) : List QueueSample := t.stalls.filterMap StallSample.queue

/-! ## Stalls after flushes -/

/-- A trace read up to some event: the cycle of the last flush that carries one, and how many
samples of a blocked decode came shortly after the last flush before them. -/
structure Recency where
  flushed : Option Nat
  blocked : Nat

/-- Read one more event, with regard to the flushes that `counts` selects. -/
def Recency.next (counts : Flush → Bool) (window : Nat) (r : Recency) : Event → Recency
  | .flush f => if counts f then { r with flushed := f.cycle.or r.flushed } else r
  | .stall s =>
    if s.isBlockedAfter window r.flushed then { r with blocked := r.blocked + 1 } else r
  | _ => r

/-- How many samples of a blocked decode come at most `window` cycles after the last flush
before them, with regard to the flushes that `counts` selects. -/
def blockedAfter (counts : Flush → Bool) (window : Nat) (t : Trace) : Nat :=
  (t.foldl (Recency.next counts window) ⟨none, 0⟩).blocked

/-- How many samples of a blocked decode come shortly after a flush. -/
def blockedAfterFlush (window : Nat) (t : Trace) : Nat := t.blockedAfter (fun _ => true) window

/-- How many samples of a blocked decode come shortly after a corrected misprediction. -/
def blockedAfterMispredict (window : Nat) (t : Trace) : Nat :=
  t.blockedAfter Flush.isMispredict window

/-! ## Sources -/

/-- Whether there are summary lines for a family. -/
def hasSummary (t : Trace) : MetricFamily → Bool
  | .commit => (t.last? Event.commitSummary?).isSome
  | .control => (t.last? Event.controlSummary?).isSome
  | .hotspot => (t.last? Event.hotPcs?).isSome || (t.last? Event.hotInsts?).isSome
  | .stall => (t.last? Event.stallSummary?).isSome
  | .frontendEmptyDetail => (t.last? Event.frontendEmptySummary?).isSome
  | .decodeBlockedDetail => (t.last? Event.decodeBlockedSummary?).isSome
  | .robBackpressureDetail => (t.last? Event.robBackpressureSummary?).isSome
  | .otherDetail => (t.last? Event.otherSummary?).isSome
  | .predict => (t.last? Event.predictor?).isSome
  | .fetchQueue => (t.last? Event.fetchQueueSummary?).isSome
  | .flush => (t.last? Event.flushSummary?).isSome

/-- Whether there are single events or samples from which a family can be rebuilt. Why the front
end is empty cannot be told from samples. -/
def hasSamples (t : Trace) : MetricFamily → Bool
  | .commit => !t.commits.isEmpty
  | .control => !t.commits.isEmpty
  | .hotspot => !t.commits.isEmpty
  | .stall => !t.stalls.isEmpty
  | .frontendEmptyDetail => false
  | .decodeBlockedDetail => !(t.stallsIn .decodeBlocked).isEmpty
  | .robBackpressureDetail => !(t.stallsIn .robBackpressure).isEmpty
  | .otherDetail => !(t.stallsIn .other).isEmpty
  | .predict => !t.commits.isEmpty || !t.mispredicts.isEmpty
  | .fetchQueue => !t.queueSamples.isEmpty
  | .flush => !t.flushes.isEmpty

/-- Where the figures of a family come from. -/
def source (t : Trace) (f : MetricFamily) : MetricSource :=
  MetricSource.choose (t.hasSummary f) (t.hasSamples f)

end Trace

end PipelineProfile
