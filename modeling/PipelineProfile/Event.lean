import PipelineProfile.Commit.Activity
import PipelineProfile.Flush.Event
import PipelineProfile.Line
import PipelineProfile.Predictor
import PipelineProfile.Stall.Sample

/-!
# Events

An event is a trace line with its facts decoded. Lines without a message become no event, and
neither does a commit line that lacks one of its four facts. Nothing about an event depends on
the lines around it or on the settings of the profile.
-/

namespace PipelineProfile

/-- The figures of a summary line about commits. -/
structure CommitSummary where
  cycles : Option Nat
  commits : Option Nat
  widths : Tally Nat

/-- The figures that the facts of a summary line report. Widths are 32-bit numbers. -/
def CommitSummary.ofFacts (f : Facts) : CommitSummary where
  cycles := f.num? "cycles"
  commits := f.num? "commits"
  widths := Tally.ofPairs (f.numbered "width" UInt32.size)

/-- A trace line that says something. -/
inductive Event where
  | runStats (stats : RunStats)
  | timeout (cycles : Nat)
  | selfTime (ms : Float)
  | hostTime (us : Nat)
  | flush (flush : Flush)
  | flushPenalty (penalty : FlushPenalty)
  | branchResolve
  | predictor (counters : PredictCounters)
  | commit (commit : Commit)
  | stall (sample : StallSample)
  | commitSummary (summary : CommitSummary)
  | controlSummary (counts : ControlCounts)
  | hotPcs (hotspots : List Hotspot)
  | hotInsts (hotspots : List Hotspot)
  | stallSummary (totals : CategoryTotals)
  | frontendEmptySummary (detail : StallDetail)
  | decodeBlockedSummary (detail : StallDetail)
  | robBackpressureSummary (detail : StallDetail)
  | otherSummary (detail : StallDetail)
  | otherAuxSummary (counts : Tally String)
  | fetchQueueSummary (figures : FetchQueue)
  | flushSummary (effects : FlushEffects)

namespace Event

/-- The event that a tagged line reports. -/
def ofTagged? (tag : Tag) (f : Facts) : Option Event :=
  match tag with
  | .flush => some (flush (Flush.ofFacts f))
  | .flushPenalty => some (flushPenalty (FlushPenalty.ofFacts f))
  | .branchResolve => some branchResolve
  | .predictor => some (predictor (PredictCounters.ofFacts f))
  | .commit => (Commit.ofFacts? f).map commit
  | .stall => some (stall (StallSample.ofFacts f))
  | .commitSummary => some (commitSummary (CommitSummary.ofFacts f))
  | .controlSummary => some (controlSummary (ControlCounts.ofFacts f))
  | .hotPcSummary => some (hotPcs (Hotspot.ofFacts "pc" f))
  | .hotInstSummary => some (hotInsts (Hotspot.ofFacts "inst" f))
  | .stallSummary => some (stallSummary (CategoryTotals.ofFacts f))
  | .frontendEmptySummary =>
    some (frontendEmptySummary (StallDetail.ofFacts "frontend_empty_total" f))
  | .decodeBlockedSummary =>
    some (decodeBlockedSummary (StallDetail.ofFacts "decode_blocked_total" f))
  | .robBackpressureSummary =>
    some (robBackpressureSummary (StallDetail.ofFacts "rob_backpressure_total" f))
  | .otherSummary => some (otherSummary (StallDetail.otherOfFacts f))
  | .otherAuxSummary => some (otherAuxSummary (StallDetail.counts "" f))
  | .fetchQueueSummary => some (fetchQueueSummary (FetchQueue.ofFacts f))
  | .flushSummary => some (flushSummary (FlushEffects.ofFacts f))

/-- The event that a line reports. -/
def ofLine? : Line → Option Event
  | .runStats stats => some (runStats stats)
  | .timeout cycles => some (timeout cycles)
  | .selfTime ms => some (selfTime ms)
  | .hostTime us => some (hostTime us)
  | .tagged tag facts => ofTagged? tag facts
  | .untagged => none

/-! ## What kind of event it is -/

/-- The final statistics, if the event is that. -/
def runStats? : Event → Option RunStats
  | runStats s => some s
  | _ => none

/-- The cycles after which the run was stopped, if the event tells that. -/
def timeout? : Event → Option Nat
  | timeout n => some n
  | _ => none

/-- The milliseconds that the benchmark measured, if the event tells that. -/
def selfTime? : Event → Option Float
  | selfTime ms => some ms
  | _ => none

/-- The microseconds that the host measured, if the event tells that. -/
def hostTime? : Event → Option Nat
  | hostTime us => some us
  | _ => none

/-- The flush, if the event is one. -/
def flush? : Event → Option Flush
  | flush f => some f
  | _ => none

/-- The cost of a flush, if the event is that. -/
def flushPenalty? : Event → Option FlushPenalty
  | flushPenalty p => some p
  | _ => none

/-- Whether the event is the resolution of a branch. -/
def isBranchResolve : Event → Bool
  | branchResolve => true
  | _ => false

/-- The counters of the branch predictor, if the event is that. -/
def predictor? : Event → Option PredictCounters
  | predictor c => some c
  | _ => none

/-- The retired instruction, if the event is one. -/
def commit? : Event → Option Commit
  | commit c => some c
  | _ => none

/-- The stall sample, if the event is one. -/
def stall? : Event → Option StallSample
  | stall s => some s
  | _ => none

/-- The summary of commits, if the event is that. -/
def commitSummary? : Event → Option CommitSummary
  | commitSummary s => some s
  | _ => none

/-- The summary of control transfers, if the event is that. -/
def controlSummary? : Event → Option ControlCounts
  | controlSummary c => some c
  | _ => none

/-- The ranking of addresses, if the event is that. -/
def hotPcs? : Event → Option (List Hotspot)
  | hotPcs hs => some hs
  | _ => none

/-- The ranking of instruction words, if the event is that. -/
def hotInsts? : Event → Option (List Hotspot)
  | hotInsts hs => some hs
  | _ => none

/-- The totals of the stall categories, if the event is that. -/
def stallSummary? : Event → Option CategoryTotals
  | stallSummary t => some t
  | _ => none

/-- The division of the empty front end, if the event is that. -/
def frontendEmptySummary? : Event → Option StallDetail
  | frontendEmptySummary d => some d
  | _ => none

/-- The division of the blocked decode, if the event is that. -/
def decodeBlockedSummary? : Event → Option StallDetail
  | decodeBlockedSummary d => some d
  | _ => none

/-- The division of the full reorder buffer, if the event is that. -/
def robBackpressureSummary? : Event → Option StallDetail
  | robBackpressureSummary d => some d
  | _ => none

/-- The division of the other stalls, if the event is that. -/
def otherSummary? : Event → Option StallDetail
  | otherSummary d => some d
  | _ => none

/-- The further counts about other stalls, if the event is that. -/
def otherAuxSummary? : Event → Option (Tally String)
  | otherAuxSummary t => some t
  | _ => none

/-- The summary of the fetch queue, if the event is that. -/
def fetchQueueSummary? : Event → Option FetchQueue
  | fetchQueueSummary q => some q
  | _ => none

/-- The summary of flushes, if the event is that. -/
def flushSummary? : Event → Option FlushEffects
  | flushSummary e => some e
  | _ => none

end Event

end PipelineProfile
