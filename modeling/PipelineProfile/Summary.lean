import PipelineProfile.Summary.Flushes
import PipelineProfile.Summary.Stalls
import PipelineProfile.Summary.Totals
import PipelineProfile.Summary.Warning
import PipelineProfile.Text.Lines

/-!
# The summary of a run

Everything that is learned from one trace. For each family of figures the best source is chosen
on its own, so a trace may give some families from summary lines and others from samples; the
summary records the choice, and warns where figures are worse than they could be.

A setting acts only where it is named here: the window and the lanes on the stalls, the limit on
the hotspots, the buckets on the commit widths, and the bins on the sampled fetch queue.
-/

namespace PipelineProfile

/-- What is learned from one trace. -/
structure RunSummary where
  /-- The path of the trace. -/
  logPath : String
  totals : RunTotals
  time : RunTime
  flushes : FlushFigures
  branchResolves : Nat
  hasCommitDetail : Bool
  hasCommitSummary : Bool
  commitWidths : Tally Nat
  control : ControlFlow
  hotPcs : List Hotspot
  hotInsts : List Hotspot
  stalls : StallFigures
  predict : PredictCounters
  fetchQueue : FetchQueue
  sources : MetricFamily → MetricSource
  warnings : List Warning

namespace Trace

/-! ## Commits -/

/-- In how many cycles so many instructions retired. -/
def commitWidths (config : Config) (t : Trace) : Tally Nat :=
  CommitWidths.fill config.minWidthBuckets
    (match t.last? Event.commitSummary? with
    | some summary => summary.widths
    | none => CommitWidths.ofCommits t.commits t.cycles)

/-- The control flow of the run. The counts of a summary line relate to the instructions of the
run, those of the commit lines to the commit lines. -/
def controlFlow (t : Trace) : ControlFlow :=
  match t.last? Event.controlSummary? with
  | some counts => ⟨counts, t.instructions⟩
  | none => ControlFlow.ofCommits t.commits

/-- The hottest addresses. One of the two rankings on a summary line is enough for both to be
taken from there. -/
def hotPcs (config : Config) (t : Trace) : List Hotspot :=
  if t.hasSummary .hotspot then
    ((t.last? Event.hotPcs?).getD []).take config.hotspotLimit
  else Hotspot.top (t.commits.map Commit.pc) config.hotspotLimit

/-- The hottest instruction words. -/
def hotInsts (config : Config) (t : Trace) : List Hotspot :=
  if t.hasSummary .hotspot then
    ((t.last? Event.hotInsts?).getD []).take config.hotspotLimit
  else Hotspot.top (t.commits.map Commit.inst) config.hotspotLimit

/-! ## Prediction and fetching -/

/-- The counters of the branch predictor. -/
def predictCounters (t : Trace) : PredictCounters :=
  match t.last? Event.predictor? with
  | some counters => counters
  | none => PredictCounters.rebuilt (TransferMix.ofWords (t.commits.map Commit.inst)) t.misses

/-- The figures of the fetch queue. -/
def fetchQueue (config : Config) (t : Trace) : FetchQueue :=
  match t.last? Event.fetchQueueSummary? with
  | some figures => figures
  | none => FetchQueue.ofSamples config.fetchQueueBins t.queueSamples

/-! ## Warnings -/

/-- The warning about the time of the run. -/
def timeWarning? (t : Trace) : Option Warning :=
  match t.time.selfReported, t.time.source with
  | some _, .hostFallback => some .hostTimeUsed
  | some _, .unavailable => some .noTime
  | _, _ => none

/-- The warning about the commits of the run. -/
def commitWarning? (t : Trace) : Option Warning :=
  match t.source .commit with
  | .summary => if t.commits.isEmpty then some .commitSummaryOnly else none
  | .unavailable => some .noCommits
  | .sampled => none

/-- The warning that a family is sampled. -/
def sampledWarning? (t : Trace) (family : MetricFamily) (warning : Warning) : Option Warning :=
  if t.source family = .sampled then some warning else none

/-- The warnings that finer causes are sampled although the stalls are counted. -/
def detailWarnings (t : Trace) : List Warning :=
  if t.source .stall = .summary then
    MetricFamily.details.filterMap fun family => t.sampledWarning? family (.detailSampled family)
  else []

/-- The warnings about the run. -/
def warnings (t : Trace) : List Warning :=
  (t.timedOut?.map Warning.timedOut).toList ++
    t.timeWarning?.toList ++
    t.commitWarning?.toList ++
    (t.sampledWarning? .stall .stallsSampled).toList ++
    t.detailWarnings ++
    (t.sampledWarning? .predict .predictorRebuilt).toList ++
    t.predictCounters.violations.map Warning.providers ++
    (t.sampledWarning? .fetchQueue .fetchQueueSampled).toList

end Trace

namespace RunSummary

/-- The summary of a trace. -/
def ofTrace (config : Config) (logPath : String) (t : Trace) : RunSummary where
  logPath := logPath
  totals := t.totals
  time := t.time
  flushes := t.flushFigures
  branchResolves := t.countP Event.isBranchResolve
  hasCommitDetail := !t.commits.isEmpty
  hasCommitSummary := t.hasSummary .commit
  commitWidths := t.commitWidths config
  control := t.controlFlow
  hotPcs := t.hotPcs config
  hotInsts := t.hotInsts config
  stalls := t.stallFigures config
  predict := t.predictCounters
  fetchQueue := t.fetchQueue config
  sources := t.source
  warnings := t.warnings

/-- The summary of some lines. -/
def ofLines (config : Config) (logPath : String) (lines : List String) : RunSummary :=
  ofTrace config logPath (Trace.ofLines lines)

/-- The summary of the bytes of a file. -/
def ofBytes (config : Config) (logPath : String) (bytes : List UInt8) : RunSummary :=
  ofLines config logPath (Text.lines bytes)

/-- A count per thousand instructions of the run. -/
def perThousand (s : RunSummary) (count : Nat) : Float :=
  Binary64.ratio (count * 1000) s.totals.commits

end RunSummary

end PipelineProfile
