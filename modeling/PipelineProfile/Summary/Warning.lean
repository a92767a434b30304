import PipelineProfile.Metric
import PipelineProfile.Predictor

/-!
# Warnings about the quality of figures

A summary tells where its figures fall short of what a complete trace would give. Each warning
is one such shortcoming, and `Warning.message` is its text.
-/

namespace PipelineProfile

/-- A shortcoming of the figures of a run. -/
inductive Warning where
  /-- The run was stopped after so many cycles. -/
  | timedOut (cycles : Nat)
  /-- The benchmark measured no time, so the time of the host is used. -/
  | hostTimeUsed
  /-- The benchmark measured no time, and neither did the host. -/
  | noTime
  | commitSummaryOnly
  | noCommits
  | stallsSampled
  /-- The causes in a category are sampled although the category is counted. -/
  | detailSampled (family : MetricFamily)
  | predictorRebuilt
  | providers (violation : ProviderViolation)
  | fetchQueueSampled
  deriving DecidableEq, Repr

/-- The text of a warning. -/
def Warning.message : Warning → String
  | timedOut cycles =>
    "run timed out after " ++ Numeral.decimal cycles ++ " cycles; totals cover the partial run"
  | hostTimeUsed => "benchmark self-reported time is 0ms; using host time instead"
  | noTime => "benchmark self-reported time is 0ms and no host time is available"
  | commitSummaryOnly => "commit metrics sourced from summary without per-instruction detail"
  | noCommits => "commit metrics unavailable: no [commit] lines or [commitm] summary"
  | stallsSampled => "stall metrics are sampled events, not cycle-accurate"
  | detailSampled family => family.label ++ " is sampled while stall totals are cycle-accurate"
  | predictorRebuilt =>
    "predictor metrics reconstructed from [commit] classes and mispredict flushes"
  | providers violation => violation.message
  | fetchQueueSampled =>
    "fetch queue metrics are sampled from [stall] lines, not cycle-accurate"

end PipelineProfile
