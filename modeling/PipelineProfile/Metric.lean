/-!
# Metric families and their sources

The figures of a profile fall into families. Each family comes from the summary lines of the
simulator if there are any, which count every cycle. Failing that it is rebuilt from the lines
that report single events or samples, and failing that it has no figures.
-/

namespace PipelineProfile

/-- The families of figures. -/
inductive MetricFamily where
  | commit
  | control
  | hotspot
  | stall
  | frontendEmptyDetail
  | decodeBlockedDetail
  | robBackpressureDetail
  | otherDetail
  | predict
  | fetchQueue
  | flush
  deriving DecidableEq, Repr

namespace MetricFamily

/-- Every family, in the order of reports. -/
def all : List MetricFamily :=
  [commit, control, hotspot, stall, frontendEmptyDetail, decodeBlockedDetail,
    robBackpressureDetail, otherDetail, predict, fetchQueue, flush]

theorem mem_all (f : MetricFamily) : f ∈ all := by cases f <;> decide

/-- The families of the finer causes of stalls. -/
def details : List MetricFamily :=
  [frontendEmptyDetail, decodeBlockedDetail, robBackpressureDetail, otherDetail]

/-- The name of a family. -/
def label : MetricFamily → String
  | commit => "commit"
  | control => "control"
  | hotspot => "hotspot"
  | stall => "stall"
  | frontendEmptyDetail => "frontend_empty_detail"
  | decodeBlockedDetail => "decode_blocked_detail"
  | robBackpressureDetail => "rob_backpressure_detail"
  | otherDetail => "other_detail"
  | predict => "predict"
  | fetchQueue => "fetch_queue"
  | flush => "flush"

end MetricFamily

/-- Where the figures of a family come from. -/
inductive MetricSource where
  /-- From summary lines. -/
  | summary
  /-- From single events or samples. -/
  | sampled
  /-- There are none. -/
  | unavailable
  deriving DecidableEq, Repr

namespace MetricSource

/-- The name of a source. -/
def label : MetricSource → String
  | summary => "summary"
  | sampled => "sampled"
  | unavailable => "none"

/-- The best source there is. -/
def choose (hasSummary hasSamples : Bool) : MetricSource :=
  if hasSummary then summary else if hasSamples then sampled else unavailable

/-- What stall figures from a source count: cycles, or samples. -/
def stallMode : MetricSource → String
  | summary => "cycle"
  | sampled => "sampled"
  | unavailable => "none"

end MetricSource

end PipelineProfile
