import PipelineProfile.Trace

/-!
# Totals of a run

How long a run was and how much it did. The final statistics come first. What they do not give
is taken from the summary of commits, and failing that from a timeout, which gives the cycles,
or from the commit lines, which give the number of instructions. Rates that are not given follow
from the totals.

The time of a run is the time the benchmark measured, if that is more than zero, and the time
the host measured otherwise.
-/

namespace PipelineProfile

/-! ## Cycles and instructions -/

/-- Cycles and instructions of a run, and their ratios. -/
structure RunTotals where
  ipc : Float
  cpi : Float
  cycles : Nat
  commits : Nat

namespace Trace

/-- The final statistics. -/
def runStats (t : Trace) : RunStats := (t.last? Event.runStats?).getD ⟨0, 0, 0, 0⟩

/-- The cycles on the summary of commits. -/
def summaryCycles? (t : Trace) : Option Nat :=
  (t.last? Event.commitSummary?).bind CommitSummary.cycles

/-- The instructions on the summary of commits. -/
def summaryCommits? (t : Trace) : Option Nat :=
  (t.last? Event.commitSummary?).bind CommitSummary.commits

/-- The cycles after which the run was stopped, if no other line gives the cycles. -/
def timedOut? (t : Trace) : Option Nat :=
  if t.runStats.cycles = 0 && t.summaryCycles?.isNone then t.last? Event.timeout? else none

/-- The cycles of the run. -/
def cycles (t : Trace) : Nat :=
  if t.runStats.cycles ≠ 0 then t.runStats.cycles
  else (t.summaryCycles?.or t.timedOut?).getD 0

/-- The instructions of the run. -/
def instructions (t : Trace) : Nat :=
  if t.runStats.commits ≠ 0 then t.runStats.commits
  else t.summaryCommits?.getD t.commits.length

/-- The totals of the run. -/
def totals (t : Trace) : RunTotals where
  ipc :=
    if t.runStats.ipc == 0 && t.cycles ≠ 0 then Binary64.ratio t.instructions t.cycles
    else t.runStats.ipc
  cpi :=
    if t.runStats.cpi == 0 && t.instructions ≠ 0 then Binary64.ratio t.cycles t.instructions
    else t.runStats.cpi
  cycles := t.cycles
  commits := t.instructions

end Trace

/-! ## Time -/

/-- Which clock the time of a run is taken from. -/
inductive TimeSource where
  | selfReported
  /-- The host's, because the benchmark's shows no time. -/
  | hostFallback
  | host
  | unavailable
  deriving DecidableEq, Repr

/-- The name of a clock. -/
def TimeSource.label : TimeSource → String
  | selfReported => "self"
  | hostFallback => "host_fallback"
  | host => "host"
  | unavailable => "none"

/-- The times measured for a run. -/
structure RunTime where
  /-- By the benchmark, in milliseconds. -/
  selfReported : Option Float
  /-- By the host, in microseconds. -/
  hostMicros : Option Nat

namespace RunTime

/-- The time measured by the host, in milliseconds. -/
def hostMillis (r : RunTime) : Option Float := r.hostMicros.map fun us => Binary64.ratio us 1000

/-- The clock that the time of the run is taken from. -/
def source (r : RunTime) : TimeSource :=
  match r.selfReported, r.hostMicros with
  | some ms, some _ => if 0 < ms then .selfReported else .hostFallback
  | some ms, none => if 0 < ms then .selfReported else .unavailable
  | none, some _ => .host
  | none, none => .unavailable

/-- The time of the run, in milliseconds. -/
def effective (r : RunTime) : Option Float :=
  match r.source with
  | .selfReported => r.selfReported
  | .hostFallback => r.hostMillis
  | .host => r.hostMillis
  | .unavailable => none

end RunTime

/-- The times measured for the run. -/
def Trace.time (t : Trace) : RunTime where
  selfReported := t.last? Event.selfTime?
  hostMicros := t.last? Event.hostTime?

end PipelineProfile
