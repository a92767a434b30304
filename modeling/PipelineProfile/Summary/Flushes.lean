import PipelineProfile.Trace

/-!
# Flushes of a run

How often the pipeline was flushed, why and by whom, what the flushes cost, and what kinds of
control transfers were mispredicted. The wrong-path work that flushes threw away and the
distances they redirected the program counter by come from a summary line if there is one, and
from the single flushes otherwise.
-/

namespace PipelineProfile

/-- The flushes of a run. -/
structure FlushFigures where
  count : Nat
  byReason : FlushReason → Nat
  bySource : FlushSource → Nat
  mispredicts : Nat
  misses : MispredictCounts
  missesUnknown : Nat
  penaltyCycles : Nat
  branchPenaltyCycles : Nat
  effects : FlushEffects

namespace Trace

/-- The mispredictions that flushes corrected, by kind. -/
def misses (t : Trace) : MispredictCounts where
  cond := t.mispredicts.countP fun f => f.missType = .condBranch
  jump := t.mispredicts.countP fun f => f.missType = .jump
  jumpDirect := t.mispredicts.countP fun f => f.missSubtype = .jumpDirect
  jumpIndirect := t.mispredicts.countP fun f => f.missSubtype = .jumpIndirect
  ret := t.mispredicts.countP fun f => f.missType = .functionReturn

/-- What the single flushes did. -/
def flushEffects (t : Trace) : FlushEffects :=
  let distances := t.flushes.filterMap Flush.redirectDistance
  { killedUops := Register.sum (t.mispredicts.map Flush.killedUops)
    redirects := distances.length
    redirectSum := Register.sum distances
    redirectMax := distances.foldl max 0 }

/-- The flushes of the run. -/
def flushFigures (t : Trace) : FlushFigures where
  count := t.flushes.length
  byReason r := t.flushes.countP fun f => f.reason = r
  bySource s := t.flushes.countP fun f => f.source = s
  mispredicts := t.mispredicts.length
  misses := t.misses
  missesUnknown := t.mispredicts.countP fun f => f.missType = .controlUnknown
  penaltyCycles := Register.sum (t.penalties.map FlushPenalty.cycles)
  branchPenaltyCycles :=
    let branch := t.penalties.filter fun p => p.reason = .branchMispredict
    Register.sum (branch.map FlushPenalty.cycles)
  effects := (t.last? Event.flushSummary?).getD t.flushEffects

end Trace

/-- The average distance of a redirection. -/
def FlushEffects.redirectAverage (e : FlushEffects) : Float :=
  Binary64.ratio e.redirectSum e.redirects

end PipelineProfile
