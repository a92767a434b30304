import PipelineProfile.Flush.Vocabulary
import PipelineProfile.Line.Facts

/-!
# Flush lines

What the three kinds of flush lines say: a flush of the pipeline, the cycles that a flush cost,
and the totals of a whole run.
-/

namespace PipelineProfile

/-- One flush of the pipeline. -/
structure Flush where
  cycle : Option Nat
  reason : FlushReason
  source : FlushSource
  /-- What was mispredicted, as far as the line tells it in detail. -/
  missSubtype : MissSubtype
  /-- What was mispredicted, as far as the line tells it without detail. -/
  coarseMissType : MissType
  redirectDistance : Option Nat
  killedUops : Nat
  deriving DecidableEq, Repr

namespace Flush

/-- The flush reason that some facts give. -/
def reasonOf (f : Facts) : FlushReason :=
  FlushReason.vocabulary.read ((f.get? "reason").getD "") (f.span? "reason")

/-- The flush that the facts of a line report. -/
def ofFacts (f : Facts) : Flush where
  cycle := f.num? "cycle"
  reason := reasonOf f
  source := FlushSource.vocabulary.read ((f.get? "source").getD "") (f.span? "source")
  missSubtype :=
    match f.get? "miss_subtype" with
    | some word => MissSubtype.vocabulary.read word (f.span? "miss_subtype")
    | none => .noMiss
  coarseMissType :=
    MissType.vocabulary.read ((f.get? "miss_type").getD "") (f.span? "miss_type")
  redirectDistance := f.num? "redirect_distance"
  killedUops := f.numD "killed_uops" 0

/-- What was mispredicted. The detailed kind decides if there is one. -/
def missType (f : Flush) : MissType :=
  if f.missSubtype = .noMiss then f.coarseMissType else f.missSubtype.missType

/-- Whether the flush corrects a mispredicted branch. -/
def isMispredict (f : Flush) : Bool := f.reason = .branchMispredict

end Flush

/-- What a flush cost. -/
structure FlushPenalty where
  reason : FlushReason
  cycles : Nat
  deriving DecidableEq, Repr

/-- The cost of a flush that the facts of a line report. -/
def FlushPenalty.ofFacts (f : Facts) : FlushPenalty where
  reason := Flush.reasonOf f
  cycles := f.numD "penalty" 0

/-- What flushes did in a whole run: the instructions killed on wrong paths, and how far the
program counter was redirected. -/
structure FlushEffects where
  killedUops : Nat
  redirects : Nat
  redirectSum : Nat
  redirectMax : Nat
  deriving DecidableEq, Repr

/-- The totals that the facts of a summary line report. -/
def FlushEffects.ofFacts (f : Facts) : FlushEffects where
  killedUops := f.numD "wrong_path_killed_uops" 0
  redirects := f.numD "redirect_distance_samples" 0
  redirectSum := f.numD "redirect_distance_sum" 0
  redirectMax := f.numD "redirect_distance_max" 0

end PipelineProfile
