import PipelineProfile.FetchQueue
import PipelineProfile.Stall.DecodeBlocked
import PipelineProfile.Stall.Other

/-!
# Stall lines

What the lines about stalls say. A sample is one stall line: its category, the cycle, the groups
of signals that tell the finer cause, and the state of the fetch queue. Three categories have
finer causes that a sample can show, `decodeBlocked`, `robBackpressure` and `other`.

Totals come from summary lines: one for the categories, and one for each category that is broken
down, with a count for every label on it.
-/

namespace PipelineProfile

/-! ## Samples -/

/-- One stall line. -/
structure StallSample where
  category : StallCategory
  cycle : Option Nat
  probe : StallProbe
  queue : Option QueueSample
  deriving DecidableEq, Repr

namespace StallSample

/-- The sample that the facts of a line report. -/
def ofFacts (f : Facts) : StallSample where
  category := StallCategory.ofSignals (StallSignals.ofFacts f)
  cycle := f.num? "cycle"
  probe := StallProbe.ofFacts f
  queue := (f.slots? "ifu_fq(cnt/full/empty/pop)").map QueueSample.ofSlots

/-- Whether the sample shows a blocked decode at most `window` cycles after the given cycle. -/
def isBlockedAfter (window : Nat) (flushed : Option Nat) (s : StallSample) : Bool :=
  s.category = .decodeBlocked &&
    match s.cycle, flushed with
    | some c, some f => f ≤ c && c - f ≤ window
    | _, _ => false

end StallSample

/-- The label of the finer cause in a category, if samples of the category can show one. -/
def StallCategory.detail? (lanes : Nat) (p : StallProbe) : StallCategory → Option String
  | decodeBlocked => some (DecodeBlockedCause.ofProbe lanes p).label
  | robBackpressure => some (RobBackpressureCause.ofProbe p).label
  | other => some (OtherCause.ofProbe p).label
  | _ => none

/-! ## Totals -/

/-- The cycles lost in each category. -/
structure CategoryTotals where
  total : Nat
  count : StallCategory → Nat

/-- The totals that the facts of a summary line report. A total that is not given is the sum of
the categories. -/
def CategoryTotals.ofFacts (f : Facts) : CategoryTotals :=
  let count (c : StallCategory) : Nat := f.numD c.label 0
  { total := (f.num? "stall_total_cycles").getD (Register.sum (StallCategory.all.map count))
    count }

/-- The cycles lost in one category, and how they are divided among finer causes. -/
structure StallDetail where
  total : Nat
  detail : Tally String

namespace StallDetail

/-- The counts on a summary line: all of its facts but `mode` and the total. -/
def counts (totalKey : String) (f : Facts) : Tally String :=
  Tally.ofPairs ((f.toList.filter fun x => x.key ≠ "mode" && x.key ≠ totalKey).map fun x =>
    (x.key, Numeral.value x.value.toList))

/-- The division that the facts of a summary line report. -/
def ofFacts (totalKey : String) (f : Facts) : StallDetail where
  total := f.numD totalKey 0
  detail := counts totalKey f

/-- The label of a cause in the category `other`, as samples give it. Causes at the head of the
reorder buffer end in `_nonbp`, whether or not a summary line writes them so. -/
def canonicalLabel (key : String) : String :=
  if "rob_head_".toList.isPrefixOf key.toList && !"_nonbp".toList.isSuffixOf key.toList then
    key ++ "_nonbp"
  else key

/-- The division of the category `other` that the facts of a summary line report. -/
def otherOfFacts (f : Facts) : StallDetail :=
  let d := ofFacts "other_total" f
  { d with detail := Tally.ofPairs (d.detail.entries.map fun e => (canonicalLabel e.1, e.2)) }

end StallDetail

end PipelineProfile
