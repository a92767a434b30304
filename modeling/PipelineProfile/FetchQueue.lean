import PipelineProfile.Line.Facts
import PipelineProfile.Number.Binary64
import PipelineProfile.Number.Register
import PipelineProfile.Tally

/-!
# The fetch queue

Occupancy and throughput of the queue between fetch and decode. A summary line reports the
figures of a whole run. Without it they are rebuilt from samples on the stall lines, which tell
how full the queue is and whether it is read, but neither what enters it nor what bypasses it.

In samples, all occupancies from the last bin on are counted in that bin.
-/

namespace PipelineProfile

/-- The state of the fetch queue in one cycle. -/
structure QueueSample where
  count : Nat
  full : Bool
  empty : Bool
  /-- Whether an instruction leaves the queue. -/
  pop : Bool
  deriving DecidableEq, Repr

/-- The sample in the slots of a value. -/
def QueueSample.ofSlots (s : Slots) : QueueSample where
  count := s.get 0
  full := s.bit 1
  empty := s.bit 2
  pop := s.bit 3

/-- Occupancy and throughput of the fetch queue. -/
structure FetchQueue where
  samples : Nat
  enqueued : Nat
  dequeued : Nat
  bypassed : Nat
  enqueueBlocked : Nat
  fullCycles : Nat
  emptyCycles : Nat
  nonemptyCycles : Nat
  occupancySum : Nat
  occupancyMax : Nat
  /-- The average occupancy as the simulator gives it, in thousandths. -/
  reportedAverage : Option Nat
  occupancies : Tally Nat

namespace FetchQueue

/-- No figures. -/
def zero : FetchQueue :=
  { samples := 0, enqueued := 0, dequeued := 0, bypassed := 0, enqueueBlocked := 0
    fullCycles := 0, emptyCycles := 0, nonemptyCycles := 0, occupancySum := 0, occupancyMax := 0
    reportedAverage := none, occupancies := Tally.empty }

/-- The figures that the facts of a summary line report. -/
def ofFacts (f : Facts) : FetchQueue :=
  let n (key : String) : Nat := f.numD key 0
  { samples := n "fq_samples"
    enqueued := n "fq_enq"
    dequeued := n "fq_deq"
    bypassed := n "fq_bypass"
    enqueueBlocked := n "fq_enq_blocked"
    fullCycles := n "fq_full_cycles"
    emptyCycles := n "fq_empty_cycles"
    nonemptyCycles := n "fq_nonempty_cycles"
    occupancySum := n "fq_occ_sum"
    occupancyMax := n "fq_occ_max"
    reportedAverage := f.num? "fq_occ_avg_x1000"
    occupancies := Tally.ofPairs (f.numbered "fq_occ_bin" Numeral.bound) }

/-- The figures of some samples, with occupancies told apart in the given number of bins. -/
def ofSamples (bins : Nat) (samples : List QueueSample) : FetchQueue :=
  { samples := samples.length
    enqueued := 0
    dequeued := samples.countP QueueSample.pop
    bypassed := 0
    enqueueBlocked := 0
    fullCycles := samples.countP QueueSample.full
    emptyCycles := samples.countP QueueSample.empty
    nonemptyCycles := samples.countP fun s => !s.empty
    occupancySum := Register.sum (samples.map QueueSample.count)
    occupancyMax := (samples.map QueueSample.count).foldl max 0
    reportedAverage := none
    occupancies := Tally.ofKeys (samples.map fun s => min s.count (bins - 1)) }

/-- The average occupancy. -/
def average (q : FetchQueue) : Float := Binary64.ratio q.occupancySum q.samples

/-- The average occupancy as the simulator gives it. -/
def averageReported (q : FetchQueue) : Option Float :=
  q.reportedAverage.map fun n => Binary64.ratio n 1000

/-- The share of instructions that bypass the queue. -/
def bypassRatio (q : FetchQueue) : Float := Binary64.ratio q.bypassed q.dequeued

end FetchQueue

end PipelineProfile
