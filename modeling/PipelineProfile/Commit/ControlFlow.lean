import PipelineProfile.Commit.Record
import PipelineProfile.Number.Binary64
import PipelineProfile.Number.Register

/-!
# Control flow of a run

How many control transfers a run retired, by kind. The counts come from a summary line or from
the stream of retired instructions. In the stream a conditional branch was taken if the next
instruction is not the one behind it, so the last instruction, which has no successor, is left
out.

The number of mispredictions is estimated as if every branch were predicted not taken and every
jump were mispredicted. The counts of a summary line are numbers of any size, so they are added up
in a register, while those of the stream are numbers of lines.
-/

namespace PipelineProfile

/-- How many control transfers a run retired. -/
structure ControlCounts where
  branches : Nat
  jals : Nat
  jalrs : Nat
  branchesTaken : Nat
  calls : Nat
  returns : Nat
  /-- All control transfers. -/
  transfers : Nat
  /-- The estimated number of mispredictions. -/
  estimatedMisses : Nat
  deriving DecidableEq, Repr

namespace ControlCounts

/-- The counts that the facts of a summary line report, and what a register makes of their
sums. -/
def ofFacts (f : Facts) : ControlCounts :=
  let branches := f.numD "branch_count" 0
  let jals := f.numD "jal_count" 0
  let jalrs := f.numD "jalr_count" 0
  let branchesTaken := f.numD "branch_taken_count" 0
  { branches, jals, jalrs, branchesTaken
    calls := f.numD "call_count" 0
    returns := f.numD "ret_count" 0
    transfers := Register.sum [branches, jals, jalrs]
    estimatedMisses := Register.sum [branchesTaken, jals, jalrs] }

/-- Each instruction of a stream with the one behind it. -/
def steps (stream : List Commit) : List (Commit × Commit) := stream.zip stream.tail

/-- Whether a step is a conditional branch that goes elsewhere than to the next instruction. -/
def isTaken (step : Commit × Commit) : Bool :=
  Instruction.isCondBranch step.1.inst && step.2.pc ≠ step.1.pc + 4

/-- The counts of a list of retired instructions, in any order. -/
def ofCommits (cs : List Commit) : ControlCounts :=
  let steps := steps (Commit.stream cs)
  let branches := steps.countP fun s => Instruction.isCondBranch s.1.inst
  let jals := steps.countP fun s => InstClass.ofWord s.1.inst = .jal
  let jalrs := steps.countP fun s => InstClass.ofWord s.1.inst = .jalr
  let branchesTaken := steps.countP isTaken
  { branches, jals, jalrs, branchesTaken
    calls := steps.countP fun s => Instruction.isCall s.1.inst
    returns := steps.countP fun s => Instruction.isReturn s.1.inst
    transfers := branches + jals + jalrs
    estimatedMisses := branchesTaken + jals + jalrs }

end ControlCounts

/-- The control flow of a run: the counts, and the number of instructions they relate to. -/
structure ControlFlow where
  counts : ControlCounts
  commits : Nat
  deriving DecidableEq, Repr

namespace ControlFlow

/-- The control flow of a list of retired instructions, in any order. -/
def ofCommits (cs : List Commit) : ControlFlow := ⟨ControlCounts.ofCommits cs, cs.length⟩

/-- The share of control transfers among the instructions. -/
def ratio (c : ControlFlow) : Float := Binary64.ratio c.counts.transfers c.commits

/-- The estimated number of mispredictions per thousand instructions. -/
def missesPerThousand (c : ControlFlow) : Float :=
  Binary64.scaledRatio 1000 c.counts.estimatedMisses c.commits

end ControlFlow

/-- How many retired instructions a branch predictor is concerned with. Here jumps that are
returns are not counted as jumps, and the last instruction of the stream is counted. -/
structure TransferMix where
  cond : Nat
  jump : Nat
  jumpDirect : Nat
  jumpIndirect : Nat
  ret : Nat
  call : Nat
  deriving DecidableEq, Repr

/-- The counts of a list of instruction words. -/
def TransferMix.ofWords (ws : List UInt32) : TransferMix where
  cond := ws.countP Instruction.isCondBranch
  jump := ws.countP fun w => Instruction.isJump w && !Instruction.isReturn w
  jumpDirect := ws.countP fun w =>
    Instruction.isJump w && !Instruction.isReturn w && !Instruction.isIndirectJump w
  jumpIndirect := ws.countP Instruction.isIndirectJump
  ret := ws.countP Instruction.isReturn
  call := ws.countP Instruction.isCall

end PipelineProfile
