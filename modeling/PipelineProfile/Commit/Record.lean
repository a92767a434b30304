import PipelineProfile.Commit.Instruction
import PipelineProfile.Line.Facts

/-!
# Retired instructions

A commit line reports one retired instruction: the cycle and the slot of that cycle in which it
retired, its address and its word. The lines may come in any order. Ordered by cycle and slot
they give the stream of retired instructions; address and word only make the order total.
-/

namespace PipelineProfile

/-- One retired instruction. -/
structure Commit where
  cycle : Nat
  slot : Nat
  pc : UInt32
  inst : UInt32
  deriving DecidableEq, Repr

namespace Commit

/-- The retired instruction that the facts of a line report, if all four of them are there. The
address and the word are cut to 32 bits. -/
def ofFacts? (f : Facts) : Option Commit := do
  let cycle ← f.num? "cycle"
  let slot ← f.num? "slot"
  let pc ← f.num? "pc"
  let inst ← f.num? "inst"
  return { cycle, slot, pc := pc.toUInt32, inst := inst.toUInt32 }

/-- Whether one instruction comes before another in the stream, or is the same. -/
def precedes (a b : Commit) : Bool :=
  a.cycle < b.cycle || (a.cycle == b.cycle &&
    (a.slot < b.slot || (a.slot == b.slot &&
      (a.pc < b.pc || (a.pc == b.pc && a.inst ≤ b.inst)))))

/-- The stream of retired instructions. -/
def stream (cs : List Commit) : List Commit := cs.mergeSort precedes

end Commit

end PipelineProfile
