/-!
# Control transfers among instruction words

An instruction is a 32-bit RISC-V word. Three opcodes transfer control: conditional branches,
jumps to an address in the instruction (`jal`) and jumps to an address in a register (`jalr`).
By the calling convention, a jump that saves the return address in a link register is a call,
and a jump through a link register that saves nothing is a return. Any other jump through a
register is an indirect jump.
-/

namespace PipelineProfile

/-- The kinds of instructions that control flow tells apart. -/
inductive InstClass where
  | condBranch
  | jal
  | jalr
  | other
  deriving DecidableEq, Repr

namespace InstClass

/-- The kind of an instruction word, by its opcode. -/
def ofWord (w : UInt32) : InstClass :=
  let opcode := w &&& 0x7F
  if opcode = 0x63 then condBranch
  else if opcode = 0x6F then jal
  else if opcode = 0x67 then jalr
  else other

/-- Whether an instruction is a jump of either kind. -/
def isJump : InstClass → Bool
  | jal | jalr => true
  | condBranch | other => false

end InstClass

namespace Instruction

/-- The register that an instruction writes. -/
def rd (w : UInt32) : UInt32 := (w >>> 7) &&& 0x1F

/-- The first register that an instruction reads. -/
def rs1 (w : UInt32) : UInt32 := (w >>> 15) &&& 0x1F

/-- Whether a register holds return addresses. -/
def isLink (r : UInt32) : Bool := r = 1 || r = 5

/-- Whether an instruction is a conditional branch. -/
def isCondBranch (w : UInt32) : Bool := InstClass.ofWord w = .condBranch

/-- Whether an instruction is a jump of either kind. -/
def isJump (w : UInt32) : Bool := (InstClass.ofWord w).isJump

/-- Whether an instruction is a call. -/
def isCall (w : UInt32) : Bool := isJump w && isLink (rd w)

/-- Whether an instruction is a return. -/
def isReturn (w : UInt32) : Bool :=
  InstClass.ofWord w = .jalr && rd w = 0 && isLink (rs1 w) && w >>> 20 = 0

/-- Whether an instruction is a jump through a register and neither a call nor a return. -/
def isIndirectJump (w : UInt32) : Bool :=
  InstClass.ofWord w = .jalr && !isCall w && !isReturn w

/-- No instruction is both a call and a return: one writes a link register, the other writes
none. -/
theorem not_isReturn_of_isCall {w : UInt32} (h : isCall w = true) : isReturn w = false := by
  have hlink : isLink (rd w) = true := (Bool.and_eq_true _ _ ▸ h).2
  have hne : rd w ≠ 0 := by
    intro h0
    rw [h0] at hlink
    exact absurd hlink (by decide)
  simp [isReturn, hne]

end Instruction

end PipelineProfile
