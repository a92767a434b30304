import Mathlib.Data.Prod.Lex
import PipelineProfile.Proofs.Commit.Transfers
import PipelineProfile.Proofs.Number.Sums

/-!
# Control flow that is rebuilt from commit lines

Without counts from the simulator, the control flow of a run is rebuilt from its commit lines.  They
are sorted into the stream of retired instructions, and each instruction of the stream is counted
together with the one behind it.

The stream is what its fields make it: the instructions in the lexicographic order of cycle, slot,
address and word (`Commit.IsStreamOf`).  No two different instructions are equal in all four, so
there is only one such stream, and neither it nor the counts depend on how the lines come.

There is one step less than there are instructions, and a step is counted under at most one of the
three opcodes that transfer control (`transfers_ofCommits`).  All other counts are parts of these:
a taken branch is a branch, a return is a jump through a register, and a jump is not a call and a
return at once (`calls_add_returns_le`).  The main result is `isRebuilt_ofCommits`.
-/

namespace PipelineProfile

/-! ## The stream by its fields -/

namespace Commit

/-- The fields of an instruction.  The first one in which two instructions differ decides which of
them comes first. -/
def key (c : Commit) : ℕ ×ₗ ℕ ×ₗ ℕ ×ₗ ℕ :=
  toLex (c.cycle, toLex (c.slot, toLex (c.pc.toNat, c.inst.toNat)))

/-- A list of instructions is the stream of others: it has the same ones, and their fields
ascend. -/
structure IsStreamOf (stream cs : List Commit) : Prop where
  perm : stream.Perm cs
  ascending : stream.Pairwise fun a b => a.key ≤ b.key

lemma precedes_iff_key_le {a b : Commit} : a.precedes b = true ↔ a.key ≤ b.key := by
  simp only [precedes_iff, key, Prod.Lex.toLex_le_toLex]

lemma isStreamOf_stream (cs : List Commit) : IsStreamOf (stream cs) cs where
  perm := List.mergeSort_perm cs precedes
  ascending := (pairwise_stream cs).imp precedes_iff_key_le.mp

end Commit

/-! ## Steps -/

namespace ControlCounts

/-- Whether a position of a stream holds a conditional branch, and the position behind it another
address than the one four bytes further. -/
def isTakenAt (stream : List Commit) (i : Nat) : Bool :=
  match stream[i]?, stream[i + 1]? with
  | some c, some d =>
    Instruction.isCondBranch c.inst && d.pc.toNat ≠ (c.pc.toNat + 4) % UInt32.size
  | _, _ => false

lemma length_steps (stream : List Commit) : (steps stream).length = stream.length - 1 := by
  rw [steps, List.length_zip, List.length_tail]
  omega

/-- Addresses are compared as words, so the one behind the last address is zero. -/
lemma isTaken_eq (c d : Commit) :
    isTaken (c, d) =
      (Instruction.isCondBranch c.inst && d.pc.toNat ≠ (c.pc.toNat + 4) % UInt32.size) := by
  have hpc : d.pc = c.pc + 4 ↔ d.pc.toNat = (c.pc.toNat + 4) % UInt32.size := by
    rw [← UInt32.toNat_inj, UInt32.toNat_add]
    rfl
  simp only [isTaken, ne_eq, hpc]

lemma any_isTaken_steps (stream : List Commit) (i : Nat) :
    (steps stream)[i]?.any isTaken = isTakenAt stream i := by
  rw [steps, List.zip, List.getElem?_zipWith, List.getElem?_tail, isTakenAt]
  cases stream[i]? with
  | none => rfl
  | some c =>
    cases stream[i + 1]? with
    | none => rfl
    | some d => exact isTaken_eq c d

/-- The taken branches are found at the positions that have one behind them. -/
lemma countP_isTaken_steps (stream : List Commit) :
    (steps stream).countP isTaken = (List.range (stream.length - 1)).countP (isTakenAt stream) := by
  rw [← countP_range_getElem? isTaken, length_steps]
  simp only [any_isTaken_steps]

/-! ## Counts -/

section OfCommits

variable (cs : List Commit)

/-- The control transfers are the steps from an instruction of one of the three opcodes. -/
lemma transfers_ofCommits :
    (ofCommits cs).transfers = (steps (Commit.stream cs)).countP fun s =>
      InstClass.ofWord s.1.inst ∈ [InstClass.condBranch, .jal, .jalr] := by
  rw [← sum_map_countP (fun s : Commit × Commit => InstClass.ofWord s.1.inst) (by decide)]
  simp only [List.map_cons, List.map_nil, List.sum_cons, List.sum_nil]
  exact Nat.add_assoc ..

lemma transfers_le : (ofCommits cs).transfers ≤ (Commit.stream cs).length - 1 := by
  rw [transfers_ofCommits, ← length_steps]
  exact List.countP_le_length

lemma branchesTaken_le : (ofCommits cs).branchesTaken ≤ (ofCommits cs).branches := by
  refine List.countP_mono_left fun s _ htaken => ?_
  rw [isTaken, Bool.and_eq_true] at htaken
  exact htaken.1

lemma returns_le : (ofCommits cs).returns ≤ (ofCommits cs).jalrs := by
  refine List.countP_mono_left fun s _ hreturn => ?_
  simp only [Instruction.isReturn, Bool.and_eq_true] at hreturn
  exact hreturn.1.1.1

/-- Calls and returns are different jumps. -/
lemma calls_add_returns_le :
    (ofCommits cs).calls + (ofCommits cs).returns ≤ (ofCommits cs).jals + (ofCommits cs).jalrs := by
  let words := (steps (Commit.stream cs)).map fun s => s.1.inst
  have hcalls : (TransferMix.ofWords words).call ≤ (TransferMix.ofWords words).jump := by
    refine List.countP_mono_left fun w _ hcall => ?_
    have hjump : Instruction.isJump w = true := (Bool.and_eq_true_iff.mp hcall).1
    rw [hjump, Instruction.not_isReturn_of_isCall hcall]
    rfl
  have hjumps : (TransferMix.ofWords words).jump + (TransferMix.ofWords words).ret =
      (ofCommits cs).jals + (ofCommits cs).jalrs := by
    rw [TransferMix.jump_add_ret_ofWords, List.countP_map]
    exact Instruction.countP_isJump (fun s : Commit × Commit => s.1.inst) _
  have hcall : (TransferMix.ofWords words).call = (ofCommits cs).calls := List.countP_map ..
  have hret : (TransferMix.ofWords words).ret = (ofCommits cs).returns := List.countP_map ..
  omega

end OfCommits

end ControlCounts

/-! ## The rebuilt control flow -/

/-- The figures of control flow are those of a stream of instructions, and are in proportion to one
another. -/
structure ControlFlow.IsRebuilt (stream : List Commit) (flow : ControlFlow) : Prop where
  commits : flow.commits = stream.length
  branchesTaken : flow.counts.branchesTaken =
    (List.range (stream.length - 1)).countP (ControlCounts.isTakenAt stream)
  branchesTaken_le : flow.counts.branchesTaken ≤ flow.counts.branches
  returns_le : flow.counts.returns ≤ flow.counts.jalrs
  calls_add_returns_le : flow.counts.calls + flow.counts.returns ≤
    flow.counts.jals + flow.counts.jalrs
  transfers : flow.counts.transfers = flow.counts.branches + flow.counts.jals + flow.counts.jalrs
  transfers_le : flow.counts.transfers ≤ stream.length - 1
  estimatedMisses : flow.counts.estimatedMisses =
    flow.counts.branchesTaken + flow.counts.jals + flow.counts.jalrs
  jumps_le_estimatedMisses : flow.counts.jals + flow.counts.jalrs ≤ flow.counts.estimatedMisses
  estimatedMisses_le : flow.counts.estimatedMisses ≤ flow.counts.transfers

namespace ControlFlow

/-- **Control flow is rebuilt in whatever order the instructions come.**  They are put in the order
of their fields, which gives the same stream and the same figures for every order in which they
come.  Every figure is bounded by the one it is a part of, all of them by the number of steps, and
the taken branches are those that are not followed by the next instruction. -/
theorem isRebuilt_ofCommits (cs : List Commit) :
    Commit.IsStreamOf (Commit.stream cs) cs ∧ IsRebuilt (Commit.stream cs) (ofCommits cs) ∧
      ∀ ds, ds.Perm cs → Commit.stream ds = Commit.stream cs ∧ ofCommits ds = ofCommits cs := by
  have htaken : (ofCommits cs).counts.branchesTaken ≤ (ofCommits cs).counts.branches :=
    ControlCounts.branchesTaken_le cs
  have htransfers : (ofCommits cs).counts.transfers = (ofCommits cs).counts.branches +
      (ofCommits cs).counts.jals + (ofCommits cs).counts.jalrs := rfl
  have hmisses : (ofCommits cs).counts.estimatedMisses = (ofCommits cs).counts.branchesTaken +
      (ofCommits cs).counts.jals + (ofCommits cs).counts.jalrs := rfl
  have hrebuilt : IsRebuilt (Commit.stream cs) (ofCommits cs) := {
    commits := (Commit.isStreamOf_stream cs).perm.length_eq.symm
    branchesTaken := ControlCounts.countP_isTaken_steps (Commit.stream cs)
    branchesTaken_le := htaken
    returns_le := ControlCounts.returns_le cs
    calls_add_returns_le := ControlCounts.calls_add_returns_le cs
    transfers := htransfers
    transfers_le := ControlCounts.transfers_le cs
    estimatedMisses := hmisses
    jumps_le_estimatedMisses := by omega
    estimatedMisses_le := by omega }
  exact ⟨Commit.isStreamOf_stream cs, hrebuilt, fun ds hds =>
    ⟨Commit.stream_perm hds, ofCommits_perm hds⟩⟩

end ControlFlow

end PipelineProfile
