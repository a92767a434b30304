import Mathlib.Data.List.Basic
import PipelineProfile.Commit.Activity
import PipelineProfile.Commit.ControlFlow
import PipelineProfile.Proofs.Tally.Counting

/-!
# The stream of retired instructions does not depend on how its lines come

Commit lines may come in any order.  `Commit.precedes` compares all four fields of two
instructions one after another, so it is a total order in which only equal instructions are
equivalent (`precedes_trans`, `precedes_total`, `precedes_antisymm`), and sorting by it gives the
same stream for every order of the lines (`stream_perm`).

The figures of the commit stage are functions of that stream or count over the lines, and each of
them has a lemma here that says so: `ControlFlow.ofCommits_perm`, `CommitWidths.ofCommits_perm`,
`Hotspot.top_perm` and `TransferMix.ofWords_perm`.
-/

namespace PipelineProfile

namespace Commit

/-! ## The order of the stream -/

/-- The order of two instructions in natural numbers: the first field in which they differ
decides. -/
lemma precedes_iff {a b : Commit} :
    a.precedes b = true ↔
      a.cycle < b.cycle ∨ a.cycle = b.cycle ∧
        (a.slot < b.slot ∨ a.slot = b.slot ∧
          (a.pc.toNat < b.pc.toNat ∨ a.pc.toNat = b.pc.toNat ∧ a.inst.toNat ≤ b.inst.toNat)) := by
  simp only [precedes, Bool.or_eq_true, Bool.and_eq_true, decide_eq_true_eq, beq_iff_eq,
    UInt32.lt_iff_toNat_lt, UInt32.le_iff_toNat_le, UInt32.toNat_inj]

lemma precedes_trans {a b c : Commit} (hab : a.precedes b = true) (hbc : b.precedes c = true) :
    a.precedes c = true := by
  rw [precedes_iff] at hab hbc ⊢
  omega

lemma precedes_total (a b : Commit) : (a.precedes b || b.precedes a) = true := by
  rw [Bool.or_eq_true, precedes_iff, precedes_iff]
  omega

lemma precedes_antisymm {a b : Commit} (hab : a.precedes b = true) (hba : b.precedes a = true) :
    a = b := by
  rw [precedes_iff] at hab hba
  obtain ⟨cycle, slot, pc, inst⟩ := a
  obtain ⟨cycle', slot', pc', inst'⟩ := b
  dsimp only at hab hba
  have hpc : pc = pc' := UInt32.toNat_inj.mp (by omega)
  have hinst : inst = inst' := UInt32.toNat_inj.mp (by omega)
  subst hpc hinst
  simp only [mk.injEq, and_true]
  omega

lemma pairwise_stream (cs : List Commit) :
    (stream cs).Pairwise fun a b => a.precedes b = true :=
  @List.pairwise_mergeSort Commit precedes (fun _ _ _ => precedes_trans) precedes_total cs

/-- The stream is the same for every order of the commit lines. -/
lemma stream_perm {cs ds : List Commit} (h : cs.Perm ds) : stream cs = stream ds := by
  refine List.Perm.eq_of_pairwise (fun a b _ _ hab hba => precedes_antisymm hab hba)
    (pairwise_stream cs) (pairwise_stream ds) ?_
  exact (List.mergeSort_perm cs _).trans (h.trans (List.mergeSort_perm ds _).symm)

end Commit

/-! ## The figures of the commit stage -/

lemma ControlFlow.ofCommits_perm {cs ds : List Commit} (h : cs.Perm ds) :
    ofCommits cs = ofCommits ds := by
  unfold ofCommits ControlCounts.ofCommits
  rw [Commit.stream_perm h, h.length_eq]

lemma CommitWidths.ofCommits_perm {cs ds : List Commit} (h : cs.Perm ds) (cycles : Nat) :
    ofCommits cs cycles = ofCommits ds cycles := by
  unfold ofCommits perCycle
  rw [Tally.ofKeys_perm (h.map Commit.cycle)]

lemma Hotspot.top_perm {ws vs : List UInt32} (h : ws.Perm vs) (limit : Nat) :
    top ws limit = top vs limit := by
  unfold top
  rw [Tally.ofKeys_perm h]

lemma TransferMix.ofWords_perm {ws vs : List UInt32} (h : ws.Perm vs) :
    ofWords ws = ofWords vs := by
  unfold ofWords
  simp only [h.countP_eq]

end PipelineProfile
