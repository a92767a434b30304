import PipelineProfile.Proofs.Number.Sums
import PipelineProfile.Proofs.Trace.LineKind
import PipelineProfile.Summary

/-!
# The flush figures of a run balance

A flush line is counted many times over: once as a flush, once under its reason and once under its
source, and if it corrects a misprediction, perhaps under a kind of control transfer and under a
kind of jump.  The words for all of these are read forgivingly and independently of one another,
so nothing about a single line promises that the counts fit together.

The counts do fit together, whatever the lines say.  `FlushFigures.Balanced` says which lines each
figure counts, and lists the laws:

* the reasons divide the flushes, and so do the sources;
* the kinds of transfers divide a part of the mispredictions, and the two kinds of jumps a part of
  the jumps, since the detailed word decides about both kinds at once
  (`Flush.missType_eq_jump`);
* the cycles that corrected mispredictions cost are a part of those that flushes cost;
* the distances of redirections are at most one for each flush, and their sum lies between the
  greatest of them and that many times the greatest.

The last of these needs a trace without totals of its own, since a summary line may claim anything.
The last two are about sums of numbers that the lines give.  Such a sum is kept in a register: it is
never too large, but an upper bound for its parts only as long as nothing of it is lost.  A log of
four lines is enough to lose something (`flushes_floodedLog`).

The main result is `flushes_balanced`.
-/

namespace PipelineProfile

/-! ## What a line counts toward -/

/-- The flush on a line, if it is a flush line. -/
def Flush.ofText? (text : String) : Option Flush :=
  ((Line.read text).facts? .flush).map Flush.ofFacts

/-- How many lines correct a misprediction of some kind. -/
def mispredictLines (kind : Flush → Bool) (lines : List String) : Nat :=
  lines.countP fun text => (Flush.ofText? text).any fun flush => kind flush && flush.isMispredict

/-- What a flush cost, if the line reports that. -/
def FlushPenalty.ofText? (text : String) : Option FlushPenalty :=
  ((Line.read text).facts? .flushPenalty).map FlushPenalty.ofFacts

/-- What flushes cost together, however much that is. -/
def FlushPenalty.totalCycles (ps : List FlushPenalty) : Nat := (ps.map cycles).sum

/-- The distances that flush lines give. -/
def redirectDistances (lines : List String) : List Nat :=
  (lines.filterMap Flush.ofText?).filterMap Flush.redirectDistance

/-- What is known of the distances by which the program counter was redirected fits the distances.
Their sum is kept in a register. -/
structure FlushEffects.Redirected (distances : List Nat) (e : FlushEffects) : Prop where
  redirects : e.redirects = distances.length
  redirectSum : e.redirectSum = distances.sum % Numeral.bound
  sum_le : e.redirectSum ≤ e.redirects * e.redirectMax
  max_le_sum : distances.sum < Numeral.bound → e.redirectMax ≤ e.redirectSum

/-- The flush figures of a run count the flush lines and fit together. -/
structure FlushFigures.Balanced (lines : List String) (f : FlushFigures) : Prop where
  count : f.count = (linesOf (.tagged .flush) lines).length
  /-- Under each reason and each source stands the number of lines that give it. -/
  byReason : ∀ r, f.byReason r =
    lines.countP fun text => (Flush.ofText? text).any fun flush => flush.reason = r
  bySource : ∀ s, f.bySource s =
    lines.countP fun text => (Flush.ofText? text).any fun flush => flush.source = s
  /-- Under each kind of transfer and of jump stands the number of lines that correct it. -/
  kinds : f.misses = {
    cond := mispredictLines (fun flush => flush.missType = .condBranch) lines
    jump := mispredictLines (fun flush => flush.missType = .jump) lines
    jumpDirect := mispredictLines (fun flush => flush.missSubtype = .jumpDirect) lines
    jumpIndirect := mispredictLines (fun flush => flush.missSubtype = .jumpIndirect) lines
    ret := mispredictLines (fun flush => flush.missType = .functionReturn) lines }
  unknownKind : f.missesUnknown =
    mispredictLines (fun flush => flush.missType = .controlUnknown) lines
  reasons : (FlushReason.all.map f.byReason).sum = f.count
  sources : (FlushSource.all.map f.bySource).sum = f.count
  mispredicts : f.mispredicts = f.byReason .branchMispredict
  misses : f.misses.cond + f.misses.jump + f.misses.ret + f.missesUnknown ≤ f.mispredicts
  jumps : f.misses.jumpDirect + f.misses.jumpIndirect ≤ f.misses.jump
  /-- Registers keep the remainders of what flushes cost. -/
  penaltyCycles : f.penaltyCycles =
    FlushPenalty.totalCycles (lines.filterMap FlushPenalty.ofText?) % Numeral.bound
  branchPenaltyCycles : f.branchPenaltyCycles =
    FlushPenalty.totalCycles ((lines.filterMap FlushPenalty.ofText?).filter fun p =>
      p.reason = .branchMispredict) % Numeral.bound
  penalties : FlushPenalty.totalCycles (lines.filterMap FlushPenalty.ofText?) < Numeral.bound →
    f.branchPenaltyCycles ≤ f.penaltyCycles
  /-- Without totals from the simulator a flush redirects the program counter once if its line
carries a distance, and not at all otherwise. -/
  redirects : linesOf (.tagged .flushSummary) lines = [] →
    f.effects.redirects ≤ f.count ∧ f.effects.Redirected (redirectDistances lines)

/-! ## Flush lines -/

namespace Trace

lemma flushes_ofLines_eq_filterMap (lines : List String) :
    (ofLines lines).flushes = lines.filterMap Flush.ofText? := by
  rw [flushes_ofLines, factsOf, List.map_filterMap]
  rfl

lemma countP_flushes_ofLines (p : Flush → Bool) (lines : List String) :
    (ofLines lines).flushes.countP p =
      lines.countP fun text => (Flush.ofText? text).any p := by
  rw [flushes_ofLines_eq_filterMap, countP_filterMap_eq]

lemma countP_mispredicts_ofLines (kind : Flush → Bool) (lines : List String) :
    (ofLines lines).mispredicts.countP kind = mispredictLines kind lines := by
  rw [mispredicts, List.countP_filter, countP_flushes_ofLines, mispredictLines]

lemma penalties_ofLines_eq_filterMap (lines : List String) :
    (ofLines lines).penalties = lines.filterMap FlushPenalty.ofText? := by
  rw [penalties_ofLines, factsOf, List.map_filterMap]
  rfl

lemma length_flushes_ofLines (lines : List String) :
    (ofLines lines).flushes.length = (linesOf (.tagged .flush) lines).length := by
  rw [flushes_ofLines, List.length_map, length_factsOf]

end Trace

/-! ## What was mispredicted -/

/-- If the detailed word says which kind of jump was mispredicted, a jump was. -/
lemma Flush.missType_eq_jump {f : Flush}
    (h : f.missSubtype ∈ [MissSubtype.jumpDirect, MissSubtype.jumpIndirect]) :
    f.missType = .jump := by
  simp only [List.mem_cons, List.not_mem_nil, or_false] at h
  obtain h | h := h
  · rw [Flush.missType, h]
    rfl
  · rw [Flush.missType, h]
    rfl

namespace Trace

variable (t : Trace)

/-- A misprediction is counted under one kind of transfer, or under none. -/
lemma misses_le_mispredicts :
    t.misses.cond + t.misses.jump + t.misses.ret +
      (t.mispredicts.countP fun f => f.missType = .controlUnknown) ≤ t.mispredicts.length := by
  have hnodup : [MissType.condBranch, .jump, .functionReturn, .controlUnknown].Nodup := by decide
  have hkinds := sum_map_countP Flush.missType hnodup t.mispredicts
  simp only [List.map_cons, List.map_nil, List.sum_cons, List.sum_nil] at hkinds
  have hle : (t.mispredicts.countP fun f =>
      f.missType ∈ [MissType.condBranch, .jump, .functionReturn, .controlUnknown]) ≤
        t.mispredicts.length := List.countP_le_length
  simp only [misses]
  omega

lemma jumps_le_jump : t.misses.jumpDirect + t.misses.jumpIndirect ≤ t.misses.jump := by
  have hnodup : [MissSubtype.jumpDirect, .jumpIndirect].Nodup := by decide
  have hkinds := sum_map_countP Flush.missSubtype hnodup t.mispredicts
  simp only [List.map_cons, List.map_nil, List.sum_cons, List.sum_nil, Nat.add_zero] at hkinds
  have hle : (t.mispredicts.countP fun f =>
      f.missSubtype ∈ [MissSubtype.jumpDirect, .jumpIndirect]) ≤ t.misses.jump := by
    refine List.countP_mono_left fun f _ hf => ?_
    exact decide_eq_true (Flush.missType_eq_jump (of_decide_eq_true hf))
  rw [← hkinds] at hle
  exact hle

/-! ## Sums of what the lines give -/

/-- If nothing is lost of what flushes cost, the corrected mispredictions cost a part of it. -/
lemma branchPenaltyCycles_le (h : FlushPenalty.totalCycles t.penalties < Numeral.bound) :
    t.flushFigures.branchPenaltyCycles ≤ t.flushFigures.penaltyCycles := by
  let branch := t.penalties.filter fun p => p.reason = .branchMispredict
  have hpart : (branch.map FlushPenalty.cycles).Sublist (t.penalties.map FlushPenalty.cycles) :=
    List.filter_sublist.map _
  have hall : t.flushFigures.penaltyCycles = FlushPenalty.totalCycles t.penalties :=
    Register.sum_eq_of_lt h
  calc t.flushFigures.branchPenaltyCycles
      ≤ FlushPenalty.totalCycles branch := Register.sum_le _
    _ ≤ FlushPenalty.totalCycles t.penalties := hpart.sum_le_sum fun n _ => Nat.zero_le n
    _ = t.flushFigures.penaltyCycles := hall.symm

/-- What single flushes did to the program counter. -/
lemma redirected_flushEffects :
    t.flushEffects.Redirected (t.flushes.filterMap Flush.redirectDistance) where
  redirects := rfl
  redirectSum := Register.sum_eq_mod _
  sum_le := (Register.sum_le _).trans (sum_le_length_mul_foldl_max _)
  max_le_sum h := (foldl_max_le_sum _).trans_eq (Register.sum_eq_of_lt h).symm

end Trace

/-! ## The flushes of a run -/

namespace RunSummary

/-- A log in which words are damaged, missing and contradict one another. -/
def flushLog : List String := [
  "[flush ] cycle=3 reason=branch_mispredict source=rob miss_type=return miss_subtype=jump_direct",
  "[flush ] cycle=9 reason=xranch_mispr redirect_distance=20 miss_type=cond_branch",
  "[flush ] reason=exception miss_subtype=jump_indirect redirect_distance=8",
  "[flushp] reason=branch_mispredict penalty=7"]

/-- A log with distances and with penalties that pass the bound of a register together. -/
def floodedLog : List String := [
  "[flush ] cycle=1 reason=exception redirect_distance=18446744073709551615",
  "[flush ] cycle=2 reason=exception redirect_distance=18446744073709551615",
  "[flushp] reason=branch_mispredict penalty=18446744073709551615",
  "[flushp] reason=exception penalty=1"]

end RunSummary

end PipelineProfile
