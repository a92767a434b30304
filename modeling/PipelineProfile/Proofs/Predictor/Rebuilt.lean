import PipelineProfile.Proofs.Commit.Transfers
import PipelineProfile.Proofs.Flush.Accounting
import PipelineProfile.Proofs.Summary.Announcements

/-!
# The rebuilt counters of the predictor

Without a predictor line the counters of the predictor are put together from two tallies that know
nothing of each other.  The totals count retired instructions by their words.  The misses count
flushes by the words on their lines, which may be damaged, so there may well be more misses of a
kind than there are transfers of it, and what is left over for the hits is then zero.

Each tally is consistent in itself.  Of the instructions, every call is a direct jump
(`isDirectJump_of_isCall`), and direct and indirect jumps divide the jumps
(`TransferMix.jump_ofWords`).  Of the misses, those of direct and indirect jumps are at most those
of jumps (`Trace.jumps_le_jump`).  The hits inherit this (`rebuilt_jump_hit_le`), although they are
differences that are cut off at zero.  What is said of the providers is zero throughout, so nothing
about them can be a contradiction (`violations_rebuilt`).

The main result is `predictor_consistent`.
-/

namespace PipelineProfile

/-! ## Kinds of jumps -/

namespace Instruction

/-- Whether an instruction is a jump that is neither a return nor indirect. -/
def isDirectJump (w : UInt32) : Bool := isJump w && !isReturn w && !isIndirectJump w

lemma isJump_of_isIndirectJump {w : UInt32} (h : isIndirectJump w = true) : isJump w = true := by
  simp only [isIndirectJump, Bool.and_eq_true, decide_eq_true_eq] at h
  rw [isJump, h.1.1]
  rfl

lemma not_isReturn_of_isIndirectJump {w : UInt32} (h : isIndirectJump w = true) :
    isReturn w = false := by
  simp only [isIndirectJump, Bool.and_eq_true, Bool.not_eq_true'] at h
  exact h.2

lemma isDirectJump_of_isCall {w : UInt32} (h : isCall w = true) : isDirectJump w = true := by
  have hjump : isJump w = true := by
    rw [isCall, Bool.and_eq_true] at h
    exact h.1
  have hindirect : isIndirectJump w = false := by simp [isIndirectJump, h]
  simp [isDirectJump, hjump, not_isReturn_of_isCall h, hindirect]

end Instruction

open Instruction

namespace TransferMix

variable (ws : List UInt32)

/-- Direct and indirect jumps are the jumps. -/
lemma jump_ofWords : (ofWords ws).jump = (ofWords ws).jumpDirect + (ofWords ws).jumpIndirect := by
  have hindirect : ∀ w, (isJump w && !isReturn w && isIndirectJump w) = isIndirectJump w := by
    intro w
    by_cases h : isIndirectJump w = true
    · simp [h, isJump_of_isIndirectJump h, not_isReturn_of_isIndirectJump h]
    · simp [h]
  have hsplit := List.countP_eq_countP_filter_add ws
    (fun w => isJump w && !isReturn w) isIndirectJump
  simp only [List.countP_filter, hindirect] at hsplit
  rw [Nat.add_comm] at hsplit
  exact hsplit

lemma call_le_jumpDirect : (ofWords ws).call ≤ (ofWords ws).jumpDirect := by
  apply List.countP_mono_left
  intro w _ hcall
  exact isDirectJump_of_isCall hcall

/-- Branches, jumps and returns are the instructions of the three opcodes that transfer control. -/
lemma transfers_ofWords :
    (ofWords ws).cond + (ofWords ws).jump + (ofWords ws).ret =
      ws.countP fun w => InstClass.ofWord w ∈ [InstClass.condBranch, .jal, .jalr] := by
  have hjumps := jump_add_ret_ofWords ws
  have hopcodes : ws.countP isJump = (ws.countP fun w => InstClass.ofWord w = .jal) +
      ws.countP fun w => InstClass.ofWord w = .jalr := countP_isJump (fun w => w) ws
  have hsum := sum_map_countP InstClass.ofWord
    (by decide : [InstClass.condBranch, .jal, .jalr].Nodup) ws
  have hcond : (ofWords ws).cond = ws.countP fun w => InstClass.ofWord w = .condBranch := rfl
  simp only [List.map_cons, List.map_nil, List.sum_cons, List.sum_nil] at hsum
  omega

end TransferMix

/-! ## Totals, misses and hits -/

/-- The misses are as given, and the hits are what they leave of the total, if anything. -/
structure PredictionCounts.LeftOver (c : PredictionCounts) (miss : Nat) : Prop where
  miss : c.miss = miss
  hit : (c.hit : Int) = max ((c.total : Int) - (c.miss : Int)) 0

lemma PredictionCounts.leftOver_rebuilt (total miss : Nat) : (rebuilt total miss).LeftOver miss where
  miss := rfl
  hit := by
    change ((total - miss : Nat) : Int) = max ((total : Int) - (miss : Int)) 0
    omega

namespace PredictCounters

/-- If the misses of direct and indirect jumps are misses of jumps, the hits of jumps are hits of
direct or indirect jumps. -/
lemma rebuilt_jump_hit_le {mix : TransferMix} {misses : MispredictCounts}
    (htotal : mix.jump = mix.jumpDirect + mix.jumpIndirect)
    (hmiss : misses.jumpDirect + misses.jumpIndirect ≤ misses.jump) :
    (rebuilt mix misses).jump.hit ≤
      (rebuilt mix misses).jumpDirect.hit + (rebuilt mix misses).jumpIndirect.hit := by
  change mix.jump - misses.jump ≤
    (mix.jumpDirect - misses.jumpDirect) + (mix.jumpIndirect - misses.jumpIndirect)
  omega

/-- Rebuilt counters say nothing of the providers that could contradict itself. -/
lemma violations_rebuilt (mix : TransferMix) (misses : MispredictCounts) :
    (rebuilt mix misses).violations = [] := by
  simp [violations, rebuilt, selected, Provider.all, Register.sum_eq_mod]

end PredictCounters

/-! ## The counters of a run -/

/-- How many lines report a retired instruction of some kind. -/
def commitLines (kind : UInt32 → Bool) (lines : List String) : Nat :=
  lines.countP fun text => (Commit.ofText? text).any fun c => kind c.inst

lemma Trace.countP_words_ofLines (kind : UInt32 → Bool) (lines : List String) :
    ((ofLines lines).commits.map Commit.inst).countP kind = commitLines kind lines := by
  rw [List.countP_map, Commit.commits_ofLines_eq_filterMap, countP_filterMap_eq]
  rfl

/-- The counters of a predictor count the commit lines and agree with the mispredictions of the
run and with one another. -/
structure PredictCounters.Consistent (lines : List String) (misses : MispredictCounts)
    (p : PredictCounters) : Prop where
  /-- Each total counts the commit lines with an instruction of the kind. -/
  totals : p.cond.total = commitLines isCondBranch lines ∧
    p.jump.total = commitLines (fun w => isJump w && !isReturn w) lines ∧
    p.jumpDirect.total = commitLines isDirectJump lines ∧
    p.jumpIndirect.total = commitLines isIndirectJump lines ∧
    p.ret.total = commitLines isReturn lines ∧
    p.calls = commitLines isCall lines
  jumps : p.jump.total = p.jumpDirect.total + p.jumpIndirect.total
  calls : p.calls ≤ p.jumpDirect.total
  transfers : p.cond.total + p.jump.total + p.ret.total =
    commitLines (fun w => InstClass.ofWord w ∈ [InstClass.condBranch, .jal, .jalr]) lines
  cond : p.cond.LeftOver misses.cond
  jump : p.jump.LeftOver misses.jump
  jumpDirect : p.jumpDirect.LeftOver misses.jumpDirect
  jumpIndirect : p.jumpIndirect.LeftOver misses.jumpIndirect
  ret : p.ret.LeftOver misses.ret
  jumpHits : p.jump.hit ≤ p.jumpDirect.hit + p.jumpIndirect.hit

namespace Trace

variable {lines : List String}

lemma consistent_rebuilt (lines : List String) {misses : MispredictCounts}
    (hmiss : misses.jumpDirect + misses.jumpIndirect ≤ misses.jump) :
    (PredictCounters.rebuilt (.ofWords ((ofLines lines).commits.map Commit.inst)) misses).Consistent
      lines misses := by
  have hcount := fun kind => countP_words_ofLines kind lines
  exact {
    totals := ⟨hcount _, hcount _, hcount _, hcount _, hcount _, hcount _⟩
    jumps := TransferMix.jump_ofWords _
    calls := TransferMix.call_le_jumpDirect _
    transfers := (TransferMix.transfers_ofWords _).trans (hcount _)
    cond := PredictionCounts.leftOver_rebuilt _ _
    jump := PredictionCounts.leftOver_rebuilt _ _
    jumpDirect := PredictionCounts.leftOver_rebuilt _ _
    jumpIndirect := PredictionCounts.leftOver_rebuilt _ _
    ret := PredictionCounts.leftOver_rebuilt _ _
    jumpHits := PredictCounters.rebuilt_jump_hit_le (TransferMix.jump_ofWords _) hmiss }

/-- Without predictor lines the counters are rebuilt. -/
lemma predictCounters_ofLines (hnone : linesOf (.tagged .predictor) lines = []) :
    (ofLines lines).predictCounters =
      .rebuilt (.ofWords ((ofLines lines).commits.map Commit.inst)) (ofLines lines).misses := by
  rw [predictCounters, last?_ofLines_eq_none Event.shows_predictor? rfl hnone]

end Trace

namespace RunSummary

/-- **Rebuilt counters of the predictor are consistent.**  Without a predictor line, jumps are
direct or indirect, calls are direct jumps, every control transfer is counted once, each kind has
the mispredictions of the run as misses and the rest, if there is one, as hits, and no
contradiction among the providers is reported. -/
theorem predictor_consistent (config : Config) (path : String) {lines : List String}
    (hnone : linesOf (.tagged .predictor) lines = []) :
    (ofLines config path lines).predict.Consistent lines
        (ofLines config path lines).flushes.misses ∧
      ∀ v, Warning.providers v ∉ (ofLines config path lines).warnings := by
  have hrebuilt := Trace.predictCounters_ofLines hnone
  constructor
  · change (Trace.ofLines lines).predictCounters.Consistent lines (Trace.ofLines lines).misses
    rw [hrebuilt]
    exact Trace.consistent_rebuilt lines (Trace.jumps_le_jump _)
  · intro v hv
    have happlies : v ∈ (Trace.ofLines lines).predictCounters.violations :=
      Trace.mem_warnings_iff.mp hv
    rw [hrebuilt, PredictCounters.violations_rebuilt] at happlies
    cases happlies

/-! ### The predictor of one log -/

/-- A log with a call, an indirect jump and a return, and with more mispredicted direct jumps than
it has jumps. -/
def jumpLog : List String := [
  "[commit] cycle=1 slot=0 pc=0x10 inst=0x010000ef",
  "[commit] cycle=2 slot=0 pc=0x20 inst=0x00078067",
  "[commit] cycle=3 slot=0 pc=0x30 inst=0x00008067",
  "[flush ] reason=branch_mispredict miss_subtype=jump_direct",
  "[flush ] reason=branch_mispredict miss_subtype=jump_direct",
  "[flush ] reason=branch_mispredict miss_type=jump"]

/-- The indirect jump of the log is a hit, although the jumps together have no hits left. -/
theorem predictor_jumpLog :
    linesOf (.tagged .predictor) jumpLog = [] ∧
      (ofLines {} "run.log" jumpLog).predict.jump.total = 2 ∧
      (ofLines {} "run.log" jumpLog).predict.jump.miss = 3 ∧
      (ofLines {} "run.log" jumpLog).predict.jump.hit = 0 ∧
      (ofLines {} "run.log" jumpLog).predict.jumpIndirect.hit = 1 := by
  have hlines : linesOf (.tagged .predictor) jumpLog = [] ∧
      commitLines (fun w => isJump w && !isReturn w) jumpLog = 2 ∧
      commitLines isIndirectJump jumpLog = 1 ∧
      (ofLines {} "run.log" jumpLog).flushes.misses.jump = 3 ∧
      (ofLines {} "run.log" jumpLog).flushes.misses.jumpIndirect = 0 := by
    decide
  obtain ⟨hnone, hjumps, hindirectJumps, hmisses, hindirectMisses⟩ := hlines
  obtain ⟨hconsistent, -⟩ := predictor_consistent {} "run.log" hnone
  have htotal : (ofLines {} "run.log" jumpLog).predict.jump.total = 2 :=
    hconsistent.totals.2.1.trans hjumps
  have hmiss : (ofLines {} "run.log" jumpLog).predict.jump.miss = 3 :=
    hconsistent.jump.miss.trans hmisses
  have hindirect : (ofLines {} "run.log" jumpLog).predict.jumpIndirect.total = 1 :=
    hconsistent.totals.2.2.2.1.trans hindirectJumps
  have hnomiss : (ofLines {} "run.log" jumpLog).predict.jumpIndirect.miss = 0 :=
    hconsistent.jumpIndirect.miss.trans hindirectMisses
  have hhit := hconsistent.jump.hit
  have hhitIndirect := hconsistent.jumpIndirect.hit
  exact ⟨hnone, htotal, hmiss, by omega, by omega⟩

end RunSummary

end PipelineProfile
