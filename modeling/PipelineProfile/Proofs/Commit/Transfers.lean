import PipelineProfile.Proofs.Commit.Stream
import PipelineProfile.Proofs.Trace.LineKind
import PipelineProfile.Summary

/-!
# Two counts of control transfers

Control transfers are counted twice from the commit lines of a run.  For the branch predictor
every instruction counts, in the order in which the lines come and by its word alone, and a return
is not a jump.  For the control flow the lines are sorted into the stream of retired instructions,
every instruction is looked at together with the one behind it, and a return is a jump like any
other.

The two agree but for the last instruction of the stream, which has none behind it.  Taking the
first instruction of every step leaves the stream without its last one (`map_fst_steps`), so
whatever is counted by words is counted by steps, and once more if the last instruction is of that
kind (`countP_words`).  That the kinds divide the jumps in different ways does not matter: every
return is a jump (`isJump_of_isReturn`), and a jump is of one of two opcodes (`countP_isJump`).

The main result is `transfers_agree`.  It says which instruction is the last one in terms of the
lines (`Commit.IsLast`), which may come in any order.
-/

namespace PipelineProfile

/-! ## Kinds of instructions -/

namespace Instruction

lemma isJump_of_isReturn {w : UInt32} (h : isReturn w = true) : isJump w = true := by
  simp only [isReturn, Bool.and_eq_true, decide_eq_true_eq] at h
  obtain ⟨⟨⟨hclass, -⟩, -⟩, -⟩ := h
  rw [isJump, hclass]
  rfl

/-- Jumps have one of two opcodes. -/
lemma countP_isJump {α : Type} (word : α → UInt32) (l : List α) :
    (l.countP fun a => isJump (word a)) =
      (l.countP fun a => InstClass.ofWord (word a) = .jal) +
        l.countP fun a => InstClass.ofWord (word a) = .jalr := by
  induction l with
  | nil => rfl
  | cons a l ih =>
    rw [List.countP_cons, List.countP_cons, List.countP_cons, ih, isJump]
    cases InstClass.ofWord (word a) with
    | jal | jalr => simp [InstClass.isJump]; omega
    | condBranch | other => simp [InstClass.isJump]

end Instruction

/-- Returns and all other jumps are the jumps. -/
lemma TransferMix.jump_add_ret_ofWords (ws : List UInt32) :
    (ofWords ws).jump + (ofWords ws).ret = ws.countP Instruction.isJump := by
  unfold ofWords
  dsimp only
  induction ws with
  | nil => rfl
  | cons w ws ih =>
    simp only [List.countP_cons]
    by_cases hret : Instruction.isReturn w = true
    · simp [hret, Instruction.isJump_of_isReturn hret]
      omega
    · simp [hret]
      omega

/-! ## The last instruction of the stream -/

namespace Commit

/-- The retired instruction on a text, if it is a commit line with all four facts. -/
def ofText? (text : String) : Option Commit := ((Line.read text).facts? .commit).bind ofFacts?

/-- One of the instructions on some lines is the last in the order of the stream. -/
structure IsLast (lines : List String) (last : Commit) : Prop where
  reported : ∃ text ∈ lines, ofText? text = some last
  precedes : ∀ text ∈ lines, ∀ c, ofText? text = some c → c.precedes last = true

lemma commits_ofLines_eq_filterMap (lines : List String) :
    (Trace.ofLines lines).commits = lines.filterMap ofText? := by
  rw [Trace.commits_ofLines, factsOf, List.filterMap_filterMap]
  rfl

lemma isLast_iff {lines : List String} {last : Commit} :
    IsLast lines last ↔
      last ∈ (Trace.ofLines lines).commits ∧
        ∀ c ∈ (Trace.ofLines lines).commits, c.precedes last = true := by
  simp only [commits_ofLines_eq_filterMap, List.mem_filterMap]
  constructor
  · rintro ⟨hreported, hprecedes⟩
    exact ⟨hreported, fun c ⟨text, htext, hc⟩ => hprecedes text htext c hc⟩
  · rintro ⟨hreported, hprecedes⟩
    exact ⟨hreported, fun text htext c hc => hprecedes c ⟨text, htext, hc⟩⟩

variable {cs : List Commit}

lemma precedes_refl (c : Commit) : c.precedes c = true := by
  have h := precedes_total c c
  rwa [Bool.or_self] at h

/-- The stream ends with an instruction that all others precede. -/
lemma exists_stream_eq_concat (h : cs ≠ []) :
    ∃ front last, stream cs = front ++ [last] ∧ last ∈ cs ∧ ∀ c ∈ cs, c.precedes last = true := by
  have hperm : (stream cs).Perm cs := List.mergeSort_perm cs precedes
  have hne : stream cs ≠ [] := fun hnil => h (List.nil_perm.mp (hnil ▸ hperm))
  obtain ⟨front, last, hstream⟩ := (List.eq_nil_or_concat' (stream cs)).resolve_left hne
  have hmem : ∀ c, c ∈ cs ↔ c ∈ front ∨ c = last := fun c => by
    rw [← hperm.mem_iff, hstream, List.mem_append, List.mem_singleton]
  have hfront : ∀ c ∈ front, c.precedes last = true := by
    have hpairwise := pairwise_stream cs
    rw [hstream, List.pairwise_append] at hpairwise
    exact fun c hc => hpairwise.2.2 c hc last (List.mem_singleton_self last)
  refine ⟨front, last, hstream, (hmem last).mpr (.inr rfl), fun c hc => ?_⟩
  obtain hc | rfl := (hmem c).mp hc
  · exact hfront c hc
  · exact precedes_refl c

end Commit

/-! ## Counting by words and by steps -/

/-- The first instructions of all steps are the stream without its last instruction. -/
lemma ControlCounts.map_fst_steps (front : List Commit) (last : Commit) :
    (steps (front ++ [last])).map Prod.fst = front := by
  induction front with
  | nil => rfl
  | cons c front ih =>
    obtain ⟨d, rest, hrest⟩ : ∃ d rest, front ++ [last] = d :: rest :=
      List.exists_cons_of_ne_nil (List.append_ne_nil_of_right_ne_nil front (List.cons_ne_nil last []))
    rw [steps, hrest] at ih
    rw [steps, List.cons_append, hrest, List.tail_cons, List.zip_cons_cons, List.map_cons]
    exact congrArg (c :: ·) ih

/-- What is counted by words is counted by steps, and once more for the last instruction. -/
lemma ControlCounts.countP_words {cs : List Commit} {last : Commit} (hmem : last ∈ cs)
    (hlast : ∀ c ∈ cs, c.precedes last = true) (kind : UInt32 → Bool) :
    (cs.map Commit.inst).countP kind =
      ((steps (Commit.stream cs)).countP fun s => kind s.1.inst) +
        if kind last.inst then 1 else 0 := by
  obtain ⟨front, greatest, hstream, hend, hall⟩ :=
    Commit.exists_stream_eq_concat (List.ne_nil_of_mem hmem)
  -- Only one instruction comes behind all others.
  obtain rfl : greatest = last := Commit.precedes_antisymm (hlast greatest hend) (hall last hmem)
  have hperm : (Commit.stream cs).Perm cs := List.mergeSort_perm cs Commit.precedes
  calc (cs.map Commit.inst).countP kind
      = (Commit.stream cs).countP fun c => kind c.inst := by
        rw [List.countP_map, hperm.countP_eq]
        rfl
    _ = (front.countP fun c => kind c.inst) + if kind greatest.inst then 1 else 0 := by
        rw [hstream, List.countP_append, List.countP_singleton]
    _ = _ := by
        rw [hstream]
        conv_lhs => rw [← map_fst_steps front greatest, List.countP_map]
        rfl

/-! ## The two counts of a run -/

/-- The counters of a predictor and the counts of control flow agree but for the last
instruction. -/
structure AgreeButFor (last : Commit) (p : PredictCounters) (c : ControlCounts) : Prop where
  branches : p.cond.total = c.branches + if Instruction.isCondBranch last.inst then 1 else 0
  returns : p.ret.total = c.returns + if Instruction.isReturn last.inst then 1 else 0
  calls : p.calls = c.calls + if Instruction.isCall last.inst then 1 else 0
  jumps : p.jump.total + p.ret.total =
    c.jals + c.jalrs + if Instruction.isJump last.inst then 1 else 0

/-- The two counts of a list of instructions. -/
lemma agreeButFor_ofCommits {cs : List Commit} {last : Commit} (hmem : last ∈ cs)
    (hlast : ∀ c ∈ cs, c.precedes last = true) (misses : MispredictCounts) :
    AgreeButFor last (.rebuilt (.ofWords (cs.map Commit.inst)) misses) (.ofCommits cs) := by
  have hcount := ControlCounts.countP_words hmem hlast
  exact {
    branches := hcount Instruction.isCondBranch
    returns := hcount Instruction.isReturn
    calls := hcount Instruction.isCall
    jumps := by
      have hjumps := hcount Instruction.isJump
      rw [← TransferMix.jump_add_ret_ofWords, Instruction.countP_isJump] at hjumps
      exact hjumps }

namespace RunSummary

/-- **The predictor and the control flow count the same control transfers.**  If both are counted
from commit lines, in whatever order these come, the kinds differ by the last instruction of the
stream alone, which only the predictor counts. -/
theorem transfers_agree (config : Config) (path : String) {lines : List String}
    (hcontrol : linesOf (.tagged .controlSummary) lines = [])
    (hpredictor : linesOf (.tagged .predictor) lines = [])
    (hcommit : ∃ text ∈ lines, (Commit.ofText? text).isSome = true) :
    (∃ last, Commit.IsLast lines last) ∧
      ∀ last, Commit.IsLast lines last →
        AgreeButFor last (ofLines config path lines).predict
          (ofLines config path lines).control.counts := by
  refine ⟨?_, fun last hlast => ?_⟩
  · have hne : (Trace.ofLines lines).commits ≠ [] := by
      obtain ⟨text, htext, hsome⟩ := hcommit
      obtain ⟨c, hc⟩ := Option.isSome_iff_exists.mp hsome
      rw [Commit.commits_ofLines_eq_filterMap]
      exact List.ne_nil_of_mem (List.mem_filterMap.mpr ⟨text, htext, hc⟩)
    obtain ⟨-, last, -, hmem, hall⟩ := Commit.exists_stream_eq_concat hne
    exact ⟨last, Commit.isLast_iff.mpr ⟨hmem, hall⟩⟩
  · obtain ⟨hmem, hall⟩ := Commit.isLast_iff.mp hlast
    have hnocontrol := Trace.last?_ofLines_eq_none Event.shows_controlSummary? rfl hcontrol
    have hnopredictor := Trace.last?_ofLines_eq_none Event.shows_predictor? rfl hpredictor
    simp only [ofLines, ofTrace, Trace.predictCounters, Trace.controlFlow, hnocontrol,
      hnopredictor]
    exact agreeButFor_ofCommits hmem hall _

/-! ### The transfers of one log -/

/-- A log with a branch, a call and a return, of which the return comes first but retires last. -/
def transferLog : List String := [
  "[commit] cycle=9 slot=1 pc=0x80 inst=0x00008067",
  "[commit] cycle=4 slot=0 pc=0x10 inst=0x00000463",
  "[commit] cycle=9 slot=0 pc=0x20 inst=0x010000ef",
  "[commit] cycle=9 slot=2 pc=0x84"]

/-- The return of the log is the last instruction, so only the predictor counts it. -/
theorem transfers_transferLog :
    linesOf (.tagged .controlSummary) transferLog = [] ∧
      linesOf (.tagged .predictor) transferLog = [] ∧
      Commit.IsLast transferLog ⟨9, 1, 0x80, 0x8067⟩ ∧
      (ofLines {} "run.log" transferLog).predict.ret.total =
        (ofLines {} "run.log" transferLog).control.counts.returns + 1 ∧
      (ofLines {} "run.log" transferLog).predict.calls =
        (ofLines {} "run.log" transferLog).control.counts.calls := by
  have hlines : linesOf (.tagged .controlSummary) transferLog = [] ∧
      linesOf (.tagged .predictor) transferLog = [] ∧
      (∃ text ∈ transferLog, Commit.ofText? text = some ⟨9, 1, 0x80, 0x8067⟩) ∧
      ∀ text ∈ transferLog, ∀ c, Commit.ofText? text = some c →
        c.precedes ⟨9, 1, 0x80, 0x8067⟩ = true := by
    decide
  obtain ⟨hcontrol, hpredictor, hreported, hprecedes⟩ := hlines
  have hlast : Commit.IsLast transferLog ⟨9, 1, 0x80, 0x8067⟩ := ⟨hreported, hprecedes⟩
  have hcommit : ∃ text ∈ transferLog, (Commit.ofText? text).isSome = true := by
    obtain ⟨text, htext, hsome⟩ := hreported
    exact ⟨text, htext, Option.isSome_of_eq_some hsome⟩
  have hagree := (transfers_agree {} "run.log" hcontrol hpredictor hcommit).2 _ hlast
  exact ⟨hcontrol, hpredictor, hlast, hagree.returns, hagree.calls⟩

end RunSummary

end PipelineProfile
