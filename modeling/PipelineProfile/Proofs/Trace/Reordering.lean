import Mathlib.Data.List.Forall2
import Mathlib.Data.List.Perm.Basic
import PipelineProfile.Proofs.Commit.Stream
import PipelineProfile.Proofs.FetchQueue.Sampling
import PipelineProfile.Proofs.Trace.StallRuns
import PipelineProfile.Summary

/-!
# What the order of the lines may change

The lines of a trace come from several parts of a simulator, and how they interleave is an
accident.  This module says which accidents leave the summary of a run alone.

`Reordered` relates two lists of lines that agree in what a profile looks at: the last line of
every kind that totals a run, which commit, branch and penalty lines there are and how often, the
sequence of flushes, and for each run of stalls between flushes which lines it has.  The stalls
have to stay in their runs because a blocked decode is put down to the flush before it.

The argument goes through the events.  `Trace.Agrees` is the same relation on traces, and reading
lines takes the one to the other (`agrees_ofLines`).  Every group of figures has a lemma that it
is the same for traces that agree, and `ofLines_eq_of_reordered` puts the groups together.
-/

namespace PipelineProfile

/-- Two lists of lines that differ at most in noise, in lines that a later line replaces, and in
the order of lines that are counted. -/
structure Reordered (A B : List String) : Prop where
  /-- Of the lines that total a run, the last one of each kind is the same. -/
  last : ∀ k : LineKind, k.isEvent = false → (linesOf k A).getLast? = (linesOf k B).getLast?
  commits : (linesOf (.tagged .commit) A).Perm (linesOf (.tagged .commit) B)
  branchResolves : (linesOf (.tagged .branchResolve) A).Perm (linesOf (.tagged .branchResolve) B)
  penalties : (linesOf (.tagged .flushPenalty) A).Perm (linesOf (.tagged .flushPenalty) B)
  flushes : linesOf (.tagged .flush) A = linesOf (.tagged .flush) B
  /-- Between the same flushes there are the same stalls. -/
  stalls : List.Forall₂ List.Perm (stallRuns A) (stallRuns B)

namespace Trace

/-- Two traces that agree in everything that the figures of a run look at. -/
structure Agrees (s t : Trace) : Prop where
  last : ∀ {α : Type} {view : Event → Option α} {k : LineKind},
    Event.Shows view k → k.isEvent = false → s.last? view = t.last? view
  commits : s.commits.Perm t.commits
  branchResolves : s.countP Event.isBranchResolve = t.countP Event.isBranchResolve
  penalties : s.penalties.Perm t.penalties
  flushes : s.flushes = t.flushes
  stallRuns : List.Forall₂ List.Perm s.stallRuns t.stallRuns

/-! ## From lines to events -/

lemma factsOf_perm {tag : Tag} {A B : List String}
    (h : (linesOf (.tagged tag) A).Perm (linesOf (.tagged tag) B)) :
    (factsOf tag A).Perm (factsOf tag B) := by
  rw [← factsOf_linesOf tag A, ← factsOf_linesOf tag B]
  exact h.filterMap _

/-- Reordered lines tell of traces that agree. -/
lemma agrees_ofLines {A B : List String} (h : Reordered A B) :
    (ofLines A).Agrees (ofLines B) where
  last hview hk := last?_ofLines_congr hview hk (h.last _ hk)
  commits := by
    rw [commits_ofLines, commits_ofLines]
    exact (factsOf_perm h.commits).filterMap _
  branchResolves := by
    rw [countP_isBranchResolve_ofLines, countP_isBranchResolve_ofLines, h.branchResolves.length_eq]
  penalties := by
    rw [penalties_ofLines, penalties_ofLines]
    exact (factsOf_perm h.penalties).map _
  flushes := by
    rw [flushes_ofLines, flushes_ofLines, ← factsOf_linesOf .flush A, h.flushes, factsOf_linesOf]
  stallRuns := by
    rw [stallRuns_ofLines, stallRuns_ofLines, List.forall₂_map_left_iff, List.forall₂_map_right_iff]
    exact h.stalls.imp fun _ _ hrun => (hrun.filterMap _).map _

namespace Agrees

variable {s t : Trace}

lemma stalls (h : s.Agrees t) : s.stalls.Perm t.stalls := by
  rw [← flatten_stallRuns s, ← flatten_stallRuns t]
  exact List.Perm.flatten_congr h.stallRuns

lemma stallsIn (h : s.Agrees t) (c : StallCategory) : (s.stallsIn c).Perm (t.stallsIn c) :=
  h.stalls.filter _

lemma queueSamples (h : s.Agrees t) : s.queueSamples.Perm t.queueSamples := h.stalls.filterMap _

lemma mispredicts (h : s.Agrees t) : s.mispredicts = t.mispredicts := by
  unfold Trace.mispredicts
  rw [h.flushes]

/-! ## Sources -/

lemma hasSummary_eq (h : s.Agrees t) (f : MetricFamily) : s.hasSummary f = t.hasSummary f := by
  cases f with
  | commit => rw [hasSummary, hasSummary, h.last Event.shows_commitSummary? rfl]
  | control => rw [hasSummary, hasSummary, h.last Event.shows_controlSummary? rfl]
  | hotspot =>
    rw [hasSummary, hasSummary, h.last Event.shows_hotPcs? rfl, h.last Event.shows_hotInsts? rfl]
  | stall => rw [hasSummary, hasSummary, h.last Event.shows_stallSummary? rfl]
  | frontendEmptyDetail =>
    rw [hasSummary, hasSummary, h.last Event.shows_frontendEmptySummary? rfl]
  | decodeBlockedDetail =>
    rw [hasSummary, hasSummary, h.last Event.shows_decodeBlockedSummary? rfl]
  | robBackpressureDetail =>
    rw [hasSummary, hasSummary, h.last Event.shows_robBackpressureSummary? rfl]
  | otherDetail => rw [hasSummary, hasSummary, h.last Event.shows_otherSummary? rfl]
  | predict => rw [hasSummary, hasSummary, h.last Event.shows_predictor? rfl]
  | fetchQueue => rw [hasSummary, hasSummary, h.last Event.shows_fetchQueueSummary? rfl]
  | flush => rw [hasSummary, hasSummary, h.last Event.shows_flushSummary? rfl]

lemma hasSamples_eq (h : s.Agrees t) (f : MetricFamily) : s.hasSamples f = t.hasSamples f := by
  cases f <;>
    simp only [hasSamples, h.commits.isEmpty_eq, h.stalls.isEmpty_eq, (h.stallsIn _).isEmpty_eq,
      h.queueSamples.isEmpty_eq, h.mispredicts, h.flushes]

lemma source_eq (h : s.Agrees t) : s.source = t.source := by
  funext f
  rw [source, source, h.hasSummary_eq, h.hasSamples_eq]

/-! ## Totals, time and flushes -/

lemma runStats_eq (h : s.Agrees t) : s.runStats = t.runStats := by
  rw [Trace.runStats, Trace.runStats, h.last Event.shows_runStats? rfl]

lemma summaryCycles?_eq (h : s.Agrees t) : s.summaryCycles? = t.summaryCycles? := by
  rw [summaryCycles?, summaryCycles?, h.last Event.shows_commitSummary? rfl]

lemma timedOut?_eq (h : s.Agrees t) : s.timedOut? = t.timedOut? := by
  rw [timedOut?, timedOut?, h.runStats_eq, h.summaryCycles?_eq, h.last Event.shows_timeout? rfl]

lemma cycles_eq (h : s.Agrees t) : s.cycles = t.cycles := by
  rw [Trace.cycles, Trace.cycles, h.runStats_eq, h.summaryCycles?_eq, h.timedOut?_eq]

lemma instructions_eq (h : s.Agrees t) : s.instructions = t.instructions := by
  rw [instructions, instructions, summaryCommits?, summaryCommits?, h.runStats_eq,
    h.last Event.shows_commitSummary? rfl, h.commits.length_eq]

lemma totals_eq (h : s.Agrees t) : s.totals = t.totals := by
  rw [totals, totals, h.runStats_eq, h.cycles_eq, h.instructions_eq]

lemma time_eq (h : s.Agrees t) : s.time = t.time := by
  rw [time, time, h.last Event.shows_selfTime? rfl, h.last Event.shows_hostTime? rfl]

lemma misses_eq (h : s.Agrees t) : s.misses = t.misses := by
  rw [misses, misses, h.mispredicts]

lemma flushFigures_eq (h : s.Agrees t) : s.flushFigures = t.flushFigures := by
  have heffects : s.flushEffects = t.flushEffects := by
    rw [flushEffects, flushEffects, h.flushes, h.mispredicts]
  have hall := Register.sum_perm (h.penalties.map FlushPenalty.cycles)
  have hbranch := Register.sum_perm
    ((h.penalties.filter fun p => p.reason = .branchMispredict).map FlushPenalty.cycles)
  rw [flushFigures, flushFigures, h.flushes, h.mispredicts, h.misses_eq, heffects, hall, hbranch,
    h.last Event.shows_flushSummary? rfl]

/-! ## Commits, prediction and fetching -/

lemma commitWidths_eq (h : s.Agrees t) (config : Config) :
    s.commitWidths config = t.commitWidths config := by
  rw [commitWidths, commitWidths, h.last Event.shows_commitSummary? rfl, h.cycles_eq,
    CommitWidths.ofCommits_perm h.commits]

lemma controlFlow_eq (h : s.Agrees t) : s.controlFlow = t.controlFlow := by
  rw [controlFlow, controlFlow, h.last Event.shows_controlSummary? rfl, h.instructions_eq,
    ControlFlow.ofCommits_perm h.commits]

lemma hotPcs_eq (h : s.Agrees t) (config : Config) : s.hotPcs config = t.hotPcs config := by
  rw [Trace.hotPcs, Trace.hotPcs, h.hasSummary_eq, h.last Event.shows_hotPcs? rfl,
    Hotspot.top_perm (h.commits.map Commit.pc)]

lemma hotInsts_eq (h : s.Agrees t) (config : Config) :
    s.hotInsts config = t.hotInsts config := by
  rw [Trace.hotInsts, Trace.hotInsts, h.hasSummary_eq, h.last Event.shows_hotInsts? rfl,
    Hotspot.top_perm (h.commits.map Commit.inst)]

lemma predictCounters_eq (h : s.Agrees t) : s.predictCounters = t.predictCounters := by
  rw [predictCounters, predictCounters, h.last Event.shows_predictor? rfl, h.misses_eq,
    TransferMix.ofWords_perm (h.commits.map Commit.inst)]

lemma fetchQueue_eq (h : s.Agrees t) (config : Config) :
    s.fetchQueue config = t.fetchQueue config := by
  rw [fetchQueue, fetchQueue, h.last Event.shows_fetchQueueSummary? rfl,
    FetchQueue.ofSamples_perm h.queueSamples]

/-! ## Stalls -/

lemma categoryTotals_eq (h : s.Agrees t) : s.categoryTotals = t.categoryTotals := by
  have hsampled : s.sampledTotals = t.sampledTotals := by
    simp only [sampledTotals, h.stalls.length_eq, (h.stallsIn _).length_eq]
  rw [categoryTotals, categoryTotals, h.last Event.shows_stallSummary? rfl, hsampled]

lemma detailLabels_perm (h : s.Agrees t) (lanes : Nat) (c : StallCategory) :
    (s.detailLabels lanes c).Perm (t.detailLabels lanes c) :=
  (h.stallsIn c).filterMap _

lemma stallDetail_eq (h : s.Agrees t) (lanes : Nat) (c : StallCategory)
    (summary : Option StallDetail) :
    s.stallDetail lanes c summary = t.stallDetail lanes c summary := by
  cases summary with
  | some d => rfl
  | none =>
    have hlabels := h.detailLabels_perm lanes c
    rw [stallDetail_none, stallDetail_none, hlabels.isEmpty_eq, hlabels.length_eq,
      Tally.ofKeys_perm hlabels, h.categoryTotals_eq]

lemma blockedAfter_eq (h : s.Agrees t) (counts : Flush → Bool) (window : Nat) :
    s.blockedAfter counts window = t.blockedAfter counts window := by
  rw [blockedAfter_eq_blockedOver, blockedAfter_eq_blockedOver, h.flushes,
    blockedOver_perm counts window h.stallRuns]

lemma stallFigures_eq (h : s.Agrees t) (config : Config) :
    s.stallFigures config = t.stallFigures config := by
  simp only [stallFigures, h.categoryTotals_eq, h.stallDetail_eq,
    h.last Event.shows_frontendEmptySummary? rfl, h.last Event.shows_decodeBlockedSummary? rfl,
    h.last Event.shows_robBackpressureSummary? rfl, h.last Event.shows_otherSummary? rfl,
    h.last Event.shows_otherAuxSummary? rfl, (h.stallsIn _).length_eq, blockedAfterFlush,
    blockedAfterMispredict, h.blockedAfter_eq]

/-! ## Warnings -/

lemma warnings_eq (h : s.Agrees t) : s.warnings = t.warnings := by
  have hcommit : s.commitWarning? = t.commitWarning? := by
    rw [commitWarning?, commitWarning?, h.source_eq, h.commits.isEmpty_eq]
  have htime : s.timeWarning? = t.timeWarning? := by
    rw [timeWarning?, timeWarning?, h.time_eq]
  have hsampled : s.sampledWarning? = t.sampledWarning? := by
    funext family warning
    rw [sampledWarning?, sampledWarning?, h.source_eq]
  rw [Trace.warnings, Trace.warnings, h.timedOut?_eq, htime, hcommit, hsampled, detailWarnings,
    detailWarnings, h.source_eq, hsampled, h.predictCounters_eq]

end Agrees

end Trace

namespace RunSummary

/-- Traces that agree have the same summary. -/
lemma ofTrace_eq_of_agrees {s t : Trace} (h : s.Agrees t) (config : Config) (logPath : String) :
    ofTrace config logPath s = ofTrace config logPath t := by
  simp only [ofTrace, h.totals_eq, h.time_eq, h.flushFigures_eq, h.branchResolves,
    h.commits.isEmpty_eq, h.hasSummary_eq, h.commitWidths_eq, h.controlFlow_eq, h.hotPcs_eq,
    h.hotInsts_eq, h.stallFigures_eq, h.predictCounters_eq, h.fetchQueue_eq, h.source_eq,
    h.warnings_eq]

/-- **The summary of a run does not depend on the order of its lines.**  Lines that are counted
may come in any order, but for stalls, which stay between their flushes; lines that total the run
may be printed as often as one likes, as long as the last one of each kind stays; and lines that
say nothing do not matter at all. -/
theorem ofLines_eq_of_reordered (config : Config) (logPath : String) {A B : List String}
    (h : Reordered A B) : ofLines config logPath A = ofLines config logPath B :=
  ofTrace_eq_of_agrees (Trace.agrees_ofLines h) config logPath

/-! ### Two orders of one log -/

/-- A log with a summary line that is printed twice. -/
def shortLog : List String := [
  "[commitm] cycles=9",
  "[commit] cycle=2 slot=0 pc=4 inst=99",
  "[stall ] cycle=5 dec(v/r)=1/0",
  "[flush ] cycle=7",
  "[stall ] cycle=8 dec(v/r)=1/0",
  "[stall ] rob_ready=0",
  "[commit] cycle=1 slot=0 pc=0 inst=19",
  "[commitm] cycles=40"]

/-- The lines of `shortLog` in another order, with noise, and without the summary that is
replaced. -/
def shortLogReordered : List String := [
  "[commit] cycle=1 slot=0 pc=0 inst=19",
  "noise",
  "[stall ] cycle=5 dec(v/r)=1/0",
  "[commitm] cycles=40",
  "[flush ] cycle=7",
  "[stall ] rob_ready=0",
  "[stall ] cycle=8 dec(v/r)=1/0",
  "[commit] cycle=2 slot=0 pc=4 inst=99"]

lemma kinds_shortLog :
    shortLog.map (fun text => (Line.read text).kind?) =
      [some (.tagged .commitSummary), some (.tagged .commit), some (.tagged .stall),
        some (.tagged .flush), some (.tagged .stall), some (.tagged .stall),
        some (.tagged .commit), some (.tagged .commitSummary)] := by
  decide

lemma kinds_shortLogReordered :
    shortLogReordered.map (fun text => (Line.read text).kind?) =
      [some (.tagged .commit), none, some (.tagged .stall), some (.tagged .commitSummary),
        some (.tagged .flush), some (.tagged .stall), some (.tagged .stall),
        some (.tagged .commit)] := by
  decide

lemma reordered_shortLog : Reordered shortLog shortLogReordered where
  last k hk := by
    rw [linesOf_eq_of_kinds kinds_shortLog, linesOf_eq_of_kinds kinds_shortLogReordered]
    revert hk
    cases k with
    | tagged tag => cases tag <;> decide
    | _ => decide
  commits := by
    rw [linesOf_eq_of_kinds kinds_shortLog, linesOf_eq_of_kinds kinds_shortLogReordered]
    decide
  branchResolves := by
    rw [linesOf_eq_of_kinds kinds_shortLog, linesOf_eq_of_kinds kinds_shortLogReordered]
    decide
  penalties := by
    rw [linesOf_eq_of_kinds kinds_shortLog, linesOf_eq_of_kinds kinds_shortLogReordered]
    decide
  flushes := by
    rw [linesOf_eq_of_kinds kinds_shortLog, linesOf_eq_of_kinds kinds_shortLogReordered]
    decide
  stalls := by decide

/-- The two orders of the log have the same summary. -/
theorem ofLines_shortLog_eq :
    Reordered shortLog shortLogReordered ∧
      ofLines {} "run.log" shortLog = ofLines {} "run.log" shortLogReordered :=
  ⟨reordered_shortLog, ofLines_eq_of_reordered {} "run.log" reordered_shortLog⟩

end RunSummary

end PipelineProfile
