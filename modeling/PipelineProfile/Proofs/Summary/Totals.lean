import PipelineProfile.Proofs.Trace.Sources

/-!
# Where the totals of a run come from

The cycles and the instructions of a run have three sources each: the last final statistics, the
last summary of commits, and the events of the run, which are the last timeout for the cycles and
the commit lines for the instructions.  `FigureSources.cyclesOf` and `FigureSources.commitsOf` read
them off the lines, wherever these stand.

A source with a zero has nothing to say: numbers that cannot be read are zeros, and final
statistics with a zero are passed over.  So one expects the first source that is more than zero
(`FigureSources.firstPositive`).  But a zero on the summary of commits is taken as it is, and hides
a good source behind it (`FigureSources.IsShadowed`).  The main result, `totals_eq_firstPositive`,
is that this is the only way to miss the first positive source, and that the total is zero then.
-/

namespace PipelineProfile

/-! ## Three sources in a row -/

/-- The first of some figures that is more than zero, and zero if none is. -/
def firstPositiveOf : List (Option Nat) → Nat
  | [] => 0
  | n :: ns => if 0 < n.getD 0 then n.getD 0 else firstPositiveOf ns

/-- What the lines of a run give for one of its totals. -/
structure FigureSources where
  statistics : Option Nat
  summary : Option Nat
  events : Option Nat

namespace FigureSources

variable (s : FigureSources)

/-- The first source that is more than zero. -/
def firstPositive : Nat := firstPositiveOf [s.statistics, s.summary, s.events]

/-- A zero on the summary of commits hides the events. -/
def IsShadowed : Prop :=
  s.statistics.getD 0 = 0 ∧ s.summary = some 0 ∧ 0 < s.events.getD 0

/-- The source that is taken. -/
def taken : Nat :=
  if s.statistics.getD 0 ≠ 0 then s.statistics.getD 0 else (s.summary.or s.events).getD 0

lemma taken_eq_zero (h : s.IsShadowed) : s.taken = 0 := by
  obtain ⟨hstatistics, hsummary, -⟩ := h
  rw [taken, if_neg (not_not_intro hstatistics), hsummary]
  rfl

lemma firstPositive_eq_of_statistics_eq_zero (h : s.statistics.getD 0 = 0) :
    s.firstPositive = if 0 < s.summary.getD 0 then s.summary.getD 0 else s.events.getD 0 := by
  simp only [firstPositive, firstPositiveOf, h, Nat.lt_irrefl, if_false]
  congr 1
  split <;> omega

lemma taken_eq_firstPositive_iff : s.taken = s.firstPositive ↔ ¬ s.IsShadowed := by
  by_cases hstatistics : s.statistics.getD 0 = 0
  · rw [s.firstPositive_eq_of_statistics_eq_zero hstatistics, taken,
      if_neg (not_not_intro hstatistics)]
    cases hsummary : s.summary with
    | none => simp [IsShadowed, hsummary]
    | some n =>
      by_cases hn : n = 0
      · -- The summary says zero, which is wrong if there are events.
        simp [IsShadowed, hstatistics, hsummary, hn, eq_comm]
      · simp [IsShadowed, hsummary, hn, Nat.pos_of_ne_zero hn]
  · have hpos : 0 < s.statistics.getD 0 := Nat.pos_of_ne_zero hstatistics
    simp [IsShadowed, taken, firstPositive, firstPositiveOf, hstatistics, hpos]

end FigureSources

/-! ## The sources on the lines -/

/-- The final statistics, if the line gives them. -/
def Line.statistics? : Line → Option RunStats
  | .runStats stats => some stats
  | _ => none

/-- The cycles after which the run was stopped, if the line tells that. -/
def Line.stopped? : Line → Option Nat
  | .timeout cycles => some cycles
  | _ => none

namespace FigureSources

/-- What the lines give for the cycles of the run. -/
def cyclesOf (lines : List String) : FigureSources where
  statistics :=
    (lines.filterMap fun text => (Line.read text).statistics?).getLast?.map RunStats.cycles
  summary := (factsOf .commitSummary lines).getLast?.bind fun f => f.num? "cycles"
  events := (lines.filterMap fun text => (Line.read text).stopped?).getLast?

/-- What the lines give for the instructions of the run. -/
def commitsOf (lines : List String) : FigureSources where
  statistics :=
    (lines.filterMap fun text => (Line.read text).statistics?).getLast?.map RunStats.commits
  summary := (factsOf .commitSummary lines).getLast?.bind fun f => f.num? "commits"
  events := some ((factsOf .commit lines).countP Facts.hasCommit)

end FigureSources

namespace Event

lemma bind_ofTagged?_eq_none {α : Type} {view : Event → Option α} {k : LineKind}
    (h : Shows view k) {tag : Tag} (hk : k ≠ .tagged tag) (f : Facts) :
    (ofTagged? tag f).bind view = none := by
  rw [Option.bind_eq_none_iff]
  intro e he
  exact h.eq_none fun heq => hk (by rw [← heq, kind_of_ofTagged? he])

lemma bind_runStats?_ofLine? (l : Line) : (ofLine? l).bind runStats? = l.statistics? := by
  cases l with
  | tagged tag f => exact bind_ofTagged?_eq_none shows_runStats? (by simp) f
  | _ => rfl

lemma bind_timeout?_ofLine? (l : Line) : (ofLine? l).bind timeout? = l.stopped? := by
  cases l with
  | tagged tag f => exact bind_ofTagged?_eq_none shows_timeout? (by simp) f
  | _ => rfl

end Event

namespace Trace

lemma last?_runStats?_ofLines (lines : List String) :
    (ofLines lines).last? Event.runStats? =
      (lines.filterMap fun text => (Line.read text).statistics?).getLast? := by
  simp only [last?, ofLines, List.filterMap_filterMap, Event.bind_runStats?_ofLine?]

lemma last?_timeout?_ofLines (lines : List String) :
    (ofLines lines).last? Event.timeout? =
      (lines.filterMap fun text => (Line.read text).stopped?).getLast? := by
  simp only [last?, ofLines, List.filterMap_filterMap, Event.bind_timeout?_ofLine?]

lemma last?_commitSummary?_ofLines (lines : List String) :
    (ofLines lines).last? Event.commitSummary? =
      (factsOf .commitSummary lines).getLast?.map CommitSummary.ofFacts := by
  rw [last?_ofLines_tagged Event.shows_commitSummary? (by decide), Option.map_eq_bind]
  rfl

lemma length_commits_ofLines (lines : List String) :
    (ofLines lines).commits.length = (factsOf .commit lines).countP Facts.hasCommit := by
  rw [commits_ofLines, List.length_filterMap_eq_countP]
  exact List.countP_congr fun f _ => by rw [Commit.isSome_ofFacts?]

lemma runStats_ofLines (lines : List String) {field : RunStats → Nat}
    (hfield : field ⟨0, 0, 0, 0⟩ = 0) :
    field (ofLines lines).runStats =
      ((lines.filterMap fun text => (Line.read text).statistics?).getLast?.map field).getD 0 := by
  have hmap := Option.getD_map field ⟨0, 0, 0, 0⟩
    (lines.filterMap fun text => (Line.read text).statistics?).getLast?
  rw [hfield] at hmap
  rw [runStats, last?_runStats?_ofLines, hmap]

lemma runStats_cycles_ofLines (lines : List String) : (ofLines lines).runStats.cycles =
    (FigureSources.cyclesOf lines).statistics.getD 0 := runStats_ofLines lines rfl

lemma summaryCycles?_ofLines (lines : List String) :
    (ofLines lines).summaryCycles? = (FigureSources.cyclesOf lines).summary := by
  rw [summaryCycles?, last?_commitSummary?_ofLines, Option.bind_map]
  rfl

lemma timedOut?_ofLines (lines : List String) : (ofLines lines).timedOut? =
    if (FigureSources.cyclesOf lines).statistics.getD 0 = 0 &&
      (FigureSources.cyclesOf lines).summary.isNone
    then (FigureSources.cyclesOf lines).events else none := by
  rw [timedOut?, runStats_cycles_ofLines, summaryCycles?_ofLines, last?_timeout?_ofLines]
  rfl

lemma cycles_ofLines (lines : List String) :
    (ofLines lines).cycles = (FigureSources.cyclesOf lines).taken := by
  rw [cycles, timedOut?_ofLines, runStats_cycles_ofLines, summaryCycles?_ofLines,
    FigureSources.taken]
  by_cases hzero : (FigureSources.cyclesOf lines).statistics.getD 0 = 0
  · -- The timeout counts only if the summary gives no cycles, and is asked for only then.
    rw [if_neg (not_not_intro hzero), if_neg (not_not_intro hzero)]
    cases (FigureSources.cyclesOf lines).summary with
    | none => simp [hzero]
    | some n => rfl
  · rw [if_pos hzero, if_pos hzero]

lemma instructions_ofLines (lines : List String) :
    (ofLines lines).instructions = (FigureSources.commitsOf lines).taken := by
  have hstatistics : (ofLines lines).runStats.commits =
      (FigureSources.commitsOf lines).statistics.getD 0 := runStats_ofLines lines rfl
  have hsummary : (ofLines lines).summaryCommits? = (FigureSources.commitsOf lines).summary := by
    rw [summaryCommits?, last?_commitSummary?_ofLines, Option.bind_map]
    rfl
  have hevents : (FigureSources.commitsOf lines).events = some (ofLines lines).commits.length := by
    rw [length_commits_ofLines, FigureSources.commitsOf]
  rw [instructions, hstatistics, hsummary, FigureSources.taken, hevents]
  cases (FigureSources.commitsOf lines).summary with
  | none => rfl
  | some n => rfl

end Trace

/-! ## The totals of a run -/

/-- A total is the first positive source, unless a zero hides that one. -/
structure FigureSources.Give (s : FigureSources) (total : Nat) : Prop where
  eq_iff : total = s.firstPositive ↔ ¬ s.IsShadowed
  eq_zero : s.IsShadowed → total = 0

lemma FigureSources.give_taken (s : FigureSources) : s.Give s.taken where
  eq_iff := s.taken_eq_firstPositive_iff
  eq_zero := s.taken_eq_zero

namespace RunSummary

/-- **The first positive source gives a total, unless a zero on the summary of commits hides it.**
In whatever order the lines come, the cycles and the instructions of a run are the first positive
figure among the last final statistics, the last summary of commits, and the last timeout or the
number of commit lines.  They fail to be exactly if the final statistics give nothing, the summary
of commits gives zero, and the events would give something, and then they are zero. -/
theorem totals_eq_firstPositive (config : Config) (path : String) (lines : List String) :
    (FigureSources.cyclesOf lines).Give (ofLines config path lines).totals.cycles ∧
      (FigureSources.commitsOf lines).Give (ofLines config path lines).totals.commits := by
  have hcycles : (ofLines config path lines).totals.cycles =
      (FigureSources.cyclesOf lines).taken := Trace.cycles_ofLines lines
  have hcommits : (ofLines config path lines).totals.commits =
      (FigureSources.commitsOf lines).taken := Trace.instructions_ofLines lines
  rw [hcycles, hcommits]
  exact ⟨FigureSources.give_taken _, FigureSources.give_taken _⟩

/-- A log of a run that was stopped, with a summary of commits that has only zeros. -/
def zeroSummaryLog : List String := [
  "[commitm] cycles=0 commits=0",
  "[commit] cycle=1 slot=0 pc=0 inst=19",
  "TIMEOUT after 100 cycles"]

/-- The log shows a hundred cycles and one instruction, and its totals neither. -/
theorem totals_ne_firstPositive :
    (FigureSources.cyclesOf zeroSummaryLog).firstPositive = 100 ∧
      (ofLines {} "run.log" zeroSummaryLog).totals.cycles = 0 ∧
      (FigureSources.commitsOf zeroSummaryLog).firstPositive = 1 ∧
      (ofLines {} "run.log" zeroSummaryLog).totals.commits = 0 := by
  decide

end RunSummary

end PipelineProfile
