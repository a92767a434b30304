import Mathlib.Logic.Relation
import PipelineProfile.Proofs.Trace.LineKind
import PipelineProfile.Summary

/-!
# Counted figures and edits of single events

Lines that total a run count every cycle, lines that report single events may be samples or may
be missing.  So where a total is there, no single event should have a say, be it that samples are
added to the total, that a histogram is merged instead of replaced, or that a ratio is taken of
the wrong count.

`Edited` relates two traces that differ only in lines about single events: one trace is made from
the other by inserting, deleting and changing such lines, one after another.  An edit leaves the
lines that total the run alone (`EditStep.linesOf_eq`), and so does any number of edits
(`Edited.linesOf_eq`).

`RunSummary.AgreeWhereCounted` lists for each family of figures what its total decides.  The main
result, `agreeWhereCounted_of_edited`, is that edits change none of it.
-/

namespace PipelineProfile

/-! ## Edits -/

/-- Whether a text is a line that may be edited: it reports a single event or nothing at all, but
does not total the run. -/
def isEventLine (text : String) : Bool := (Line.read text).kind?.all LineKind.isEvent

/-- One edit of the lines about single events. -/
inductive EditStep : List String → List String → Prop
  | insert (front back : List String) {new : String} (hnew : isEventLine new = true) :
      EditStep (front ++ back) (front ++ new :: back)
  | delete (front back : List String) {old : String} (hold : isEventLine old = true) :
      EditStep (front ++ old :: back) (front ++ back)
  | change (front back : List String) {old new : String} (hold : isEventLine old = true)
      (hnew : isEventLine new = true) : EditStep (front ++ old :: back) (front ++ new :: back)

/-- Two lists of lines of which one is made from the other by edits. -/
abbrev Edited : List String → List String → Prop := Relation.ReflTransGen EditStep

section Edits

variable {A B : List String} {k : LineKind}

lemma matchesText_of_isEventLine {text : String} (htext : isEventLine text = true)
    (hk : k.isEvent = false) : k.matchesText text = false := by
  rw [LineKind.matchesText, decide_eq_false_iff_not]
  intro hkind
  rw [isEventLine, hkind, Option.all_some, hk] at htext
  cases htext

/-- An edit leaves the lines that total the run alone. -/
lemma EditStep.linesOf_eq (h : EditStep A B) (hk : k.isEvent = false) :
    linesOf k A = linesOf k B := by
  cases h with
  | insert front back hnew =>
    simp [linesOf, matchesText_of_isEventLine hnew hk]
  | delete front back hold =>
    simp [linesOf, matchesText_of_isEventLine hold hk]
  | change front back hold hnew =>
    simp [linesOf, matchesText_of_isEventLine hold hk, matchesText_of_isEventLine hnew hk]

/-- Edits leave the lines that total the run alone. -/
lemma Edited.linesOf_eq (h : Edited A B) (hk : k.isEvent = false) :
    linesOf k A = linesOf k B := by
  induction h with
  | refl => rfl
  | tail _ hstep ih => exact ih.trans (hstep.linesOf_eq hk)

end Edits

/-! ## What a total decides -/

namespace Trace

section Totals

variable {A B : List String} {k : LineKind}

/-- With a total on the lines, traces with the same total lines have the same total. -/
lemma exists_last?_eq {α : Type} {view : Event → Option α} (h : Event.Shows view k)
    (hk : k.isEvent = false) (hlines : linesOf k A = linesOf k B) (hne : linesOf k A ≠ []) :
    ∃ total, (ofLines A).last? view = some total ∧ (ofLines B).last? view = some total := by
  have hsome : (ofLines A).last? view ≠ none :=
    fun hnone => hne ((last?_ofLines_eq_none_iff h (LineKind.ne_commit hk) A).mp hnone)
  obtain ⟨total, htotal⟩ := Option.ne_none_iff_exists'.mp hsome
  refine ⟨total, htotal, ?_⟩
  rw [← htotal, last?_ofLines_congr h hk (by rw [hlines])]

end Totals

end Trace

namespace RunSummary

/-- Two summaries agree in every family of which the lines give a total, in what the total
decides. -/
structure AgreeWhereCounted (lines : List String) (s t : RunSummary) : Prop where
  commitWidths : linesOf (.tagged .commitSummary) lines ≠ [] → s.commitWidths = t.commitWidths
  /-- The counts of control transfers.  Their ratios relate to the instructions of the run, which
  may be counted on commit lines. -/
  control : linesOf (.tagged .controlSummary) lines ≠ [] → s.control.counts = t.control.counts
  /-- One of the two rankings is enough for both. -/
  hotspots : linesOf (.tagged .hotPcSummary) lines ≠ [] ∨
      linesOf (.tagged .hotInstSummary) lines ≠ [] →
    s.hotPcs = t.hotPcs ∧ s.hotInsts = t.hotInsts
  stalls : linesOf (.tagged .stallSummary) lines ≠ [] →
    (s.sources .stall).stallMode = (t.sources .stall).stallMode ∧
      s.stalls.total = t.stalls.total ∧ s.stalls.byCategory = t.stalls.byCategory
  frontendEmpty : linesOf (.tagged .frontendEmptySummary) lines ≠ [] →
    s.stalls.frontendEmpty = t.stalls.frontendEmpty
  decodeBlocked : linesOf (.tagged .decodeBlockedSummary) lines ≠ [] →
    s.stalls.decodeBlocked = t.stalls.decodeBlocked
  robBackpressure : linesOf (.tagged .robBackpressureSummary) lines ≠ [] →
    s.stalls.robBackpressure = t.stalls.robBackpressure
  other : linesOf (.tagged .otherSummary) lines ≠ [] → s.stalls.other = t.stalls.other
  predict : linesOf (.tagged .predictor) lines ≠ [] → s.predict = t.predict
  fetchQueue : linesOf (.tagged .fetchQueueSummary) lines ≠ [] → s.fetchQueue = t.fetchQueue
  /-- The instructions killed on wrong paths and the distances of redirections. -/
  flushEffects : linesOf (.tagged .flushSummary) lines ≠ [] →
    s.flushes.effects = t.flushes.effects

/-- A total decides its family whatever the other lines are. -/
lemma agreeWhereCounted_of_linesOf_eq (config : Config) (path : String) {A B : List String}
    (h : ∀ k : LineKind, k.isEvent = false → linesOf k A = linesOf k B) :
    AgreeWhereCounted A (ofLines config path A) (ofLines config path B) where
  commitWidths hne := by
    obtain ⟨summary, hA, hB⟩ :=
      Trace.exists_last?_eq Event.shows_commitSummary? rfl (h _ rfl) hne
    simp only [ofLines, ofTrace, Trace.commitWidths, hA, hB]
  control hne := by
    obtain ⟨counts, hA, hB⟩ :=
      Trace.exists_last?_eq Event.shows_controlSummary? rfl (h _ rfl) hne
    simp only [ofLines, ofTrace, Trace.controlFlow, hA, hB]
  hotspots hne := by
    have hpcs := Trace.last?_ofLines_congr Event.shows_hotPcs? rfl
      (congrArg List.getLast? (h _ rfl))
    have hinsts := Trace.last?_ofLines_congr Event.shows_hotInsts? rfl
      (congrArg List.getLast? (h _ rfl))
    -- Either ranking makes both traces take the rankings from summary lines.
    have hA : (Trace.ofLines A).hasSummary .hotspot = true := by
      rcases hne with hne | hne
      · obtain ⟨ranking, hA, -⟩ := Trace.exists_last?_eq Event.shows_hotPcs? rfl (h _ rfl) hne
        simp [Trace.hasSummary, hA]
      · obtain ⟨ranking, hA, -⟩ := Trace.exists_last?_eq Event.shows_hotInsts? rfl (h _ rfl) hne
        simp [Trace.hasSummary, hA]
    have hB : (Trace.ofLines B).hasSummary .hotspot = true := by
      rw [Trace.hasSummary, ← hpcs, ← hinsts]
      exact hA
    simp only [ofLines, ofTrace, Trace.hotPcs, Trace.hotInsts, hA, hB, hpcs, hinsts,
      if_true, and_self]
  stalls hne := by
    obtain ⟨totals, hA, hB⟩ :=
      Trace.exists_last?_eq Event.shows_stallSummary? rfl (h _ rfl) hne
    simp [ofLines, ofTrace, Trace.source, Trace.hasSummary, MetricSource.choose,
      Trace.stallFigures, Trace.categoryTotals, hA, hB]
  frontendEmpty hne := by
    obtain ⟨detail, hA, hB⟩ :=
      Trace.exists_last?_eq Event.shows_frontendEmptySummary? rfl (h _ rfl) hne
    simp only [ofLines, ofTrace, Trace.stallFigures, Trace.stallDetail, hA, hB]
  decodeBlocked hne := by
    obtain ⟨detail, hA, hB⟩ :=
      Trace.exists_last?_eq Event.shows_decodeBlockedSummary? rfl (h _ rfl) hne
    simp only [ofLines, ofTrace, Trace.stallFigures, Trace.stallDetail, hA, hB]
  robBackpressure hne := by
    obtain ⟨detail, hA, hB⟩ :=
      Trace.exists_last?_eq Event.shows_robBackpressureSummary? rfl (h _ rfl) hne
    simp only [ofLines, ofTrace, Trace.stallFigures, Trace.stallDetail, hA, hB]
  other hne := by
    obtain ⟨detail, hA, hB⟩ :=
      Trace.exists_last?_eq Event.shows_otherSummary? rfl (h _ rfl) hne
    simp only [ofLines, ofTrace, Trace.stallFigures, Trace.stallDetail, hA, hB]
  predict hne := by
    obtain ⟨counters, hA, hB⟩ :=
      Trace.exists_last?_eq Event.shows_predictor? rfl (h _ rfl) hne
    simp only [ofLines, ofTrace, Trace.predictCounters, hA, hB]
  fetchQueue hne := by
    obtain ⟨figures, hA, hB⟩ :=
      Trace.exists_last?_eq Event.shows_fetchQueueSummary? rfl (h _ rfl) hne
    simp only [ofLines, ofTrace, Trace.fetchQueue, hA, hB]
  flushEffects hne := by
    obtain ⟨effects, hA, hB⟩ :=
      Trace.exists_last?_eq Event.shows_flushSummary? rfl (h _ rfl) hne
    simp only [ofLines, ofTrace, Trace.flushFigures, hA, hB, Option.getD_some]

/-- **Single events have no say where a total is given.**  However the lines about single events
are edited, every family of which the lines give a total keeps the figures that the total
decides. -/
theorem agreeWhereCounted_of_edited (config : Config) (path : String) {A B : List String}
    (h : Edited A B) :
    AgreeWhereCounted A (ofLines config path A) (ofLines config path B) :=
  agreeWhereCounted_of_linesOf_eq config path fun _ hk => h.linesOf_eq hk

/-! ### Edits of one log -/

/-- A log that counts its commits and lists one of them. -/
def countedLog : List String := [
  "[commitm] cycles=3 commits=2 width0=1 width1=2",
  "[commit] cycle=1 slot=0 pc=0 inst=19"]

/-- The log with the commit changed, and with a flush. -/
def countedLogEdited : List String := [
  "[commitm] cycles=3 commits=2 width0=1 width1=2",
  "[flush ] cycle=2",
  "[commit] cycle=1 slot=3 pc=8 inst=99"]

lemma edited_countedLog : Edited countedLog countedLogEdited := by
  have hchange := EditStep.change ["[commitm] cycles=3 commits=2 width0=1 width1=2"] []
    (by decide : isEventLine "[commit] cycle=1 slot=0 pc=0 inst=19" = true)
    (by decide : isEventLine "[commit] cycle=1 slot=3 pc=8 inst=99" = true)
  have hinsert := EditStep.insert ["[commitm] cycles=3 commits=2 width0=1 width1=2"]
    ["[commit] cycle=1 slot=3 pc=8 inst=99"]
    (by decide : isEventLine "[flush ] cycle=2" = true)
  exact (Relation.ReflTransGen.single hchange).tail hinsert

/-- The edits leave the widths of the log alone. -/
theorem commitWidths_countedLog_eq :
    Edited countedLog countedLogEdited ∧
      linesOf (.tagged .commitSummary) countedLog ≠ [] ∧
      (ofLines {} "run.log" countedLog).commitWidths =
        (ofLines {} "run.log" countedLogEdited).commitWidths := by
  have hcounted : linesOf (.tagged .commitSummary) countedLog ≠ [] := by decide
  exact ⟨edited_countedLog, hcounted,
    (agreeWhereCounted_of_edited {} "run.log" edited_countedLog).commitWidths hcounted⟩

end RunSummary

end PipelineProfile
