import PipelineProfile.Proofs.Tally.Entries
import PipelineProfile.Proofs.Trace.LineKind
import PipelineProfile.Summary

/-!
# Conservation of stall samples

Every stall line is one sample.  Without totals from the simulator the stall figures of a run are
counts of samples, and this module says that none is lost or counted twice on the way: neither
when samples are divided among the eight categories, nor when those of a category are divided
among its finer causes.

What a line counts toward is said on the line itself: its category
(`StallCategory.matchesText`), and the category with the label of the finer cause
(`StallSample.cause?`).  `StallDetail.CountsLines` is the law for one category with finer causes
that samples show; the three of them share one proof (`countsLines_stallDetail`).  The main
result, `stallsConserved_ofLines`, puts them together with the totals.
-/

namespace PipelineProfile

/-! ## What a line counts toward -/

/-- The sample on a line, if it is a stall line. -/
def StallSample.ofText? (text : String) : Option StallSample :=
  ((Line.read text).facts? .stall).map StallSample.ofFacts

/-- The finer cause that a line shows: the category of its sample, and the label within it. -/
def StallSample.cause? (lanes : Nat) (text : String) : Option (StallCategory × String) :=
  (StallSample.ofText? text).bind fun s =>
    (s.category.detail? lanes s.probe).map fun label => (s.category, label)

/-- Whether a text is a stall line of the category. -/
def StallCategory.matchesText (c : StallCategory) (text : String) : Bool :=
  (StallSample.ofText? text).any fun s => s.category = c

/-- The finer causes of a category are those that the lines of the category show, each line
counting once.  `categoryCount` is the count of the category itself. -/
structure StallDetail.CountsLines (lanes : Nat) (lines : List String) (c : StallCategory)
    (categoryCount : Nat) (d : StallDetail) : Prop where
  /-- The lines of the category, and no others, show a finer cause of it. -/
  labelled : ∀ text, c.matchesText text = true ↔
    ∃ label, StallSample.cause? lanes text = some (c, label)
  /-- Under each label stands the number of lines that show it. -/
  count : ∀ label, d.detail.count label =
    lines.countP fun text => StallSample.cause? lanes text = some (c, label)
  /-- The labels together count each line of the category. -/
  sum : d.detail.total = lines.countP c.matchesText
  total_of_pos : 0 < lines.countP c.matchesText → d.total = lines.countP c.matchesText
  /-- Without lines only the count of the category is left. -/
  of_eq_zero : lines.countP c.matchesText = 0 →
    d.detail = Tally.empty ∧ d.total = categoryCount

namespace Trace

/-! ## Samples by category -/

lemma stalls_ofLines_eq_filterMap (lines : List String) :
    (ofLines lines).stalls = lines.filterMap StallSample.ofText? := by
  rw [stalls_ofLines, factsOf, List.map_filterMap]
  rfl

lemma countP_stalls_ofLines (p : StallSample → Bool) (lines : List String) :
    (ofLines lines).stalls.countP p =
      lines.countP fun text => (StallSample.ofText? text).any p := by
  rw [stalls_ofLines_eq_filterMap, countP_filterMap_eq]

lemma length_stalls_ofLines (lines : List String) :
    (ofLines lines).stalls.length = (linesOf (.tagged .stall) lines).length := by
  rw [stalls_ofLines, List.length_map, length_factsOf]

lemma length_stallsIn_ofLines (lines : List String) (c : StallCategory) :
    ((ofLines lines).stallsIn c).length = lines.countP c.matchesText := by
  rw [stallsIn, ← List.countP_eq_length_filter, countP_stalls_ofLines]
  rfl

/-- Each sample is in one of the eight categories. -/
lemma sum_countP_category (samples : List StallSample) :
    (StallCategory.all.map fun c => samples.countP fun s => s.category = c).sum =
      samples.length :=
  sum_map_countP_eq_length StallSample.category (by decide) StallCategory.mem_all samples

/-! ## Samples by finer cause -/

section FinerCauses

variable {lanes : Nat} {c : StallCategory} {t : Trace}

lemma detailLabels_eq_nil (hc : ∀ p, c.detail? lanes p = none) : t.detailLabels lanes c = [] := by
  rw [detailLabels, List.filterMap_eq_nil_iff]
  exact fun s _ => hc s.probe

lemma length_detailLabels (hc : ∀ p, (c.detail? lanes p).isSome = true) :
    (t.detailLabels lanes c).length = (t.stallsIn c).length := by
  rw [detailLabels, List.length_filterMap_eq_countP, List.countP_eq_length]
  exact fun s _ => hc s.probe

/-- Without a summary line the breakdown counts the labels that the samples show. -/
lemma detail_stallDetail :
    (t.stallDetail lanes c none).detail = Tally.ofKeys (t.detailLabels lanes c) := by
  rw [stallDetail_none]
  split
  · next hempty => rw [List.isEmpty_iff.mp hempty, Tally.ofKeys_nil]
  · rfl

lemma count_stallDetail (label : String) :
    (t.stallDetail lanes c none).detail.count label = (t.detailLabels lanes c).count label := by
  rw [detail_stallDetail, Tally.count_ofKeys]

lemma mem_keys_stallDetail {label : String} :
    label ∈ (t.stallDetail lanes c none).detail.keys ↔ label ∈ t.detailLabels lanes c := by
  rw [detail_stallDetail, Tally.mem_keys_ofKeys]

end FinerCauses

variable {lanes : Nat} {c : StallCategory}

lemma count_detailLabels (lines : List String) (label : String) :
    ((ofLines lines).detailLabels lanes c).count label =
      lines.countP fun text => StallSample.cause? lanes text = some (c, label) := by
  rw [detailLabels, stallsIn, List.count_filterMap, List.countP_filter, countP_stalls_ofLines]
  refine List.countP_congr fun text _ => ?_
  unfold StallSample.cause?
  cases StallSample.ofText? text with
  | none => simp
  | some s =>
    by_cases hs : s.category = c
    · subst hs
      simp
    · simp [hs]

/-- The labels of a breakdown without a summary line are those that the lines show. -/
lemma mem_keys_stallDetail_ofLines {lines : List String} {label : String} :
    label ∈ ((ofLines lines).stallDetail lanes c none).detail.keys ↔
      ∃ text ∈ lines, StallSample.cause? lanes text = some (c, label) := by
  rw [mem_keys_stallDetail, ← List.count_pos_iff, count_detailLabels, List.countP_pos_iff]
  simp only [decide_eq_true_eq]

lemma matchesText_iff_exists_cause? (hc : ∀ p, (c.detail? lanes p).isSome = true) (text : String) :
    c.matchesText text = true ↔
      ∃ label, StallSample.cause? lanes text = some (c, label) := by
  unfold StallCategory.matchesText StallSample.cause?
  cases StallSample.ofText? text with
  | none => simp
  | some s =>
    by_cases hs : s.category = c
    · subst hs
      obtain ⟨label, hlabel⟩ := Option.isSome_iff_exists.mp (hc s.probe)
      simp [hlabel]
    · simp [hs]

/-- The law for a category with finer causes that samples show, if it has no summary line of its
own. -/
lemma countsLines_stallDetail (hc : ∀ p, (c.detail? lanes p).isSome = true)
    (lines : List String) :
    ((ofLines lines).stallDetail lanes c none).CountsLines lanes lines c
      ((ofLines lines).categoryTotals.count c) := by
  have hlength : ((ofLines lines).detailLabels lanes c).length = lines.countP c.matchesText := by
    rw [length_detailLabels hc, length_stallsIn_ofLines]
  have hcount : ∀ label, ((ofLines lines).stallDetail lanes c none).detail.count label =
      lines.countP fun text => StallSample.cause? lanes text = some (c, label) := by
    intro label
    rw [count_stallDetail, count_detailLabels]
  rw [stallDetail_none] at hcount ⊢
  by_cases hempty : (ofLines lines).detailLabels lanes c = []
  · -- There is nothing to count.
    rw [hempty, List.length_nil] at hlength
    rw [if_pos (by rw [hempty, List.isEmpty_nil])] at hcount ⊢
    exact {
      labelled := matchesText_iff_exists_cause? hc
      count := hcount
      sum := hlength
      total_of_pos := fun hpos => by omega
      of_eq_zero := fun _ => ⟨rfl, rfl⟩ }
  · have hpos : 0 < ((ofLines lines).detailLabels lanes c).length :=
      List.length_pos_of_ne_nil hempty
    rw [if_neg (by rwa [List.isEmpty_iff])] at hcount ⊢
    exact {
      labelled := matchesText_iff_exists_cause? hc
      count := hcount
      sum := by rw [Tally.total_ofKeys, hlength]
      total_of_pos := fun _ => hlength
      of_eq_zero := fun hzero => by omega }

/-- A category without finer causes that samples show has none without a summary line. -/
lemma stallDetail_none_of_detail?_eq_none {t : Trace} (hc : ∀ p, c.detail? lanes p = none) :
    (t.stallDetail lanes c none).detail = Tally.empty ∧
      (t.stallDetail lanes c none).total = t.categoryTotals.count c := by
  rw [stallDetail_none, if_pos (by rw [detailLabels_eq_nil hc, List.isEmpty_nil])]
  exact ⟨rfl, rfl⟩

end Trace

/-! ## The stalls of a run -/

/-- The stall figures of a run count the stall lines, as far as no summary lines do. -/
structure StallFigures.Conserved (lanes : Nat) (lines : List String) (s : StallFigures) :
    Prop where
  /-- Each stall line counts once in the total and in one of the eight categories. -/
  total : linesOf (.tagged .stallSummary) lines = [] →
    s.total = (linesOf (.tagged .stall) lines).length ∧
      s.total = (StallCategory.all.map s.byCategory).sum
  decodeBlocked : linesOf (.tagged .decodeBlockedSummary) lines = [] →
    s.decodeBlocked.CountsLines lanes lines .decodeBlocked (s.byCategory .decodeBlocked)
  robBackpressure : linesOf (.tagged .robBackpressureSummary) lines = [] →
    s.robBackpressure.CountsLines lanes lines .robBackpressure (s.byCategory .robBackpressure)
  other : linesOf (.tagged .otherSummary) lines = [] →
    s.other.CountsLines lanes lines .other (s.byCategory .other)
  /-- Why the front end is empty cannot be told from samples. -/
  frontendEmpty : linesOf (.tagged .frontendEmptySummary) lines = [] →
    s.frontendEmpty.detail = Tally.empty ∧ s.frontendEmpty.total = s.byCategory .frontendEmpty

namespace RunSummary

/-- **No stall sample is lost or counted twice.**  Without totals for the categories, the stall
lines are divided among the categories.  Without totals for the finer causes of a category, its
lines are divided among the labels that they show, whether or not the categories have totals. -/
theorem stallsConserved_ofLines (config : Config) (path : String) (lines : List String) :
    (ofLines config path lines).stalls.Conserved config.replayFullLanes lines where
  total hnone := by
    have hlast := Trace.last?_ofLines_eq_none Event.shows_stallSummary? rfl hnone
    simp only [ofLines, ofTrace, Trace.stallFigures, Trace.categoryTotals, hlast, Option.getD_none,
      Trace.sampledTotals]
    refine ⟨Trace.length_stalls_ofLines lines, ?_⟩
    simp only [Trace.stallsIn, ← List.countP_eq_length_filter]
    exact (Trace.sum_countP_category _).symm
  decodeBlocked hnone := by
    have hlast := Trace.last?_ofLines_eq_none Event.shows_decodeBlockedSummary? rfl hnone
    simp only [ofLines, ofTrace, Trace.stallFigures, hlast]
    exact Trace.countsLines_stallDetail (fun _ => rfl) lines
  robBackpressure hnone := by
    have hlast := Trace.last?_ofLines_eq_none Event.shows_robBackpressureSummary? rfl hnone
    simp only [ofLines, ofTrace, Trace.stallFigures, hlast]
    exact Trace.countsLines_stallDetail (fun _ => rfl) lines
  other hnone := by
    have hlast := Trace.last?_ofLines_eq_none Event.shows_otherSummary? rfl hnone
    simp only [ofLines, ofTrace, Trace.stallFigures, hlast]
    exact Trace.countsLines_stallDetail (fun _ => rfl) lines
  frontendEmpty hnone := by
    have hlast := Trace.last?_ofLines_eq_none Event.shows_frontendEmptySummary? rfl hnone
    simp only [ofLines, ofTrace, Trace.stallFigures, hlast]
    exact Trace.stallDetail_none_of_detail?_eq_none fun _ => rfl

/-! ### The samples of one log -/

/-- A log of samples from three categories. -/
def sampledLog : List String := [
  "[stall ] cycle=5 dec(v/r)=1/0",
  "[stall ] rob_ready=0",
  "[stall ] cycle=8 dec(v/r)=1/0",
  "[stall ] flush=1"]

/-- All four samples of the log are counted, and two of them as blocked decodes. -/
theorem stalls_sampledLog :
    linesOf (.tagged .stallSummary) sampledLog = [] ∧
      linesOf (.tagged .decodeBlockedSummary) sampledLog = [] ∧
      (ofLines {} "run.log" sampledLog).stalls.total = 4 ∧
      (ofLines {} "run.log" sampledLog).stalls.decodeBlocked.total = 2 := by
  have hconserved := stallsConserved_ofLines {} "run.log" sampledLog
  have hlines : linesOf (.tagged .stallSummary) sampledLog = [] ∧
      linesOf (.tagged .decodeBlockedSummary) sampledLog = [] ∧
      (linesOf (.tagged .stall) sampledLog).length = 4 ∧
      sampledLog.countP StallCategory.decodeBlocked.matchesText = 2 := by
    decide
  obtain ⟨hstall, hdecode, hlength, hcount⟩ := hlines
  refine ⟨hstall, hdecode, (hconserved.total hstall).1.trans hlength, ?_⟩
  rw [(hconserved.decodeBlocked hdecode).total_of_pos (by rw [hcount]; decide), hcount]

end RunSummary

end PipelineProfile
