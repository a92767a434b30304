import PipelineProfile.Proofs.Trace.LineKind
import PipelineProfile.Summary.Json

/-!
# Which lines decide the source of a family

A summary records for every family of figures where they come from, and the choice is made from
what has been collected by the end of a trace: optional totals, lists, filtered lists.  This
module says the same in terms of the lines of the trace.

A family has summary lines (`MetricFamily.isSummaryLine`), told by their tags alone, and lines
from which it can be rebuilt (`MetricFamily.isSampleLine`), for which the facts matter as well.
The main result, `sources_ofLines`, is that the source is the summary as soon as one summary line
occurs anywhere, samples if none does but a line to rebuild the family from occurs, and nothing
otherwise.  What else is in the trace, and where, has no influence.
-/

namespace PipelineProfile

/-- Whether the facts are those of a retired instruction: its cycle, its slot, its address and its
word. -/
def Facts.hasCommit (f : Facts) : Bool := ["cycle", "slot", "pc", "inst"].all f.contains

namespace MetricFamily

/-- The tags of the lines that sum up a family. -/
def summaryTags : MetricFamily → List Tag
  | commit => [.commitSummary]
  | control => [.controlSummary]
  | hotspot => [.hotPcSummary, .hotInstSummary]
  | stall => [.stallSummary]
  | frontendEmptyDetail => [.frontendEmptySummary]
  | decodeBlockedDetail => [.decodeBlockedSummary]
  | robBackpressureDetail => [.robBackpressureSummary]
  | otherDetail => [.otherSummary]
  | predict => [.predictor]
  | fetchQueue => [.fetchQueueSummary]
  | flush => [.flushSummary]

/-- Whether a family can be rebuilt from a line with the given tag and facts. -/
def takes (tag : Tag) (f : Facts) : MetricFamily → Bool
  | commit | control | hotspot => tag = .commit && f.hasCommit
  | stall => tag = .stall
  | frontendEmptyDetail => false
  | decodeBlockedDetail => tag = .stall && (StallSample.ofFacts f).category = .decodeBlocked
  | robBackpressureDetail => tag = .stall && (StallSample.ofFacts f).category = .robBackpressure
  | otherDetail => tag = .stall && (StallSample.ofFacts f).category = .other
  | predict =>
    (tag = .commit && f.hasCommit) || (tag = .flush && Flush.reasonOf f = .branchMispredict)
  | fetchQueue => tag = .stall && f.contains "ifu_fq(cnt/full/empty/pop)"
  | flush => tag = .flush

/-- Whether a text is a line that sums up a family. -/
def isSummaryLine (family : MetricFamily) (text : String) : Bool :=
  family.summaryTags.any fun tag => (LineKind.tagged tag).matchesText text

/-- Whether a text is a line from which a family can be rebuilt. -/
def isSampleLine (family : MetricFamily) (text : String) : Bool :=
  match Line.read text with
  | .tagged tag f => family.takes tag f
  | _ => false

lemma exists_summaryLine_iff {family : MetricFamily} {lines : List String} :
    (∃ text ∈ lines, family.isSummaryLine text = true) ↔
      ∃ tag ∈ family.summaryTags, ∃ text ∈ lines,
        (LineKind.tagged tag).matchesText text = true := by
  simp only [isSummaryLine, List.any_eq_true]
  constructor
  · rintro ⟨text, htext, tag, htag, h⟩
    exact ⟨tag, htag, text, htext, h⟩
  · rintro ⟨tag, htag, text, htext, h⟩
    exact ⟨text, htext, tag, htag, h⟩

lemma isSampleLine_iff {family : MetricFamily} {text : String} :
    family.isSampleLine text = true ↔
      ∃ tag f, Line.read text = .tagged tag f ∧ family.takes tag f = true := by
  unfold isSampleLine
  cases Line.read text with
  | tagged tag f => simp
  | _ => simp

lemma exists_sampleLine_iff {family : MetricFamily} {lines : List String} :
    (∃ text ∈ lines, family.isSampleLine text = true) ↔
      ∃ tag, ∃ f ∈ factsOf tag lines, family.takes tag f = true := by
  constructor
  · rintro ⟨text, htext, h⟩
    obtain ⟨tag, f, hread, htakes⟩ := isSampleLine_iff.mp h
    exact ⟨tag, f, mem_factsOf.mpr ⟨text, htext, hread⟩, htakes⟩
  · rintro ⟨tag, f, hf, htakes⟩
    obtain ⟨text, htext, hread⟩ := mem_factsOf.mp hf
    exact ⟨text, htext, isSampleLine_iff.mpr ⟨tag, f, hread, htakes⟩⟩

end MetricFamily

/-- A commit line reports an instruction if and only if all four facts are there. -/
lemma Commit.isSome_ofFacts? (f : Facts) : (Commit.ofFacts? f).isSome = f.hasCommit := by
  have hnum : ∀ key, f.contains key = (f.num? key).isSome := fun key => by
    simp [Facts.contains, Facts.num?, Facts.get?]
  simp only [Facts.hasCommit, List.all_cons, List.all_nil, hnum, Commit.ofFacts?]
  cases f.num? "cycle" <;> cases f.num? "slot" <;> cases f.num? "pc" <;> cases f.num? "inst" <;> rfl

/-- The fields of an instruction are the numbers of its line, the last two as machine words. -/
lemma Commit.num?_of_ofFacts? {f : Facts} {c : Commit} (h : Commit.ofFacts? f = some c) :
    f.num? "cycle" = some c.cycle ∧ f.num? "slot" = some c.slot ∧
      (f.num? "pc").map (fun n => n % UInt32.size) = some c.pc.toNat ∧
      (f.num? "inst").map (fun n => n % UInt32.size) = some c.inst.toNat := by
  simp only [Commit.ofFacts?, Option.bind_eq_bind, Option.bind_eq_some_iff] at h
  obtain ⟨cycle, hcycle, slot, hslot, pc, hpc, inst, hinst, heq⟩ := h
  obtain rfl := Option.some.inj heq
  rw [hcycle, hslot, hpc, hinst]
  exact ⟨rfl, rfl, rfl, rfl⟩

/-- What is read of an instruction is read of its line, if the line has all four facts. -/
lemma Commit.map_ofFacts? {α : Type} {view : Commit → α} {f : Facts} {field : Option α}
    (h : ∀ c, Commit.ofFacts? f = some c → field = some (view c)) :
    (Commit.ofFacts? f).map view = if f.hasCommit then field else none := by
  rw [← Commit.isSome_ofFacts?]
  cases hc : Commit.ofFacts? f with
  | none => rfl
  | some c => exact (h c hc).symm

namespace Trace

/-! ## Summary lines -/

/-- There is a total of a kind if and only if one of the lines has its tag. -/
lemma isSome_last?_ofLines {α : Type} {view : Event → Option α} {tag : Tag}
    (h : Event.Shows view (.tagged tag)) (htag : tag ≠ .commit) (lines : List String) :
    ((ofLines lines).last? view).isSome = true ↔
      ∃ text ∈ lines, (LineKind.tagged tag).matchesText text = true := by
  have hkind : LineKind.tagged tag ≠ .tagged .commit := fun heq => htag (LineKind.tagged.inj heq)
  rw [← Option.ne_none_iff_isSome, ne_eq, last?_ofLines_eq_none_iff h hkind, linesOf,
    List.filter_eq_nil_iff]
  simp

lemma hasSummary_ofLines (lines : List String) (family : MetricFamily) :
    (ofLines lines).hasSummary family = true ↔
      ∃ text ∈ lines, family.isSummaryLine text = true := by
  rw [MetricFamily.exists_summaryLine_iff]
  cases family with
  | commit =>
    simp [hasSummary, MetricFamily.summaryTags, isSome_last?_ofLines Event.shows_commitSummary?]
  | control =>
    simp [hasSummary, MetricFamily.summaryTags, isSome_last?_ofLines Event.shows_controlSummary?]
  | hotspot =>
    -- The only family with two kinds of summary lines.
    simp [hasSummary, MetricFamily.summaryTags, isSome_last?_ofLines Event.shows_hotPcs?,
      isSome_last?_ofLines Event.shows_hotInsts?]
  | stall =>
    simp [hasSummary, MetricFamily.summaryTags, isSome_last?_ofLines Event.shows_stallSummary?]
  | frontendEmptyDetail =>
    simp [hasSummary, MetricFamily.summaryTags,
      isSome_last?_ofLines Event.shows_frontendEmptySummary?]
  | decodeBlockedDetail =>
    simp [hasSummary, MetricFamily.summaryTags,
      isSome_last?_ofLines Event.shows_decodeBlockedSummary?]
  | robBackpressureDetail =>
    simp [hasSummary, MetricFamily.summaryTags,
      isSome_last?_ofLines Event.shows_robBackpressureSummary?]
  | otherDetail =>
    simp [hasSummary, MetricFamily.summaryTags, isSome_last?_ofLines Event.shows_otherSummary?]
  | predict =>
    simp [hasSummary, MetricFamily.summaryTags, isSome_last?_ofLines Event.shows_predictor?]
  | fetchQueue =>
    simp [hasSummary, MetricFamily.summaryTags, isSome_last?_ofLines Event.shows_fetchQueueSummary?]
  | flush =>
    simp [hasSummary, MetricFamily.summaryTags, isSome_last?_ofLines Event.shows_flushSummary?]

/-! ## Lines to rebuild a family from -/

lemma filterMap_ne_nil_iff {α β : Type} {f : α → Option β} {l : List α} :
    l.filterMap f ≠ [] ↔ ∃ a ∈ l, (f a).isSome = true := by
  rw [ne_eq, List.filterMap_eq_nil_iff]
  simp [Option.ne_none_iff_isSome]

lemma commits_ofLines_ne_nil_iff {lines : List String} :
    (ofLines lines).commits ≠ [] ↔ ∃ f ∈ factsOf .commit lines, f.hasCommit = true := by
  rw [commits_ofLines, filterMap_ne_nil_iff]
  simp only [Commit.isSome_ofFacts?]

lemma mispredicts_ofLines_ne_nil_iff {lines : List String} :
    (ofLines lines).mispredicts ≠ [] ↔
      ∃ f ∈ factsOf .flush lines, Flush.reasonOf f = .branchMispredict := by
  rw [mispredicts, flushes_ofLines, ne_eq, List.filter_eq_nil_iff]
  simp [Flush.isMispredict, Flush.ofFacts]

lemma stallsIn_ofLines_ne_nil_iff {lines : List String} {c : StallCategory} :
    (ofLines lines).stallsIn c ≠ [] ↔
      ∃ f ∈ factsOf .stall lines, (StallSample.ofFacts f).category = c := by
  rw [stallsIn, stalls_ofLines, ne_eq, List.filter_eq_nil_iff]
  simp

lemma queueSamples_ofLines_ne_nil_iff {lines : List String} :
    (ofLines lines).queueSamples ≠ [] ↔
      ∃ f ∈ factsOf .stall lines, f.contains "ifu_fq(cnt/full/empty/pop)" = true := by
  rw [queueSamples, stalls_ofLines, List.filterMap_map, filterMap_ne_nil_iff]
  simp [StallSample.ofFacts, Facts.slots?, Facts.get?, Facts.contains]

lemma hasSamples_ofLines (lines : List String) (family : MetricFamily) :
    (ofLines lines).hasSamples family = true ↔
      ∃ text ∈ lines, family.isSampleLine text = true := by
  rw [MetricFamily.exists_sampleLine_iff]
  cases family with
  | commit | control | hotspot =>
    simpa [hasSamples, MetricFamily.takes] using commits_ofLines_ne_nil_iff
  | stall =>
    simp [hasSamples, MetricFamily.takes, stalls_ofLines, List.eq_nil_iff_forall_not_mem]
  | frontendEmptyDetail =>
    simp [hasSamples, MetricFamily.takes]
  | decodeBlockedDetail | robBackpressureDetail | otherDetail =>
    simpa [hasSamples, MetricFamily.takes] using stallsIn_ofLines_ne_nil_iff
  | predict =>
    simp only [hasSamples, Bool.or_eq_true, Bool.not_eq_true', List.isEmpty_eq_false_iff,
      commits_ofLines_ne_nil_iff, mispredicts_ofLines_ne_nil_iff]
    simp [MetricFamily.takes, and_or_left, exists_or]
  | fetchQueue =>
    simpa [hasSamples, MetricFamily.takes] using queueSamples_ofLines_ne_nil_iff
  | flush =>
    simp [hasSamples, MetricFamily.takes, flushes_ofLines, List.eq_nil_iff_forall_not_mem]

end Trace

/-! ## The sources of a run -/

namespace MetricSource

variable {hasSummary hasSamples : Bool}

lemma choose_eq_summary_iff : choose hasSummary hasSamples = summary ↔ hasSummary = true := by
  cases hasSummary <;> cases hasSamples <;> decide

lemma choose_eq_sampled_iff :
    choose hasSummary hasSamples = sampled ↔ ¬ hasSummary = true ∧ hasSamples = true := by
  cases hasSummary <;> cases hasSamples <;> decide

lemma choose_eq_unavailable_iff :
    choose hasSummary hasSamples = unavailable ↔ ¬ hasSummary = true ∧ ¬ hasSamples = true := by
  cases hasSummary <;> cases hasSamples <;> decide

end MetricSource

/-- There are eleven families, and their names tell them apart. -/
lemma MetricFamily.all_spec :
    (∀ family : MetricFamily, family ∈ all) ∧ all.length = 11 ∧ (all.map label).Nodup :=
  ⟨mem_all, rfl, by decide⟩

namespace RunSummary

/-- The document of a summary names the source of every family. -/
lemma lookup_metricSources (s : RunSummary) :
    ∃ members, s.toJson = .object members ∧ members.lookup "metric_sources" =
      some (.object (MetricFamily.all.map fun f => (f.label, .string (s.sources f).label))) :=
  ⟨_, rfl, rfl⟩

/-- **The lines decide the source of every family, each for itself.**  The document of a run
names a source for each of the eleven families.  The source is the summary if some line sums the
family up, samples if no line does but the family can be rebuilt from some line, and none
otherwise. -/
theorem sources_ofLines (config : Config) (path : String) (lines : List String) :
    (∃ members, (ofLines config path lines).toJson = .object members ∧
      members.lookup "metric_sources" = some (.object (MetricFamily.all.map fun f =>
        (f.label, .string ((ofLines config path lines).sources f).label)))) ∧
    ((∀ family : MetricFamily, family ∈ MetricFamily.all) ∧ MetricFamily.all.length = 11 ∧
      (MetricFamily.all.map MetricFamily.label).Nodup) ∧
    ∀ family : MetricFamily,
      ((ofLines config path lines).sources family = .summary ↔
        ∃ text ∈ lines, family.isSummaryLine text = true) ∧
      ((ofLines config path lines).sources family = .sampled ↔
        (¬ ∃ text ∈ lines, family.isSummaryLine text = true) ∧
          ∃ text ∈ lines, family.isSampleLine text = true) ∧
      ((ofLines config path lines).sources family = .unavailable ↔
        (¬ ∃ text ∈ lines, family.isSummaryLine text = true) ∧
          ¬ ∃ text ∈ lines, family.isSampleLine text = true) := by
  refine ⟨lookup_metricSources _, MetricFamily.all_spec, fun family => ?_⟩
  rw [← Trace.hasSummary_ofLines, ← Trace.hasSamples_ofLines]
  exact ⟨MetricSource.choose_eq_summary_iff, MetricSource.choose_eq_sampled_iff,
    MetricSource.choose_eq_unavailable_iff⟩

end RunSummary

end PipelineProfile
