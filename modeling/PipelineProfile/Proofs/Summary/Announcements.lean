import PipelineProfile.Proofs.Text.Search
import PipelineProfile.Proofs.Trace.Sources

/-!
# Which fallbacks a run announces

A family whose figures are rebuilt from single events or samples falls short of what the simulator
could have counted, and the warnings of a run are there to say so.  This module says for which
families they do.

Each warning is given exactly when it applies (`Trace.mem_warnings_iff`), so what remains is a
matter of texts: which families a message names (`MetricFamily.isNamedIn`).  Most messages are
fixed, and the numbers in the others name nothing (`isNamedIn_append_decimal`).

Stalls with their finer causes, the predictor and the fetch queue have a warning of their own.
The families `MetricFamily.unannounced` have none.  Two of them are mentioned in the warning that
the predictor was rebuilt, and so are named as long as that happens too; control flow and hotspots
are never named.  `announces_iff_of_sampled` is the exact condition, and
`not_announces_silentLog` a run that falls back in all four families and warns of nothing.
-/

namespace PipelineProfile

/-! ## When a warning is given -/

/-- What a warning says of a trace. -/
def Warning.Applies (t : Trace) : Warning → Prop
  | timedOut n => t.timedOut? = some n
  | hostTimeUsed => t.time.selfReported.isSome = true ∧ t.time.source = .hostFallback
  | noTime => t.time.selfReported.isSome = true ∧ t.time.source = .unavailable
  | commitSummaryOnly => t.source .commit = .summary ∧ t.commits = []
  | noCommits => t.source .commit = .unavailable
  | stallsSampled => t.source .stall = .sampled
  | detailSampled f => t.source .stall = .summary ∧ f ∈ MetricFamily.details ∧ t.source f = .sampled
  | predictorRebuilt => t.source .predict = .sampled
  | providers v => v ∈ t.predictCounters.violations
  | fetchQueueSampled => t.source .fetchQueue = .sampled

namespace Trace

variable {t : Trace} {w : Warning}

lemma timeWarning?_eq_some_iff : t.timeWarning? = some w ↔
    (w = .hostTimeUsed ∨ w = .noTime) ∧ w.Applies t := by
  unfold timeWarning?
  cases hself : t.time.selfReported with
  | none => grind [Warning.Applies]
  | some ms => cases hsource : t.time.source <;> grind [Warning.Applies]

lemma commitWarning?_eq_some_iff : t.commitWarning? = some w ↔
    (w = .commitSummaryOnly ∨ w = .noCommits) ∧ w.Applies t := by
  unfold commitWarning?
  cases hsource : t.source .commit <;> grind [Warning.Applies]

lemma sampledWarning?_eq_some_iff {f : MetricFamily} {v : Warning} :
    t.sampledWarning? f v = some w ↔ w = v ∧ t.source f = .sampled := by
  grind [sampledWarning?]

lemma mem_detailWarnings_iff :
    w ∈ t.detailWarnings ↔ ∃ f, w = .detailSampled f ∧ w.Applies t := by
  unfold detailWarnings
  by_cases hstall : t.source .stall = .summary
  · simp only [if_pos hstall, List.mem_filterMap, sampledWarning?_eq_some_iff]
    constructor
    · rintro ⟨f, hf, rfl, hsource⟩
      exact ⟨f, rfl, hstall, hf, hsource⟩
    · rintro ⟨f, rfl, -, hf, hsource⟩
      exact ⟨f, hf, rfl, hsource⟩
  · rw [if_neg hstall]
    constructor
    · intro hw
      cases hw
    · rintro ⟨f, rfl, happlies, -⟩
      exact absurd happlies hstall

/-- A warning is given exactly when it applies. -/
lemma mem_warnings_iff : w ∈ t.warnings ↔ w.Applies t := by
  simp only [warnings, List.mem_append, Option.mem_toList, List.mem_map, Option.map_eq_some_iff,
    timeWarning?_eq_some_iff, commitWarning?_eq_some_iff, sampledWarning?_eq_some_iff,
    mem_detailWarnings_iff]
  cases w <;> simp [Warning.Applies]

end Trace

/-! ## The families that a message names -/

namespace MetricFamily

/-- The texts that name a family: its label, with underscores or blanks, and for the finer causes
of stalls also the label of the stalls. -/
def names (f : MetricFamily) : List (List Char) :=
  let label := f.label.toList
  let spaced := label.map fun c => if c = '_' then ' ' else c
  [label, spaced] ++ if f ∈ details then [stall.label.toList] else []

/-- Whether a text names the family. -/
def isNamedIn (f : MetricFamily) (s : List Char) : Bool :=
  f.names.any fun name => Text.occursIn name s

/-- The families that are rebuilt from single events without a warning of their own. -/
def unannounced : List MetricFamily := [commit, control, hotspot, flush]

/-- Whether a text names one of these. -/
def namesUnannounced (s : List Char) : Bool := unannounced.any fun f => f.isNamedIn s

lemma isDigit_of_mem_name {f : MetricFamily} {name : List Char} (hname : name ∈ f.names) :
    ∀ c ∈ name, c.isDigit = false := by
  have hall : (all.all fun f => f.names.all fun name => name.all fun c => !c.isDigit) = true := by
    decide
  simp only [List.all_eq_true, Bool.not_eq_true'] at hall
  exact hall f (mem_all f) name hname

/-- A number between two texts does not help to name a family. -/
lemma isNamedIn_append_decimal {f : MetricFamily} {n : Nat} {s r : List Char}
    (h : f.isNamedIn (s ++ (Numeral.decimal n).toList ++ r) = true) :
    f.isNamedIn s = true ∨ f.isNamedIn r = true := by
  obtain ⟨name, hname, hoccurs⟩ := List.any_eq_true.mp h
  have hdigits : ∀ c ∈ (Numeral.decimal n).toList, c ∉ name := by
    intro c hc hmem
    have hdigit := Numeral.isDigit_of_mem_decimal hc
    rw [isDigit_of_mem_name hname c hmem] at hdigit
    cases hdigit
  obtain hs | hr := Text.occursIn_of_append_append (Numeral.decimal_ne_nil n) hdigits hoccurs
  · exact .inl (List.any_eq_true.mpr ⟨name, hname, hs⟩)
  · exact .inr (List.any_eq_true.mpr ⟨name, hname, hr⟩)

/-- A text whose characters are given names the families that these name. -/
lemma isNamedIn_ofList {f : MetricFamily} {cs : List Char} (h : f.isNamedIn cs = true) :
    f.isNamedIn (String.ofList cs).toList = true := by
  rwa [String.toList_ofList]

lemma namesUnannounced_ofList {cs : List Char} (h : namesUnannounced cs = false) :
    namesUnannounced (String.ofList cs).toList = false := by
  rwa [String.toList_ofList]

lemma namesUnannounced_append_ofList {cs ds : List Char} (h : namesUnannounced (cs ++ ds) = false) :
    namesUnannounced (String.ofList cs ++ String.ofList ds).toList = false := by
  rwa [String.toList_append, String.toList_ofList, String.toList_ofList]

/-- A text that begins with the label of a family names it. -/
lemma isNamedIn_label_append (f : MetricFamily) (t : String) :
    f.isNamedIn (f.label ++ t).toList = true := by
  refine List.any_eq_true.mpr ⟨f.label.toList, List.mem_cons_self .., ?_⟩
  rw [String.toList_append, Text.occursIn_iff_isInfix]
  exact (List.prefix_append ..).isInfix

/-- A text that names the stalls names their finer causes. -/
lemma isNamedIn_of_stall {f : MetricFamily} (hf : f ∈ details) {s : List Char}
    (h : Text.occursIn stall.label.toList s = true) : f.isNamedIn s = true := by
  refine List.any_eq_true.mpr ⟨stall.label.toList, ?_, h⟩
  rw [names, if_pos hf]
  exact List.mem_append_right _ (List.mem_singleton_self _)

lemma namesUnannounced_append_decimal {n : Nat} {s r : List Char}
    (hs : namesUnannounced s = false) (hr : namesUnannounced r = false) :
    namesUnannounced (s ++ (Numeral.decimal n).toList ++ r) = false := by
  simp only [namesUnannounced, List.any_eq_false] at hs hr ⊢
  intro f hf hnamed
  obtain h | h := isNamedIn_append_decimal hnamed
  · exact hs f hf h
  · exact hr f hf h

end MetricFamily

open MetricFamily

/-! ## The messages of warnings -/

/-- Contradictions among the counters of the providers concern the predictor alone. -/
lemma ProviderViolation.namesUnannounced_message (v : ProviderViolation) :
    namesUnannounced v.message.toList = false := by
  have hend : namesUnannounced [] = false := by decide
  cases v with
  | overlap selected updates =>
    change namesUnannounced (_ ++ _ ++ _ ++ _ : String).toList = false
    simp only [String.toList_append]
    rw [← List.append_nil (_ ++ _ ++ _ ++ _)]
    refine namesUnannounced_append_decimal (namesUnannounced_append_decimal ?_ ?_) hend
    · exact namesUnannounced_ofList (by decide)
    · exact namesUnannounced_ofList (by decide)
  | exceedsAny provider count any =>
    change namesUnannounced (_ ++ _ ++ _ ++ _ ++ _ ++ _ : String).toList = false
    simp only [String.toList_append]
    rw [← List.append_nil (_ ++ _ ++ _ ++ _ ++ _ ++ _)]
    refine namesUnannounced_append_decimal (namesUnannounced_append_decimal ?_ ?_) hend
    · cases provider <;> decide
    · decide

/-- Apart from the warnings about the commits and the predictor none mentions the families that
are rebuilt without a warning of their own. -/
lemma Warning.namesUnannounced_message {t : Trace} {w : Warning} (happlies : w.Applies t)
    (hw : w ∉ [commitSummaryOnly, noCommits, predictorRebuilt]) :
    namesUnannounced w.message.toList = false := by
  cases w with
  | timedOut n =>
    change namesUnannounced (_ ++ _ ++ _ : String).toList = false
    simp only [String.toList_append]
    refine namesUnannounced_append_decimal ?_ ?_
    · exact namesUnannounced_ofList (by decide)
    · exact namesUnannounced_ofList (by decide)
  | detailSampled f =>
    have hall : ∀ f ∈ details, namesUnannounced (detailSampled f).message.toList = false := by
      simp only [details, List.forall_mem_cons]
      exact ⟨namesUnannounced_append_ofList (by decide),
        namesUnannounced_append_ofList (by decide),
        namesUnannounced_append_ofList (by decide),
        namesUnannounced_append_ofList (by decide), fun _ h => nomatch h⟩
    exact hall f happlies.2.1
  | providers v => exact v.namesUnannounced_message
  | commitSummaryOnly => exact absurd (by decide) hw
  | noCommits => exact absurd (by decide) hw
  | predictorRebuilt => exact absurd (by decide) hw
  | hostTimeUsed => exact namesUnannounced_ofList (by decide)
  | noTime => exact namesUnannounced_ofList (by decide)
  | stallsSampled => exact namesUnannounced_ofList (by decide)
  | fetchQueueSampled => exact namesUnannounced_ofList (by decide)

/-! ## Fallbacks -/

namespace Trace

variable {t : Trace} {f : MetricFamily}

/-- Where finer causes are sampled there are stalls to be summed up or sampled. -/
lemma source_stall_of_detail_sampled (hf : f ∈ details) (hsampled : t.source f = .sampled) :
    t.source .stall = .summary ∨ t.source .stall = .sampled := by
  have hstalls : t.stalls ≠ [] := by
    intro hnil
    have hin : ∀ c, t.stallsIn c = [] := fun c => by rw [stallsIn, hnil, List.filter_nil]
    have hnone : ∀ f ∈ details, t.hasSamples f = false := by
      simp [details, hasSamples, hin]
    have hsamples := (MetricSource.choose_eq_sampled_iff.mp hsampled).2
    rw [hnone f hf] at hsamples
    cases hsamples
  cases hsource : t.source .stall with
  | summary => exact .inl rfl
  | sampled => exact .inr rfl
  | unavailable =>
    have hsamples := (MetricSource.choose_eq_unavailable_iff.mp hsource).2
    exact absurd (by simpa [hasSamples] using hstalls) hsamples

/-- A family with a warning of its own is named when it is sampled. -/
lemma exists_warning_of_sampled (hf : f ∉ unannounced) (hsampled : t.source f = .sampled) :
    ∃ w ∈ t.warnings, f.isNamedIn w.message.toList = true := by
  have hcases : f ∈ unannounced ∨ f ∈ details ∨ f = .stall ∨ f = .predict ∨ f = .fetchQueue := by
    cases f <;> decide
  obtain hsilent | hdetail | rfl | rfl | rfl := hcases
  · exact absurd hsilent hf
  · obtain hstall | hstall := source_stall_of_detail_sampled hdetail hsampled
    · exact ⟨.detailSampled f, mem_warnings_iff.mpr ⟨hstall, hdetail, hsampled⟩,
        isNamedIn_label_append f _⟩
    · -- Nothing is counted, and the warning about the stalls covers their finer causes.
      have hoccurs : Text.occursIn MetricFamily.stall.label.toList
          Warning.stallsSampled.message.toList = true := by
        have hchars : Warning.stallsSampled.message.toList = _ := String.toList_ofList
        rw [hchars]
        decide
      exact ⟨.stallsSampled, mem_warnings_iff.mpr hstall, isNamedIn_of_stall hdetail hoccurs⟩
  · exact ⟨.stallsSampled, mem_warnings_iff.mpr hsampled, isNamedIn_ofList (by decide)⟩
  · exact ⟨.predictorRebuilt, mem_warnings_iff.mpr hsampled, isNamedIn_ofList (by decide)⟩
  · exact ⟨.fetchQueueSampled, mem_warnings_iff.mpr hsampled, isNamedIn_ofList (by decide)⟩

/-- A family without a warning of its own is named, if it is sampled, by the warning that the
predictor was rebuilt or not at all. -/
lemma predict_sampled_of_named (hf : f ∈ unannounced) (hsampled : t.source f = .sampled)
    {w : Warning} (hw : w ∈ t.warnings) (hnamed : f.isNamedIn w.message.toList = true) :
    (f = .commit ∨ f = .flush) ∧ t.source .predict = .sampled := by
  have happlies := mem_warnings_iff.mp hw
  have hunannounced : namesUnannounced w.message.toList = true :=
    List.any_eq_true.mpr ⟨f, hf, hnamed⟩
  have hcases : w ∈ [Warning.commitSummaryOnly, .noCommits, .predictorRebuilt] := by
    by_contra hnot
    rw [Warning.namesUnannounced_message happlies hnot] at hunannounced
    cases hunannounced
  have hsummary : ∀ f ∈ unannounced,
      f.isNamedIn Warning.commitSummaryOnly.message.toList = true → f = .commit := by
    have hchars : Warning.commitSummaryOnly.message.toList = _ := String.toList_ofList
    rw [hchars]
    decide
  have hnone : ∀ f ∈ unannounced,
      f.isNamedIn Warning.noCommits.message.toList = true → f = .commit := by
    have hchars : Warning.noCommits.message.toList = _ := String.toList_ofList
    rw [hchars]
    decide
  have hpredictor : ∀ f ∈ unannounced,
      f.isNamedIn Warning.predictorRebuilt.message.toList = true → f = .commit ∨ f = .flush := by
    have hchars : Warning.predictorRebuilt.message.toList = _ := String.toList_ofList
    rw [hchars]
    decide
  simp only [List.mem_cons, List.not_mem_nil, or_false] at hcases
  obtain rfl | rfl | rfl := hcases
  · -- The commits are summed up, so they are not sampled.
    obtain rfl := hsummary f hf hnamed
    cases hsampled.symm.trans happlies.1
  · obtain rfl := hnone f hf hnamed
    cases hsampled.symm.trans happlies
  · exact ⟨hpredictor f hf hnamed, happlies⟩

end Trace

namespace RunSummary

/-- Some warning of the run names the family. -/
def Announces (s : RunSummary) (f : MetricFamily) : Prop :=
  ∃ w ∈ s.warnings, f.isNamedIn w.message.toList = true

/-- **Which fallbacks are announced.**  A family that is rebuilt from single events or samples is
named by a warning unless it is one of commits, control flow, hotspots and flushes.  Of these,
commits and flushes are named if the predictor is rebuilt as well, and the others never. -/
theorem announces_iff_of_sampled (config : Config) (path : String) (lines : List String)
    {f : MetricFamily} (hsampled : (ofLines config path lines).sources f = .sampled) :
    (ofLines config path lines).Announces f ↔
      f ∉ unannounced ∨
        (f = .commit ∨ f = .flush) ∧ (ofLines config path lines).sources .predict = .sampled := by
  constructor
  · rintro ⟨w, hw, hnamed⟩
    by_cases hf : f ∈ unannounced
    · exact .inr (Trace.predict_sampled_of_named hf hsampled hw hnamed)
    · exact .inl hf
  · rintro (hf | ⟨hf, hpredict⟩)
    · exact Trace.exists_warning_of_sampled hf hsampled
    · refine ⟨.predictorRebuilt, Trace.mem_warnings_iff.mpr hpredict, ?_⟩
      obtain rfl | rfl := hf
      · exact isNamedIn_ofList (by decide)
      · exact isNamedIn_ofList (by decide)

/-! ### Two logs -/

/-- A log whose stalls are counted, with one sample of a blocked decode. -/
def countedStallsLog : List String := [
  "[stallm] mode=cycle stall_total_cycles=40 decode_blocked=40",
  "[stall ] cycle=5 dec(v/r)=1/0"]

/-- The run of the log announces that the finer causes of blocked decodes are sampled. -/
theorem announces_countedStallsLog :
    (ofLines {} "run.log" countedStallsLog).sources .decodeBlockedDetail = .sampled ∧
      (ofLines {} "run.log" countedStallsLog).Announces .decodeBlockedDetail := by
  have hsampled : (ofLines {} "run.log" countedStallsLog).sources .decodeBlockedDetail =
      .sampled := by decide
  refine ⟨hsampled, (announces_iff_of_sampled {} "run.log" countedStallsLog hsampled).mpr ?_⟩
  exact .inl (by decide)

/-- A log whose predictor is counted, with one retired instruction and one flush. -/
def silentLog : List String := [
  "[pred  ] cond_total=1",
  "[commit] cycle=1 slot=0 pc=0 inst=19",
  "[flush ] cycle=2 reason=exception"]

/-- The run of the log falls back in four families and announces none of them. -/
theorem not_announces_silentLog :
    unannounced.map (ofLines {} "run.log" silentLog).sources =
        [.sampled, .sampled, .sampled, .sampled] ∧
      ¬ ∃ f ∈ unannounced, (ofLines {} "run.log" silentLog).Announces f := by
  have hwarnings : (ofLines {} "run.log" silentLog).warnings = [] := by decide
  refine ⟨by decide, ?_⟩
  rintro ⟨f, -, w, hw, -⟩
  rw [hwarnings] at hw
  cases hw

end RunSummary

end PipelineProfile
