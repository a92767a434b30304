import PipelineProfile.Proofs.Line.Written
import PipelineProfile.Proofs.Stall.Conservation
import PipelineProfile.Proofs.Stall.Divided

/-!
# The labels of finer causes

The labels in the breakdowns of stalls are the only texts that a summary takes from its trace.
Labels from samples are fixed, and labels from summary lines are keys of facts, so they have no
characters but those of keys (`IsLabel`), whatever else the lines may hold.  The main result is
`isLabel_of_mem_labels`.
-/

namespace PipelineProfile

/-- All characters of the text may stand in a key. -/
def IsLabel (label : String) : Prop := label.toList.all Facts.isKeyChar = true

instance (label : String) : Decidable (IsLabel label) := inferInstanceAs (Decidable (_ = true))

lemma isLabel_append {s t : String} : IsLabel (s ++ t) ↔ IsLabel s ∧ IsLabel t := by
  rw [IsLabel, String.toList_append, List.all_append, Bool.and_eq_true]
  rfl

/-- A text that is written out is checked character by character. -/
lemma isLabel_ofList {cs : List Char} (h : cs.all Facts.isKeyChar = true) :
    IsLabel (String.ofList cs) := by
  rw [IsLabel, String.toList_ofList]
  exact h

/-! ## Labels from samples -/

section Causes

lemma isLabel_storeWait (wait : StoreWait) : IsLabel wait.name := by
  cases wait <;> exact isLabel_ofList rfl

lemma isLabel_computeUnit (unit : ComputeUnit) : IsLabel unit.name := by
  cases unit <;> exact isLabel_ofList rfl

lemma isLabel_ownerResponse (response : OwnerResponse) : IsLabel response.name := by
  cases response <;> exact isLabel_ofList rfl

lemma isLabel_headLoadWait (wait : HeadLoadWait) : IsLabel wait.name := by
  cases wait <;> exact isLabel_ofList rfl

lemma isLabel_decodeBlockedCause (cause : DecodeBlockedCause) : IsLabel cause.label := by
  cases cause with
  | pendingReplay progress full => cases progress <;> cases full <;> exact isLabel_ofList rfl
  | loadGroup owned => cases owned <;> exact isLabel_ofList rfl
  | dispatchGate unit =>
    have hunit : IsLabel (DecodeBlockedCause.gateName unit) := by
      cases unit <;> exact isLabel_ofList rfl
    exact isLabel_append.mpr ⟨isLabel_ofList rfl, hunit⟩
  | _ => exact isLabel_ofList rfl

lemma isLabel_loadWait (wait : LoadWait) : IsLabel wait.label := by
  cases wait with
  | requestNotReady blocker =>
    cases blocker with
    | owner response =>
      exact isLabel_append.mpr ⟨isLabel_ofList rfl, isLabel_ownerResponse response⟩
    | _ => exact isLabel_ofList rfl
  | ownerResponse response =>
    exact isLabel_append.mpr ⟨isLabel_ofList rfl, isLabel_ownerResponse response⟩
  | _ => exact isLabel_ofList rfl

/-- What stands between two fixed texts. -/
lemma isLabel_between {before after : List Char} {name : String} (hname : IsLabel name)
    (hfixed : (before ++ after).all Facts.isKeyChar = true) :
    IsLabel (String.ofList before ++ name ++ String.ofList after) := by
  rw [List.all_append, Bool.and_eq_true] at hfixed
  exact isLabel_append.mpr
    ⟨isLabel_append.mpr ⟨isLabel_ofList hfixed.1, hname⟩, isLabel_ofList hfixed.2⟩

lemma isLabel_robBackpressureCause (cause : RobBackpressureCause) : IsLabel cause.label := by
  cases cause with
  | store wait => exact isLabel_append.mpr ⟨isLabel_ofList rfl, isLabel_storeWait wait⟩
  | compute unit => exact isLabel_between (isLabel_computeUnit unit) (by decide)
  | load wait => exact isLabel_loadWait wait
  | _ => exact isLabel_ofList rfl

lemma isLabel_otherCause (cause : OtherCause) : IsLabel cause.label := by
  cases cause with
  | refill step => cases step <;> exact isLabel_ofList rfl
  | writeback head => cases head <;> exact isLabel_ofList rfl
  | headStore wait => exact isLabel_between (isLabel_storeWait wait) (by decide)
  | headCompute unit => exact isLabel_between (isLabel_computeUnit unit) (by decide)
  | headLoad wait => exact isLabel_between (isLabel_headLoadWait wait) (by decide)
  | _ => exact isLabel_ofList rfl

end Causes

lemma isLabel_of_detail? {lanes : Nat} {p : StallProbe} {c : StallCategory} {label : String}
    (h : c.detail? lanes p = some label) : IsLabel label := by
  cases c with
  | decodeBlocked =>
    obtain rfl := Option.some.inj h
    exact isLabel_decodeBlockedCause _
  | robBackpressure =>
    obtain rfl := Option.some.inj h
    exact isLabel_robBackpressureCause _
  | other =>
    obtain rfl := Option.some.inj h
    exact isLabel_otherCause _
  | _ => cases h

/-! ## Labels from summary lines -/

namespace Facts

/-- The key of a fact has the form of a key. -/
lemma isKey_of_mem_occurrences {s : List Char} {x : Fact} (hx : x ∈ (read s).occurrences) :
    Grammar.isKey x.key.toList = true := by
  obtain ⟨w, t, hword⟩ := exists_word_of_mem_occurrences hx
  obtain ⟨⟨key, value⟩, hsplit, rfl⟩ := Option.map_eq_some_iff.mp hword
  rw [← Grammar.keyValue?_eq_splitWord?, Grammar.keyValue?] at hsplit
  split at hsplit
  · next hkey =>
    obtain ⟨rfl, -⟩ := Prod.mk.inj (Option.some.inj hsplit)
    rw [String.toList_ofList]
    exact (Bool.and_eq_true_iff.mp hkey).1
  · cases hsplit

lemma isLabel_of_mem_toList {s : List Char} {x : Fact} (hx : x ∈ (read s).toList) :
    IsLabel x.key := by
  obtain ⟨key, -, hlast⟩ := List.mem_filterMap.mp hx
  have hmem : x ∈ (read s).occurrences := List.mem_reverse.mp (List.mem_of_find?_eq_some hlast)
  exact List.all_eq_true.mpr (isKeyChar_of_isKey (isKey_of_mem_occurrences hmem))

end Facts

namespace StallDetail

/-- All labels of a breakdown are made of the characters of keys. -/
def HasLabels (d : StallDetail) : Prop := ∀ label ∈ d.detail.keys, IsLabel label

lemma hasLabels_ofFacts (totalKey : String) (s : List Char) :
    (ofFacts totalKey (Facts.read s)).HasLabels := by
  intro label hlabel
  obtain ⟨e, he, rfl⟩ := List.mem_map.mp (Tally.mem_keys_ofPairs.mp hlabel)
  obtain ⟨x, hx, rfl⟩ := List.mem_map.mp he
  exact Facts.isLabel_of_mem_toList (List.mem_of_mem_filter hx)

lemma isLabel_canonicalLabel {label : String} (h : IsLabel label) :
    IsLabel (canonicalLabel label) := by
  obtain hself | hended := canonicalLabel_cases label
  · rwa [hself]
  · rw [hended]
    exact isLabel_append.mpr ⟨h, isLabel_ofList rfl⟩

lemma hasLabels_otherOfFacts (s : List Char) : (otherOfFacts (Facts.read s)).HasLabels := by
  intro label hlabel
  obtain ⟨x, hx, rfl⟩ := mem_keys_otherOfFacts.mp hlabel
  exact isLabel_canonicalLabel (Facts.isLabel_of_mem_toList (List.mem_of_mem_filter hx))

end StallDetail

/-! ## The breakdowns of a run -/

/-- The facts on a line are read from the text behind its tag. -/
lemma Line.exists_of_read_tagged {text : String} {tag : Tag} {f : Facts}
    (h : Line.read text = .tagged tag f) : ∃ s, f = Facts.read s := by
  have hfound := isFound_read text
  rw [h] at hfound
  obtain ⟨s, -, hs⟩ := hfound
  exact ⟨s, hs.symm⟩

namespace Trace

/-- The last event of a kind that totals a run is read from some text. -/
lemma exists_read_of_last? {α : Type} {view : Event → Option α} {tag : Tag}
    (h : Event.Shows view (.tagged tag)) (htag : tag ≠ .commit) {lines : List String} {a : α}
    (hlast : (ofLines lines).last? view = some a) :
    ∃ s, (Event.ofTagged? tag (Facts.read s)).bind view = some a := by
  rw [last?_ofLines_tagged h htag, Option.bind_eq_some_iff] at hlast
  obtain ⟨f, hf, ha⟩ := hlast
  obtain ⟨text, -, hread⟩ := mem_factsOf.mp (List.mem_of_getLast? hf)
  obtain ⟨s, rfl⟩ := Line.exists_of_read_tagged hread
  exact ⟨s, ha⟩

/-- The labels are fixed, or come from the summary line. -/
lemma hasLabels_stallDetail (lanes : Nat) (c : StallCategory) (t : Trace)
    {summary : Option StallDetail} (h : ∀ d ∈ summary, d.HasLabels) :
    (t.stallDetail lanes c summary).HasLabels := by
  cases summary with
  | some d => exact h d rfl
  | none =>
    intro label hlabel
    obtain ⟨s, -, hs⟩ := List.mem_filterMap.mp (mem_keys_stallDetail.mp hlabel)
    exact isLabel_of_detail? hs

end Trace

/-- The labels of the breakdowns that a report shows. -/
def StallFigures.labels (s : StallFigures) : List String :=
  [s.frontendEmpty, s.decodeBlocked, s.robBackpressure, s.other].flatMap fun d => d.detail.keys

/-- All labels in the summary of a trace are made of the characters of keys. -/
theorem RunSummary.isLabel_of_mem_labels {config : Config} {path : String} {lines : List String}
    {label : String} (h : label ∈ (ofLines config path lines).stalls.labels) : IsLabel label := by
  let t := Trace.ofLines lines
  have hdivided : ∀ stall : DividedStall, ∀ d ∈ t.last? stall.summary?, d.HasLabels := by
    intro stall d hd
    obtain ⟨s, hs⟩ := Trace.exists_read_of_last? stall.shows_summary? stall.tag_ne_commit hd
    rw [stall.bind_summary?_ofTagged?] at hs
    obtain rfl := Option.some.inj hs
    exact StallDetail.hasLabels_ofFacts stall.totalKey s
  have hother : ∀ d ∈ t.last? Event.otherSummary?, d.HasLabels := by
    intro d hd
    obtain ⟨s, hs⟩ := Trace.exists_read_of_last? Event.shows_otherSummary? (by decide) hd
    obtain rfl := Option.some.inj hs
    exact StallDetail.hasLabels_otherOfFacts s
  obtain ⟨d, hd, hlabel⟩ := List.mem_flatMap.mp h
  simp only [List.mem_cons, List.not_mem_nil, or_false] at hd
  obtain rfl | rfl | rfl | rfl := hd
  · exact Trace.hasLabels_stallDetail _ _ t (hdivided .frontendEmpty) label hlabel
  · exact Trace.hasLabels_stallDetail _ _ t (hdivided .decodeBlocked) label hlabel
  · exact Trace.hasLabels_stallDetail _ _ t (hdivided .robBackpressure) label hlabel
  · exact Trace.hasLabels_stallDetail _ _ t hother label hlabel

end PipelineProfile
