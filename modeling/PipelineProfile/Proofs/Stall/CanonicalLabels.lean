import PipelineProfile.Proofs.Stall.Conservation
import PipelineProfile.Proofs.Stall.OtherLabels

/-!
# One vocabulary for the category `other`

The breakdown of the category `other` takes its labels from a summary line or from samples.  If the
two wrote one cause in two ways, figures from different sources could not be compared, and a report
would split the cause in two.  They differ only in the causes at the head of the reorder buffer,
where a summary line may leave out the ending `_nonbp`, and `StallDetail.canonicalLabel` makes up for
that.

A label is canonical if it has the ending whenever it is about the head (`IsCanonicalLabel`), and
these are the labels that `canonicalLabel` leaves alone (`canonicalLabel_eq_self_iff`).  The labels of
causes are all canonical: those about the head are what becomes of them without the ending
(`OtherCause.isEndedForm_label`), and the others do not begin like them.  The main result,
`oneVocabulary_ofLines`, says where the labels of a breakdown come from, and that they are canonical
from either source.
-/

namespace PipelineProfile

namespace StallDetail

/-! ## Canonical labels -/

/-- A label about the head of the reorder buffer has the ending that sets it apart from the labels
of the category `robBackpressure`. -/
def IsCanonicalLabel (label : String) : Prop :=
  "rob_head_".toList <+: label.toList → "_nonbp".toList <:+ label.toList

lemma canonicalLabel_eq_self {label : String} (h : IsCanonicalLabel label) :
    canonicalLabel label = label := by
  refine if_neg fun hboth => ?_
  rw [Bool.and_eq_true, Bool.not_eq_true', List.isPrefixOf_iff_prefix] at hboth
  obtain ⟨hhead, hend⟩ := hboth
  rw [List.isSuffixOf_iff_suffix.mpr (h hhead)] at hend
  cases hend

lemma canonicalLabel_eq_append {label : String} (hhead : "rob_head_".toList <+: label.toList)
    (hend : ¬"_nonbp".toList <:+ label.toList) : canonicalLabel label = label ++ "_nonbp" := by
  refine if_pos ?_
  rw [Bool.and_eq_true, Bool.not_eq_true', List.isPrefixOf_iff_prefix, Bool.eq_false_iff, Ne,
    List.isSuffixOf_iff_suffix]
  exact ⟨hhead, hend⟩

/-- The canonical labels are those that are left alone. -/
lemma canonicalLabel_eq_self_iff {label : String} :
    canonicalLabel label = label ↔ IsCanonicalLabel label := by
  refine ⟨fun hself hhead => ?_, canonicalLabel_eq_self⟩
  by_contra hend
  rw [canonicalLabel_eq_append hhead hend, String.append_eq_left_iff] at hself
  exact absurd hself (by decide)

lemma isCanonicalLabel_canonicalLabel (label : String) : IsCanonicalLabel (canonicalLabel label) :=
  canonicalLabel_eq_self_iff.mp (canonicalLabel_canonicalLabel label)

/-- A label about the head of the reorder buffer is another one with the ending. -/
structure IsEndedForm (label bare : String) : Prop where
  eq_append : label = bare ++ "_nonbp"
  isPrefix : "rob_head_".toList <+: bare.toList
  /-- There is no label with the ending twice. -/
  not_isSuffix : ¬"_nonbp".toList <:+ bare.toList

/-- A summary line that leaves the ending out means the label with the ending. -/
lemma IsEndedForm.canonicalLabel_eq {label bare : String} (h : IsEndedForm label bare) :
    canonicalLabel bare = label := by
  rw [canonicalLabel_eq_append h.isPrefix h.not_isSuffix, h.eq_append]

end StallDetail

/-! ## Labels from samples -/

namespace OtherCause

open StallDetail (canonicalLabel IsEndedForm)

/-- The label of a cause at the head of the reorder buffer, without its ending. -/
def bareLabel? : OtherCause → Option String
  | headStore wait => some ("rob_head_store_wait_" ++ wait.name)
  | headCompute unit => some ("rob_head_" ++ unit.name ++ "_incomplete")
  | headLoad wait => some ("rob_head_lsu_incomplete_" ++ wait.name)
  | _ => none

variable {cause : OtherCause}

lemma isEndedForm_label {bare : String} (h : cause.bareLabel? = some bare) :
    IsEndedForm cause.label bare := by
  cases cause with
  | headStore wait =>
    obtain rfl := Option.some.inj h
    exact {
      eq_append := rfl
      isPrefix := ⟨("store_wait_" ++ wait.name).toList, by simp⟩
      not_isSuffix := by
        rw [String.toList_append]
        cases wait <;> decide }
  | headCompute unit =>
    obtain rfl := Option.some.inj h
    have hending : "_incomplete" ++ "_nonbp" = "_incomplete_nonbp" := rfl
    exact {
      eq_append := by
        rw [String.append_assoc, hending]
        rfl
      isPrefix := ⟨(unit.name ++ "_incomplete").toList, by simp⟩
      not_isSuffix := by
        rw [String.toList_append, String.toList_append]
        cases unit <;> decide }
  | headLoad wait =>
    obtain rfl := Option.some.inj h
    exact {
      eq_append := rfl
      isPrefix := ⟨("lsu_incomplete_" ++ wait.name).toList, by simp⟩
      not_isSuffix := by
        rw [String.toList_append]
        cases wait <;> decide }
  | _ => cases h

/-- A summary line may leave out the ending that a sample shows. -/
example : canonicalLabel "rob_head_alu_incomplete" = (headCompute .alu).label := by decide

/-- All other labels begin in another way. -/
lemma not_isPrefix_label (h : cause.bareLabel? = none) :
    ¬"rob_head_".toList <+: cause.label.toList := by
  cases cause with
  | refill step => cases step <;> decide
  | writeback head => cases head <;> decide
  | headStore wait | headCompute unit | headLoad wait => cases h
  | _ => decide

lemma exists_isEndedForm (hhead : "rob_head_".toList <+: cause.label.toList) :
    ∃ bare, IsEndedForm cause.label bare := by
  cases h : cause.bareLabel? with
  | some bare => exact ⟨bare, isEndedForm_label h⟩
  | none => exact absurd hhead (not_isPrefix_label h)

lemma canonicalLabel_label (cause : OtherCause) : canonicalLabel cause.label = cause.label := by
  refine StallDetail.canonicalLabel_eq_self fun hhead => ?_
  obtain ⟨bare, hbare⟩ := exists_isEndedForm hhead
  rw [hbare.eq_append, String.toList_append]
  exact List.suffix_append _ _

end OtherCause

/-! ## The breakdown of a run -/

namespace StallDetail

/-- The labels of the category `other` are of one vocabulary, wherever they come from. -/
structure OneVocabulary (lanes : Nat) (lines : List String) (d : StallDetail) : Prop where
  /-- From a summary line come its labels in their canonical form. -/
  summed : ∀ f, (factsOf .otherSummary lines).getLast? = some f → ∀ label,
    label ∈ d.detail.keys ↔ ∃ x ∈ f.otherCounts, canonicalLabel x.key = label
  /-- Without a summary line come those that the samples show, as they are. -/
  sampled : linesOf (.tagged .otherSummary) lines = [] → ∀ label,
    label ∈ d.detail.keys ↔ ∃ text ∈ lines, StallSample.cause? lanes text = some (.other, label)
  canonical : ∀ label ∈ d.detail.keys, IsCanonicalLabel label

end StallDetail

open StallDetail (canonicalLabel IsCanonicalLabel)

/-- What one line shows is canonical. -/
lemma StallSample.isCanonicalLabel_of_cause? {lanes : Nat} {text label : String}
    (h : cause? lanes text = some (.other, label)) : IsCanonicalLabel label := by
  obtain ⟨s, -, hs⟩ := Option.bind_eq_some_iff.mp h
  obtain ⟨shown, hdetail, hpair⟩ := Option.map_eq_some_iff.mp hs
  obtain ⟨hcategory, rfl⟩ := Prod.mk.inj hpair
  rw [hcategory] at hdetail
  obtain rfl := Option.some.inj hdetail
  exact StallDetail.canonicalLabel_eq_self_iff.mp (OtherCause.canonicalLabel_label _)

namespace RunSummary

lemma mem_keys_other_of_getLast? {config : Config} {path : String} {lines : List String} {f : Facts}
    (hlast : (factsOf .otherSummary lines).getLast? = some f) {label : String} :
    label ∈ (ofLines config path lines).stalls.other.detail.keys ↔
      ∃ x ∈ f.otherCounts, canonicalLabel x.key = label := by
  rw [stalls_other_ofLines config path hlast]
  exact StallDetail.mem_keys_otherOfFacts

lemma mem_keys_other_of_eq_nil {config : Config} {path : String} {lines : List String}
    (hnone : linesOf (.tagged .otherSummary) lines = []) {label : String} :
    label ∈ (ofLines config path lines).stalls.other.detail.keys ↔
      ∃ text ∈ lines, StallSample.cause? config.replayFullLanes text = some (.other, label) := by
  have hlast := Trace.last?_ofLines_eq_none Event.shows_otherSummary? rfl hnone
  simp only [ofLines, ofTrace, Trace.stallFigures, hlast]
  exact Trace.mem_keys_stallDetail_ofLines

/-- From either source, the labels of the breakdown are canonical. -/
lemma isCanonicalLabel_of_mem_keys {config : Config} {path : String} {lines : List String}
    {label : String} (h : label ∈ (ofLines config path lines).stalls.other.detail.keys) :
    IsCanonicalLabel label := by
  cases hlast : (factsOf .otherSummary lines).getLast? with
  | some f =>
    obtain ⟨x, -, rfl⟩ := (mem_keys_other_of_getLast? hlast).mp h
    exact StallDetail.isCanonicalLabel_canonicalLabel x.key
  | none =>
    have hnone := factsOf_eq_nil_iff.mp (List.getLast?_eq_none_iff.mp hlast)
    obtain ⟨text, -, hcause⟩ := (mem_keys_other_of_eq_nil hnone).mp h
    exact StallSample.isCanonicalLabel_of_cause? hcause

/-- **Summary lines and samples share one vocabulary for the category `other`.**  Making a label
canonical changes nothing the second time, and nothing at all if the label has its ending.  Every
label that a sample can show is canonical, and one about the head of the reorder buffer is what a
summary line comes to mean that writes it without the ending.  So there is no label about the head
without the ending in the breakdown of any run. -/
theorem oneVocabulary_ofLines (config : Config) (path : String) (lines : List String) :
    (∀ label, canonicalLabel (canonicalLabel label) = canonicalLabel label ∧
        (canonicalLabel label = label ↔ IsCanonicalLabel label)) ∧
      (∀ lanes p, ∃ label, StallCategory.other.detail? lanes p = some label ∧
        canonicalLabel label = label ∧
        ("rob_head_".toList <+: label.toList →
          ∃ bare, label = bare ++ "_nonbp" ∧ canonicalLabel bare = label)) ∧
      (ofLines config path lines).stalls.other.OneVocabulary config.replayFullLanes lines := by
  refine ⟨fun label => ?_, fun lanes p => ?_, ?_⟩
  · exact ⟨StallDetail.canonicalLabel_canonicalLabel label, StallDetail.canonicalLabel_eq_self_iff⟩
  · refine ⟨(OtherCause.ofProbe p).label, rfl, ?_, ?_⟩
    · exact OtherCause.canonicalLabel_label _
    · intro hhead
      obtain ⟨bare, hbare⟩ := OtherCause.exists_isEndedForm hhead
      exact ⟨bare, hbare.eq_append, hbare.canonicalLabel_eq⟩
  · exact {
      summed := fun f hlast _ => mem_keys_other_of_getLast? hlast
      sampled := fun hnone _ => mem_keys_other_of_eq_nil hnone
      canonical := fun _ => isCanonicalLabel_of_mem_keys }

end RunSummary

end PipelineProfile
