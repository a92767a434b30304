import PipelineProfile.Proofs.Line.Facts
import PipelineProfile.Proofs.Tally.Pairs
import PipelineProfile.Proofs.Trace.LineKind
import PipelineProfile.Summary

/-!
# What canonical labels lose

The summary line of the category `other` may write the label of a cause at the head of the reorder
buffer with or without its ending `_nonbp`, and `StallDetail.canonicalLabel` adds the ending where
it is missing.  This renaming raises labels in their order and never merges two labels without the
ending (`raises_canonicalLabel`).  It does merge a label without the ending with the same label
that already has it, and then only the count of the latter is kept, while the samples of a run
would be counted together.

`total_otherDetail` says how much is lost: of the counts on the last summary line, those whose
label stands on the line once more with the ending (`Facts.shadowedCounts`).  So the breakdown
adds up to the counts on the line exactly if these are all zero, and `mergedLog` is a log on which
they are not.
-/

namespace PipelineProfile

lemma isLE_compare_append (s t : String) : (compare s (s ++ t)).isLE := by
  have hle : s ≤ s ++ t := by
    rw [← String.not_lt, String.lt_iff, String.toList_append, List.not_lt]
    exact List.le_append_left
  exact (isLE_compareOfLessAndEq String.le_antisymm String.not_le String.le_total).mpr hle

/-! ## Canonical labels -/

namespace StallDetail

lemma canonicalLabel_cases (label : String) :
    canonicalLabel label = label ∨ canonicalLabel label = label ++ "_nonbp" := by
  unfold canonicalLabel
  split
  · exact .inr rfl
  · exact .inl rfl

lemma canonicalLabel_canonicalLabel (label : String) :
    canonicalLabel (canonicalLabel label) = canonicalLabel label := by
  obtain h | h := canonicalLabel_cases label
  · rw [h, h]
  · -- The ending is there now.
    have hend : "_nonbp".toList.isSuffixOf (label ++ "_nonbp").toList = true :=
      List.isSuffixOf_iff_suffix.mpr ⟨label.toList, (String.toList_append ..).symm⟩
    rw [h, canonicalLabel, hend, Bool.not_true, Bool.and_false, if_neg Bool.false_ne_true]

lemma raises_canonicalLabel : Tally.Raises canonicalLabel where
  isLE label := by
    obtain h | h := canonicalLabel_cases label
    · rw [h]
      exact Std.ReflOrd.isLE_rfl
    · rw [h]
      exact isLE_compare_append label _
  idem := canonicalLabel_canonicalLabel
  inj {k l} hk hl h := by
    rw [(canonicalLabel_cases k).resolve_left hk, (canonicalLabel_cases l).resolve_left hl] at h
    exact (String.append_left_inj _).mp h

end StallDetail

/-! ## The counts on a summary line -/

/-- The number that a fact gives. -/
def Fact.count (x : Fact) : Nat := Numeral.value x.value.toList

namespace Facts

/-- The counts on a summary line of the category `other`. -/
def otherCounts (f : Facts) : List Fact :=
  f.toList.filter fun x => x.key ≠ "mode" && x.key ≠ "other_total"

/-- The counts whose label is not canonical and stands on the line in its canonical form too. -/
def shadowedCounts (f : Facts) : List Fact :=
  f.otherCounts.filter fun x =>
    Tally.isShadowed StallDetail.canonicalLabel (f.otherCounts.map Fact.key) x.key

lemma nodup_keys_otherCounts (f : Facts) : (f.otherCounts.map Fact.key).Nodup :=
  f.nodup_keys_toList.sublist (List.filter_sublist.map Fact.key)

lemma entries_counts_perm (f : Facts) :
    (StallDetail.counts "other_total" f).entries.Perm
      (f.otherCounts.map fun x => (x.key, x.count)) := by
  have hnodup : ((f.otherCounts.map fun x => (x.key, x.count)).map Prod.fst).Nodup := by
    rw [List.map_map]
    exact f.nodup_keys_otherCounts
  have hperm := Tally.entries_ofPairs_perm (f.otherCounts.map fun x => (x.key, x.count))
  rwa [lastBy_eq_self hnodup] at hperm

lemma total_counts (f : Facts) :
    (StallDetail.counts "other_total" f).total = (f.otherCounts.map Fact.count).sum := by
  rw [Tally.total, (f.entries_counts_perm.map Prod.snd).sum_nat, List.map_map]
  rfl

lemma mem_keys_counts {f : Facts} {label : String} :
    label ∈ (StallDetail.counts "other_total" f).keys ↔ label ∈ f.otherCounts.map Fact.key := by
  rw [Tally.keys, (f.entries_counts_perm.map Prod.fst).mem_iff, List.map_map]
  rfl

lemma sum_shadowed_counts (f : Facts) :
    (((StallDetail.counts "other_total" f).entries.filter fun e =>
        Tally.isShadowed StallDetail.canonicalLabel
          (StallDetail.counts "other_total" f).keys e.1).map Prod.snd).sum =
      (f.shadowedCounts.map Fact.count).sum := by
  have hkeys : ∀ label, Tally.isShadowed StallDetail.canonicalLabel
      (StallDetail.counts "other_total" f).keys label =
        Tally.isShadowed StallDetail.canonicalLabel (f.otherCounts.map Fact.key) label := by
    intro label
    simp only [Tally.isShadowed, mem_keys_counts]
  simp only [hkeys]
  rw [((f.entries_counts_perm.filter _).map Prod.snd).sum_nat, List.filter_map, List.map_map]
  rfl

/-- The breakdown on a line and what is lost of it are all that the line counts. -/
lemma total_otherOfFacts (f : Facts) :
    (StallDetail.otherOfFacts f).detail.total + (f.shadowedCounts.map Fact.count).sum =
      (f.otherCounts.map Fact.count).sum := by
  have h := StallDetail.raises_canonicalLabel.total_rename_add_shadowed
    (StallDetail.counts "other_total" f)
  rwa [sum_shadowed_counts, total_counts] at h

end Facts

/-- The labels of the breakdown on a line are those on the line in their canonical form. -/
lemma StallDetail.mem_keys_otherOfFacts {f : Facts} {label : String} :
    label ∈ (otherOfFacts f).detail.keys ↔ ∃ x ∈ f.otherCounts, canonicalLabel x.key = label := by
  have hkeys : ((counts "other_total" f).entries.map fun e => (canonicalLabel e.1, e.2)).map
      Prod.fst = (counts "other_total" f).keys.map canonicalLabel := by
    rw [Tally.keys, List.map_map, List.map_map]
    rfl
  refine Tally.mem_keys_ofPairs.trans ?_
  rw [ofFacts, hkeys, List.mem_map]
  simp only [Facts.mem_keys_counts, List.mem_map, exists_exists_and_eq_and]

/-! ## The breakdown of a run -/

namespace RunSummary

lemma stalls_other_ofLines (config : Config) (path : String) {lines : List String} {f : Facts}
    (hlast : (factsOf .otherSummary lines).getLast? = some f) :
    (ofLines config path lines).stalls.other = StallDetail.otherOfFacts f := by
  have hevent : (Trace.ofLines lines).last? Event.otherSummary? =
      some (StallDetail.otherOfFacts f) := by
    rw [Trace.last?_ofLines_tagged Event.shows_otherSummary? (by decide), hlast]
    rfl
  simp only [ofLines, ofTrace, Trace.stallFigures, hevent, Trace.stallDetail]

/-- **A label that stands on the line in both forms loses a count.**  If the category `other` has
a summary line, its breakdown adds up to the counts on the last of these lines, less the counts of
the labels without the ending `_nonbp` that stand on the line with the ending as well. -/
theorem total_otherDetail (config : Config) (path : String) (lines : List String) {f : Facts}
    (hlast : (factsOf .otherSummary lines).getLast? = some f) :
    (ofLines config path lines).stalls.other.detail.total +
        (f.shadowedCounts.map Fact.count).sum = (f.otherCounts.map Fact.count).sum ∧
      ((ofLines config path lines).stalls.other.detail.total =
          (f.otherCounts.map Fact.count).sum ↔ ∀ x ∈ f.shadowedCounts, x.count = 0) := by
  have htotal := f.total_otherOfFacts
  have hzero : (f.shadowedCounts.map Fact.count).sum = 0 ↔
      ∀ x ∈ f.shadowedCounts, x.count = 0 := by
    rw [List.sum_eq_zero_iff_forall_eq_nat, List.forall_mem_map]
  rw [stalls_other_ofLines config path hlast, ← hzero]
  refine ⟨htotal, ?_⟩
  omega

/-! ### A label in both forms -/

/-- A log whose last summary line gives one label in both forms. -/
def mergedLog : List String := [
  "[stallm5] ren_not_ready=3",
  "[stallm5] mode=cycle other_total=7 rob_head_alu_incomplete=5 rob_head_alu_incomplete_nonbp=2"]

/-- The facts on the last line of the log. -/
def mergedFacts : Facts := Facts.read
  " mode=cycle other_total=7 rob_head_alu_incomplete=5 rob_head_alu_incomplete_nonbp=2".toList

/-- What the last line gives, what of it is lost, and what is left. -/
lemma counts_mergedLog :
    (factsOf .otherSummary mergedLog).getLast? = some mergedFacts ∧
      (mergedFacts.shadowedCounts.map Fact.count).sum = 5 ∧
      (mergedFacts.otherCounts.map Fact.count).sum = 7 ∧
      (StallDetail.otherOfFacts mergedFacts).detail.total = 2 := by
  decide +kernel

/-- The five under the label without the ending are lost. -/
theorem total_otherDetail_mergedLog :
    (factsOf .otherSummary mergedLog).getLast? = some mergedFacts ∧
      (mergedFacts.shadowedCounts.map Fact.count).sum = 5 ∧
      (ofLines {} "run.log" mergedLog).stalls.other.detail.total + 5 = 7 := by
  obtain ⟨hlast, hshadowed, hcounts, -⟩ := counts_mergedLog
  have htotal := (total_otherDetail {} "run.log" mergedLog hlast).1
  rw [hshadowed, hcounts] at htotal
  exact ⟨hlast, hshadowed, htotal⟩

/-- The breakdown of the log does not add up to the counts on its last summary line. -/
theorem total_otherDetail_ne_counts :
    (factsOf .otherSummary mergedLog).getLast? = some mergedFacts ∧
      (ofLines {} "run.log" mergedLog).stalls.other.detail.total ≠
        (mergedFacts.otherCounts.map Fact.count).sum := by
  obtain ⟨hlast, -, hcounts, hleft⟩ := counts_mergedLog
  refine ⟨hlast, ?_⟩
  rw [stalls_other_ofLines {} "run.log" hlast, hcounts, hleft]
  decide

end RunSummary

end PipelineProfile
