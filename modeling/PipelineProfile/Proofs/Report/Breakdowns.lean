import PipelineProfile.Proofs.Report.Blocks

/-!
# The breakdowns that a report shows

A section has a block for each of four breakdowns of stalls, and one for the categories of stalls.
`Section.ListsBreakdown` says what a reader of the lines finds of a breakdown: the title if there is
anything to list, and under it a line with the total and then a line for each label, the greater
counts first and of equal counts the smaller label.  `Section.ListsCategories` says the same of the
categories, all eight of which are listed once there are stalls, with equal counts in order of
priority.  That they are in this order is due to the sort, which keeps the order of the categories
where it does not look at more than the counts (`pairwise_mergeSort_of_nodup`).

Labels come from the log, so a log could try to change the report with them.  But a label is a word
(`IsLabel.not_mem`): it stays on its line, and the line is told apart from the total and from the
lines of other labels (`Section.row_injOn`).  The main result, `breakdowns_shown`, is about the lines
of the text.
-/

namespace PipelineProfile

open Text

/-! ## Sorting what has an order already -/

section Stable

variable {α : Type} {l : List α}

lemma pair_sublist_or {a b : α} (ha : a ∈ l) (hb : b ∈ l) (hne : a ≠ b) :
    [a, b].Sublist l ∨ [b, a].Sublist l := by
  obtain ⟨s, t, rfl⟩ := List.append_of_mem ha
  rw [List.mem_append, List.mem_cons] at hb
  obtain hbefore | heq | hbehind := hb
  · exact .inr ((List.singleton_sublist.mpr hbefore).append
      (List.singleton_sublist.mpr (List.mem_cons_self ..)))
  · exact absurd heq.symm hne
  · exact .inl (((List.singleton_sublist.mpr hbehind).cons_cons a).trans
      (List.sublist_append_right s _))

variable [DecidableEq α]

lemma idxOf_lt_of_pair_sublist (h : l.Nodup) {a b : α} (hab : [a, b].Sublist l) :
    l.idxOf a < l.idxOf b := by
  have hplaces : l.Pairwise fun a b => l.idxOf a < l.idxOf b := by
    rw [List.pairwise_iff_getElem]
    intro i j hi hj hij
    rwa [h.idxOf_getElem, h.idxOf_getElem]
  exact List.pairwise_iff_forall_sublist.mp hplaces hab

/-- Of two values that sort alike, the one that is first in a list is first in the sorted list. -/
lemma pairwise_mergeSort_of_nodup (le : α → α → Bool)
    (htrans : ∀ a b c, le a b = true → le b c = true → le a c = true)
    (htotal : ∀ a b, (le a b || le b a) = true) (h : l.Nodup) :
    (l.mergeSort le).Pairwise fun a b => le a b = true ∧ (le b a = true → l.idxOf a < l.idxOf b) := by
  have hnodup : (l.mergeSort le).Nodup := (List.mergeSort_perm l le).nodup_iff.mpr h
  have hsorted := List.pairwise_mergeSort htrans htotal l
  rw [List.pairwise_iff_forall_sublist]
  intro a b hab
  refine ⟨List.pairwise_iff_forall_sublist.mp hsorted hab, fun hba => ?_⟩
  have ha : a ∈ l := List.mem_mergeSort.mp (hab.subset (by simp))
  have hb : b ∈ l := List.mem_mergeSort.mp (hab.subset (by simp))
  have hne : a ≠ b := List.pairwise_iff_forall_sublist.mp hnodup hab
  obtain hsame | hswapped := pair_sublist_or ha hb hne
  · exact idxOf_lt_of_pair_sublist h hsame
  · -- The sort would have kept this order too, and no value is in the list twice.
    have hkept := List.pair_sublist_mergeSort htrans htotal hba hswapped
    exact absurd (idxOf_lt_of_pair_sublist hnodup hab)
      (lt_asymm (idxOf_lt_of_pair_sublist hnodup hkept))

end Stable

/-! ## The order of categories -/

/-- One category comes before another: its count is greater, or the counts are equal and it is
earlier in the order of priority, at the end of which is `other`. -/
def StallFigures.Outranks (s : StallFigures) (a b : StallCategory) : Prop :=
  s.byCategory b < s.byCategory a ∨ s.byCategory a = s.byCategory b ∧
    StallCategory.priority.idxOf a < StallCategory.priority.idxOf b

/-- There are eight categories, and they are in order of priority. -/
lemma StallCategory.all_spec : all.length = 8 ∧ all.Nodup ∧
    ∀ c, all.idxOf c = priority.idxOf c := by
  refine ⟨rfl, by decide, fun c => ?_⟩
  cases c <;> decide

namespace Section

/-! ## Rows -/

/-- A line that lists a label with its count and its share in a total. -/
def row (total : Nat) (e : String × Nat) : String :=
  "- " ++ e.1 ++ ": `" ++ Numeral.decimal e.2 ++ "` (" ++ share e.2 total ++ ")"

/-- A line that gives a total. -/
def totalRow (total : Nat) : String := "- total: `" ++ Numeral.decimal total ++ "`"

lemma shareItem_eq (label : String) (n total : Nat) :
    shareItem label n total = row total (label, n) := by
  have hopen : ": `" = ": " ++ "`" := rfl
  have hclose : "` (" = "`" ++ " (" := rfl
  simp only [shareItem, item, count, figure, row, hopen, hclose, String.append_assoc]

lemma item_total (n : Nat) : item "total" (count n) = totalRow n := by
  have hlabel : "- total: `" = "- " ++ "total" ++ ": " ++ "`" := rfl
  simp only [item, count, figure, totalRow, hlabel, String.append_assoc]

/-- A line with a share does not end like a line with a total. -/
lemma row_ne_totalRow (total m : Nat) (e : String × Nat) : row total e ≠ totalRow m := by
  have hrow : (row total e).toList.getLast? = some ')' := by
    rw [row, String.toList_append]
    exact List.getLast?_concat
  have htotal : (totalRow m).toList.getLast? = some '`' := by
    rw [totalRow, String.toList_append]
    exact List.getLast?_concat
  intro h
  rw [h, htotal] at hrow
  revert hrow
  decide

/-- Up to the blank behind it, a label without blanks is told from the line. -/
lemma splitOn_row (total : Nat) {e : String × Nat} (he : ' ' ∉ e.1.toList) :
    (row total e).toList.splitOn ' ' = ['-'] :: (e.1.toList ++ [':']) ::
      ("`" ++ Numeral.decimal e.2 ++ "` (" ++ share e.2 total ++ ")").toList.splitOn ' ' := by
  have hlabel : ' ' ∉ e.1.toList ++ [':'] := by simpa using he
  have hdash : ' ' ∉ ['-'] := by decide
  rw [← List.splitOn_append_cons_self_of_not_mem hlabel,
    ← List.splitOn_append_cons_self_of_not_mem hdash]
  refine congrArg (List.splitOn ' ') ?_
  simp [row, String.toList_append]

/-- Different labels without blanks have different lines. -/
lemma row_injOn {total : Nat} {a b : String × Nat} (ha : ' ' ∉ a.1.toList) (hb : ' ' ∉ b.1.toList)
    (h : row total a = row total b) : a.1 = b.1 := by
  have hpieces := splitOn_row total ha
  rw [h, splitOn_row total hb] at hpieces
  have hlabels := (List.cons.inj (List.cons.inj hpieces).2).1
  exact String.toList_injective (List.append_cancel_right hlabels).symm

/-! ## What a section lists -/

/-- The lines list a breakdown under its title. -/
structure ListsBreakdown (lines : List String) (title : String) (d : StallDetail) : Prop where
  /-- The title is there if and only if there is something to list. -/
  present : title ∈ lines ↔ d.detail.keys ≠ []
  once : lines.count title ≤ 1
  /-- The total comes first, and then every label once, with its count and in order. -/
  listed : d.detail.keys ≠ [] → ∃ es : List (String × Nat), es.Perm d.detail.entries ∧
    es.Pairwise Tally.Outranks ∧ under title lines = totalRow d.total :: es.map (row d.total)
  nodup : d.detail.keys.Nodup
  /-- A label is a word. -/
  words : ∀ key ∈ d.detail.keys, '\n' ∉ key.toList ∧ '`' ∉ key.toList ∧ ' ' ∉ key.toList
  /-- A line of a label is neither the total nor the line of another label. -/
  unforged : ∀ a ∈ d.detail.entries, row d.total a ≠ totalRow d.total ∧
    ∀ b ∈ d.detail.entries, row d.total a = row d.total b → a = b

/-- The line behind the categories: how many samples of a blocked decode come shortly after a flush
and after a corrected misprediction. -/
def windowRow (s : StallFigures) : String :=
  item ("decode_blocked within " ++ Numeral.decimal s.window ++ " cycles of flush/branch flush")
    (counts [s.blockedAfterFlush, s.blockedAfterMispredict])

/-- The lines list the categories of stalls under the title, before one more line. -/
structure ListsCategories (lines : List String) (title : String) (s : StallFigures) : Prop where
  once : lines.count title = 1
  listed : 0 < s.total → ∃ cs : List StallCategory,
    (cs.length = 8 ∧ cs.Nodup ∧ ∀ c, c ∈ cs) ∧ cs.Pairwise s.Outranks ∧
    under title lines = cs.map (fun c => row s.total (c.label, s.byCategory c)) ++ [windowRow s]

/-- The lines list the stalls of a run, and what else they show are empty lines, titles and
items. -/
structure ListsStalls (lines : List String) (s : RunSummary) : Prop where
  frontendEmpty : ListsBreakdown lines "Frontend Empty Breakdown:" s.stalls.frontendEmpty
  decodeBlocked : ListsBreakdown lines "Decode Blocked Breakdown:" s.stalls.decodeBlocked
  robBackpressure : ListsBreakdown lines "ROB Backpressure Breakdown:" s.stalls.robBackpressure
  other : ListsBreakdown lines "Other Breakdown:" s.stalls.other
  categories : ListsCategories lines
    ("Stall Categories (" ++ (s.sources .stall).stallMode ++ "):") s.stalls
  outline : ∀ line ∈ lines, line = "" ∨ line ∈ titles (s.sources .stall) ∨ IsItem line

/-! ## Breakdowns -/

lemma detail_isEmpty_iff {d : StallDetail} : d.detail.isEmpty = true ↔ d.detail.keys = [] := by
  rw [Tally.isEmpty, List.isEmpty_iff, Tally.keys, List.map_eq_nil_iff]

lemma breakdown_of_ne_nil (name : String) {d : StallDetail} (h : d.detail.keys ≠ []) :
    breakdown name d = block (name ++ " Breakdown:")
      (totalRow d.total :: d.detail.ranking.map (row d.total)) := by
  have hrows : (d.detail.ranking.map fun e => shareItem e.1 e.2 d.total) =
      d.detail.ranking.map (row d.total) :=
    List.map_congr_left fun e _ => shareItem_eq e.1 e.2 d.total
  rw [breakdown, if_neg (fun hempty => h (detail_isEmpty_iff.mp hempty)), item_total, hrows]

lemma breakdown_ne_nil_iff (name : String) (d : StallDetail) :
    breakdown name d ≠ [] ↔ d.detail.keys ≠ [] := by
  refine ⟨fun h hnil => h (if_pos (detail_isEmpty_iff.mpr hnil)), fun h => ?_⟩
  rw [breakdown_of_ne_nil name h]
  exact List.cons_ne_nil _ _

lemma items_breakdown (d : StallDetail) :
    Items (totalRow d.total :: d.detail.ranking.map (row d.total)) := by
  refine items_cons.mpr ⟨?_, items_map fun e => ?_⟩
  · rw [← item_total]
    exact isItem_item _ _
  · rw [← shareItem_eq]
    exact isItem_item _ _

lemma listsBreakdown (name : String) {s : RunSummary} {d : StallDetail}
    (hblock : (name ++ " Breakdown:", breakdown name d) ∈ blocks s) (hlabels : d.HasLabels) :
    ListsBreakdown (body s) (name ++ " Breakdown:") d := by
  have hwords : ∀ key ∈ d.detail.keys, '\n' ∉ key.toList ∧ '`' ∉ key.toList ∧ ' ' ∉ key.toList :=
    fun key hkey => ⟨(hlabels key hkey).not_mem (by decide), (hlabels key hkey).not_mem (by decide),
      (hlabels key hkey).not_mem (by decide)⟩
  exact {
    present := (mem_body_iff hblock).trans (breakdown_ne_nil_iff name d)
    once := by
      rw [count_body hblock]
      split <;> decide
    listed := by
      intro hne
      refine ⟨d.detail.ranking, d.detail.ranking_perm, d.detail.pairwise_ranking, ?_⟩
      rw [breakdown_of_ne_nil name hne] at hblock
      exact under_body hblock (items_breakdown d)
    nodup := d.detail.nodup_keys
    words := hwords
    unforged := by
      intro a ha
      refine ⟨row_ne_totalRow _ _ a, fun b hb heq => ?_⟩
      have hkey : a.1 = b.1 := row_injOn (hwords a.1 (List.mem_map_of_mem ha)).2.2
        (hwords b.1 (List.mem_map_of_mem hb)).2.2 heq
      exact List.inj_on_of_nodup_map d.detail.nodup_keys ha hb hkey }

/-! ## Categories -/

lemma pairwise_categories (s : StallFigures) : (categories s).Pairwise s.Outranks := by
  obtain ⟨-, hnodup, hidx⟩ := StallCategory.all_spec
  have hsorted := pairwise_mergeSort_of_nodup
    (fun a b => decide (s.byCategory b ≤ s.byCategory a))
    (fun a b c hab hbc => by simp only [decide_eq_true_eq] at hab hbc ⊢; omega)
    (fun a b => by simp only [Bool.or_eq_true, decide_eq_true_eq]; omega) hnodup
  refine hsorted.imp fun {a b} ⟨hle, htie⟩ => ?_
  rw [hidx, hidx] at htie
  rw [decide_eq_true_eq] at hle htie
  obtain hlt | heq := Nat.lt_or_eq_of_le hle
  · exact .inl hlt
  · exact .inr ⟨heq.symm, htie heq.symm.le⟩

lemma categories_spec (s : StallFigures) :
    (categories s).length = 8 ∧ (categories s).Nodup ∧ ∀ c, c ∈ categories s := by
  obtain ⟨hlength, hnodup, -⟩ := StallCategory.all_spec
  have hperm : (categories s).Perm StallCategory.all := List.mergeSort_perm _ _
  exact ⟨hperm.length_eq.trans hlength, hperm.nodup_iff.mpr hnodup,
    fun c => hperm.mem_iff.mpr (StallCategory.mem_all c)⟩

lemma listsCategories (s : RunSummary) : ListsCategories (body s)
    ("Stall Categories (" ++ (s.sources .stall).stallMode ++ "):") s.stalls := by
  have hblock : ("Stall Categories (" ++ (s.sources .stall).stallMode ++ "):",
      stalls (s.sources .stall).stallMode s.stalls) ∈ blocks s := by
    simp [blocks]
  refine ⟨?_, fun htotal => ?_⟩
  · have hne : stalls (s.sources .stall).stallMode s.stalls ≠ [] := List.cons_ne_nil _ _
    rw [count_body hblock, if_neg hne]
  · refine ⟨categories s.stalls, categories_spec _, pairwise_categories _, ?_⟩
    rw [stalls, if_neg (by omega)] at hblock
    simp only [shareItem_eq] at hblock
    refine under_body hblock (items_append.mpr ⟨items_map fun c => ?_, by simp [windowRow]⟩)
    rw [← shareItem_eq]
    exact isItem_item _ _

/-! ## The whole section -/

/-- What a section lists, if the labels are those of a scanned trace. -/
lemma listsStalls {s : RunSummary} (hlabels : ∀ label ∈ s.stalls.labels, IsLabel label) :
    ListsStalls (body s) s := by
  have hdetail : ∀ d ∈ [s.stalls.frontendEmpty, s.stalls.decodeBlocked, s.stalls.robBackpressure,
      s.stalls.other], d.HasLabels := fun d hd label hkey =>
    hlabels label (List.mem_flatMap.mpr ⟨d, hd, hkey⟩)
  exact {
    frontendEmpty :=
      listsBreakdown "Frontend Empty" (by simp [blocks]) (hdetail _ (by simp))
    decodeBlocked :=
      listsBreakdown "Decode Blocked" (by simp [blocks]) (hdetail _ (by simp))
    robBackpressure :=
      listsBreakdown "ROB Backpressure" (by simp [blocks]) (hdetail _ (by simp))
    other := listsBreakdown "Other" (by simp [blocks]) (hdetail _ (by simp))
    categories := listsCategories s
    outline := fun line hline => mem_body_cases hline }

end Section

/-- **The report lists the stalls of a run completely and in order.**  A breakdown has a block of its
own if and only if it has labels, and the block lists each of them once, with its count, behind the
total.  The categories are all listed if there are stalls.  No label can add a line, split one or
pass for another, so what the log holds is seen only where it belongs. -/
theorem RunSummary.breakdowns_shown (config : Config) (path : String) (lines : List String) :
    ∃ body, Section.ListsStalls body (ofLines config path lines) ∧ ∀ name,
      linesIn (Section.render name (ofLines config path lines)) =
        linesIn ("### " ++ name) ++ body := by
  have hlabels : ∀ label ∈ (ofLines config path lines).stalls.labels, IsLabel label :=
    fun _ => isLabel_of_mem_labels
  have hplain : Section.PlainLines (Section.body (ofLines config path lines)) :=
    Section.plainLines_body fun label hmem => (hlabels label hmem).plain
  exact ⟨_, Section.listsStalls hlabels, Section.linesIn_render hplain⟩

end PipelineProfile
