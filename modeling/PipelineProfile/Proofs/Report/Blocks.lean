import Mathlib.Data.List.Basic
import PipelineProfile.Proofs.Report.Sections

/-!
# The lines of a section

A reader of a report sees lines (`Text.linesIn`) and finds a block by its title: what is listed
under a title goes up to the next empty line (`Section.under`).

The lines of a section behind its heading are empty, titles, or items, which begin with a dash
(`Section.IsItem`).  Only items show what comes from a trace, and a title is no item.  So the blocks
are an outline (`Section.IsOutline`): a title stands only before the lines of its block
(`IsOutline.exists_split`), it stands there once if the block has lines and not at all if it has none
(`count_body`), and the lines under it are the items of the block (`under_body`).

The lines are those of the text as well, whatever the heading is (`linesIn_render`), because they
have no line feeds.
-/

namespace PipelineProfile

/-- The lines of a text. -/
def Text.linesIn (text : String) : List String := (text.toList.splitOn '\n').map String.ofList

namespace Section

open Text

/-! ## Items -/

/-- The line is one of a list: it begins with a dash and a blank. -/
def IsItem (line : String) : Prop := line.toList.take 2 = ['-', ' ']

instance (line : String) : Decidable (IsItem line) := inferInstanceAs (Decidable (_ = _))

/-- All lines are items. -/
def Items (lines : List String) : Prop := ∀ line ∈ lines, IsItem line

@[simp] lemma isItem_append (text : String) : IsItem ("- " ++ text) := by
  rw [IsItem, String.toList_append]
  rfl

@[simp] lemma isItem_item (label value : String) : IsItem (item label value) := by
  rw [item, String.append_assoc, String.append_assoc]
  exact isItem_append _

@[simp] lemma isItem_predictItem (label value : String) : IsItem (predictItem label value) :=
  isItem_item _ _

lemma IsItem.ne_empty {line : String} (h : IsItem line) : line ≠ "" := by
  rintro rfl
  revert h
  decide

@[simp] lemma items_nil : Items [] := fun _ h => nomatch h

@[simp] lemma items_cons {line : String} {lines : List String} :
    Items (line :: lines) ↔ IsItem line ∧ Items lines := List.forall_mem_cons

@[simp] lemma items_append {ls ms : List String} : Items (ls ++ ms) ↔ Items ls ∧ Items ms :=
  List.forall_mem_append

lemma items_map {α : Type} {f : α → String} {l : List α} (h : ∀ a, IsItem (f a)) :
    Items (l.map f) := List.forall_mem_map.mpr fun a _ => h a

/-! ## Blocks -/

/-- The lines are a block of items under the title, or there are none. -/
def IsBlock (title : String) (lines : List String) : Prop :=
  lines = [] ∨ ∃ items, Items items ∧ lines = block title items

lemma isBlock_block {title : String} {items : List String} (h : Items items) :
    IsBlock title (block title items) := .inr ⟨items, h, rfl⟩

lemma isBlock_optionalBlock {title : String} {items : List String} (h : Items items) :
    IsBlock title (optionalBlock title items) := by
  unfold optionalBlock
  split
  · exact .inl rfl
  · exact isBlock_block h

lemma isBlock_stalls (mode : String) (s : StallFigures) :
    IsBlock ("Stall Categories (" ++ mode ++ "):") (stalls mode s) := by
  refine isBlock_block ?_
  split
  · exact items_cons.mpr ⟨by decide, items_nil⟩
  · exact items_append.mpr ⟨items_map fun c => isItem_item _ _, by simp⟩

lemma isBlock_breakdown (title : String) (d : StallDetail) :
    IsBlock (title ++ " Breakdown:") (breakdown title d) := by
  unfold breakdown
  split
  · exact .inl rfl
  · exact isBlock_block (items_cons.mpr ⟨isItem_item _ _, items_map fun e => isItem_item _ _⟩)

lemma isBlock_fetchQueue (q : FetchQueue) :
    IsBlock "Fetch Queue Effectiveness:" (fetchQueue q) := by
  unfold fetchQueue
  split
  · exact .inl rfl
  · exact isBlock_block (items_append.mpr ⟨by simp, items_map fun e => isItem_item _ _⟩)

lemma isBlock_of_mem_blocks {s : RunSummary} {e : String × List String} (h : e ∈ blocks s) :
    IsBlock e.1 e.2 := by
  simp only [blocks, List.mem_cons, List.not_mem_nil, or_false] at h
  obtain rfl | rfl | rfl | rfl | rfl | rfl | rfl | rfl | rfl | rfl := h
  · exact isBlock_block (items_map fun e => isItem_item _ _)
  · exact isBlock_stalls _ _
  · exact isBlock_breakdown "Frontend Empty" _
  · exact isBlock_breakdown "Decode Blocked" _
  · exact isBlock_breakdown "ROB Backpressure" _
  · exact isBlock_breakdown "Other" _
  · exact isBlock_fetchQueue _
  · exact isBlock_optionalBlock (items_map fun h => isItem_item _ _)
  · exact isBlock_optionalBlock (items_map fun f => isItem_item _ _)
  · exact isBlock_optionalBlock (items_map fun w => isItem_append _)

/-! ## Outlines -/

/-- The titles that the section of a run with stalls from the source can have. -/
def titles (source : MetricSource) : List String := [
  "Commit Width Histogram:", "Stall Categories (" ++ source.stallMode ++ "):",
  "Frontend Empty Breakdown:", "Decode Blocked Breakdown:", "ROB Backpressure Breakdown:",
  "Other Breakdown:", "Fetch Queue Effectiveness:", "Top PC Hotspots:",
  "Metric Sources (non-summary):", "Quality Warnings:"]

/-- Blocks under different titles, none of which is an item or empty. -/
structure IsOutline (bs : List (String × List String)) : Prop where
  blocks : ∀ e ∈ bs, IsBlock e.1 e.2
  nodup : (bs.map Prod.fst).Nodup
  titles : ∀ e ∈ bs, ¬ IsItem e.1 ∧ e.1 ≠ ""

lemma map_fst_blocks (s : RunSummary) : (blocks s).map Prod.fst = titles (s.sources .stall) := rfl

lemma isOutline_blocks (s : RunSummary) : IsOutline (blocks s) := by
  have htitles : ∀ source, (titles source).Nodup ∧
      ∀ title ∈ titles source, ¬ IsItem title ∧ title ≠ "" := by
    intro source
    cases source <;> decide
  obtain ⟨hnodup, htitle⟩ := htitles (s.sources .stall)
  rw [← map_fst_blocks] at hnodup htitle
  exact ⟨fun _ => isBlock_of_mem_blocks, hnodup, fun e he => htitle e.1 (List.mem_map_of_mem he)⟩

/-- The lines of a block are empty, its title and items. -/
lemma IsBlock.mem_cases {title line : String} {lines : List String} (h : IsBlock title lines)
    (hline : line ∈ lines) : line = "" ∨ line = title ∨ IsItem line := by
  obtain rfl | ⟨items, hitems, rfl⟩ := h
  · cases hline
  · obtain hempty | htitle | hitem := by simpa [block] using hline
    · exact .inl hempty
    · exact .inr (.inl htitle)
    · exact .inr (.inr (hitems line hitem))

namespace IsOutline

variable {as bs : List (String × List String)} {title : String} {lines : List String}

lemma sublist (h : IsOutline bs) (hsub : as.Sublist bs) : IsOutline as where
  blocks e he := h.blocks e (hsub.subset he)
  nodup := h.nodup.sublist (hsub.map Prod.fst)
  titles e he := h.titles e (hsub.subset he)

/-- A title is not on a line of blocks under other titles. -/
lemma not_mem_flatMap (h : IsOutline bs) (htitle : ¬ IsItem title ∧ title ≠ "")
    (hother : title ∉ bs.map Prod.fst) : title ∉ bs.flatMap Prod.snd := by
  intro hmem
  obtain ⟨e, he, hline⟩ := List.mem_flatMap.mp hmem
  obtain hempty | heq | hitem := (h.blocks e he).mem_cases hline
  · exact htitle.2 hempty
  · exact hother (heq ▸ List.mem_map_of_mem he)
  · exact htitle.1 hitem

/-- What follows a block begins with an empty line. -/
lemma head?_flatMap (h : IsOutline bs) : ∀ line ∈ (bs.flatMap Prod.snd).head?, line = "" := by
  induction bs with
  | nil => exact fun _ hline => nomatch hline
  | cons e bs ih =>
    rw [List.flatMap_cons]
    obtain hnone | ⟨items, -, hblock⟩ := h.blocks e (List.mem_cons_self ..)
    · rw [hnone, List.nil_append]
      exact ih (h.sublist (List.sublist_cons_self e bs))
    · rw [hblock]
      rintro line ⟨⟩
      rfl

/-- The title of a block stands in no line before the block and in no line behind it. -/
lemma exists_split (h : IsOutline bs) (hmem : (title, lines) ∈ bs) :
    ∃ before behind, bs.flatMap Prod.snd = before ++ (lines ++ behind) ∧ title ∉ before ∧
      title ∉ behind ∧ ∀ line ∈ behind.head?, line = "" := by
  obtain ⟨as, cs, rfl⟩ := List.append_of_mem hmem
  have htitle := h.titles _ hmem
  have hbefore : IsOutline as := h.sublist (List.sublist_append_left ..)
  have hbehind : IsOutline cs :=
    h.sublist ((List.sublist_cons_self ..).trans (List.sublist_append_right ..))
  have hnodup := h.nodup
  rw [List.map_append, List.map_cons, List.nodup_append, List.nodup_cons] at hnodup
  obtain ⟨-, ⟨hnot, -⟩, hdisjoint⟩ := hnodup
  refine ⟨as.flatMap Prod.snd, cs.flatMap Prod.snd, ?_, ?_, ?_, hbehind.head?_flatMap⟩
  · rw [List.flatMap_append, List.flatMap_cons]
  · exact hbefore.not_mem_flatMap htitle fun hold =>
      hdisjoint title hold title (List.mem_cons_self ..) rfl
  · exact hbehind.not_mem_flatMap htitle hnot

end IsOutline

/-! ## Finding a block -/

/-- The lines under a title: those behind the first line that is the title, up to the next empty
line. -/
def under (title : String) (lines : List String) : List String :=
  ((lines.dropWhile fun line => line ≠ title).drop 1).takeWhile fun line => line ≠ ""

lemma under_append {title : String} {before : List String} (h : title ∉ before)
    (lines : List String) : under title (before ++ lines) = under title lines := by
  rw [under, List.dropWhile_append_of_pos, under]
  intro line hline
  rw [decide_eq_true_eq]
  exact fun heq => h (heq ▸ hline)

lemma under_block {title : String} (htitle : title ≠ "") {items behind : List String}
    (hitems : Items items) (hbehind : ∀ line ∈ behind.head?, line = "") :
    under title (block title items ++ behind) = items := by
  have hdrop : ((block title items ++ behind).dropWhile fun line => line ≠ title) =
      title :: (items ++ behind) := by
    rw [block, List.cons_append, List.cons_append, List.dropWhile_cons_of_pos
      (by simpa using htitle.symm), List.dropWhile_cons_of_neg (by simp)]
  have hstop : (behind.takeWhile fun line => line ≠ "") = [] := by
    cases behind with
    | nil => rfl
    | cons line behind =>
      rw [hbehind line rfl]
      rfl
  rw [under, hdrop, List.drop_one, List.tail_cons, List.takeWhile_append_of_pos, hstop,
    List.append_nil]
  intro line hline
  simpa using (hitems line hline).ne_empty

example : under "Other Breakdown:" ["", "Top PC Hotspots:", "- 0x10: 5", "", "Other Breakdown:",
    "- total: 3", "- a: 3", "", "Quality Warnings:", "- b"] = ["- total: 3", "- a: 3"] := by decide

section Body

variable {s : RunSummary} {title : String} {lines : List String}

lemma items_headline (s : RunSummary) : Items (headline s) := by simp [headline]

lemma items_predictor (c : PredictCounters) : Items (predictor c) := by simp [predictor]

/-- Every line behind the heading is empty, a title or an item. -/
lemma mem_body_cases {line : String} (h : line ∈ body s) :
    line = "" ∨ line ∈ titles (s.sources .stall) ∨ IsItem line := by
  rw [body, List.mem_cons, List.mem_append, List.mem_append] at h
  obtain hempty | (hheadline | hpredictor) | hblocks := h
  · exact .inl hempty
  · exact .inr (.inr (items_headline s line hheadline))
  · exact .inr (.inr (items_predictor s.predict line hpredictor))
  · obtain ⟨e, he, hline⟩ := List.mem_flatMap.mp hblocks
    obtain hempty | rfl | hitem := (isBlock_of_mem_blocks he).mem_cases hline
    · exact .inl hempty
    · exact .inr (.inl (map_fst_blocks s ▸ List.mem_map_of_mem he))
    · exact .inr (.inr hitem)

/-- The title of a block stands only where the block is. -/
lemma exists_body_split (h : (title, lines) ∈ blocks s) :
    ∃ before behind, body s = before ++ (lines ++ behind) ∧ title ∉ before ∧ title ∉ behind ∧
      ∀ line ∈ behind.head?, line = "" := by
  have houtline := isOutline_blocks s
  obtain ⟨hitem, hempty⟩ := houtline.titles _ h
  obtain ⟨before, behind, hsplit, hbefore, hbehind, hhead⟩ := houtline.exists_split h
  have hfront : title ∉ "" :: (headline s ++ predictor s.predict) := by
    rw [List.mem_cons, List.mem_append]
    rintro (heq | hmem | hmem)
    · exact hempty heq
    · exact hitem (items_headline s title hmem)
    · exact hitem (items_predictor s.predict title hmem)
  refine ⟨("" :: (headline s ++ predictor s.predict)) ++ before, behind, ?_, ?_, hbehind, hhead⟩
  · simp only [body, hsplit, List.cons_append, List.append_assoc]
  · exact fun hmem => (List.mem_append.mp hmem).elim hfront hbefore

lemma IsBlock.count_title (h : IsBlock title lines) (hitem : ¬ IsItem title) (hempty : title ≠ "") :
    lines.count title = if lines = [] then 0 else 1 := by
  obtain rfl | ⟨items, hitems, rfl⟩ := h
  · rfl
  · have hnot : title ∉ items := fun hmem => hitem (hitems title hmem)
    have hne : block title items ≠ [] := List.cons_ne_nil _ _
    rw [if_neg hne, block, List.count_cons_of_ne hempty.symm,
      List.count_cons_self, List.count_eq_zero.mpr hnot]

/-- A title stands in a section once if its block has lines, and not at all otherwise. -/
lemma count_body (h : (title, lines) ∈ blocks s) :
    (body s).count title = if lines = [] then 0 else 1 := by
  obtain ⟨hitem, hempty⟩ := (isOutline_blocks s).titles _ h
  obtain ⟨before, behind, hsplit, hbefore, hbehind, -⟩ := exists_body_split h
  rw [hsplit, List.count_append, List.count_append, List.count_eq_zero.mpr hbefore,
    List.count_eq_zero.mpr hbehind, (isBlock_of_mem_blocks h).count_title hitem hempty,
    Nat.zero_add, Nat.add_zero]

lemma mem_body_iff (h : (title, lines) ∈ blocks s) : title ∈ body s ↔ lines ≠ [] := by
  rw [← List.count_pos_iff, count_body h]
  split
  · next hnil => simp [hnil]
  · next hne => simp [hne]

/-- The lines under a title are the items of its block. -/
lemma under_body {items : List String} (h : (title, block title items) ∈ blocks s)
    (hitems : Items items) : under title (body s) = items := by
  obtain ⟨-, hempty⟩ := (isOutline_blocks s).titles _ h
  obtain ⟨before, behind, hsplit, hbefore, -, hhead⟩ := exists_body_split h
  rw [hsplit, under_append hbefore, under_block hempty hitems hhead]

end Body

/-! ## The text -/

/-- The text of a section has the lines of its heading and then the lines of its body. -/
lemma linesIn_render {s : RunSummary} (hplain : PlainLines (body s)) (name : String) :
    linesIn (render name s) = linesIn ("### " ++ name) ++ body s := by
  have hbody : (("\n".intercalate (body s)).toList.splitOn '\n').map String.ofList = body s := by
    have hfree : ∀ l ∈ (body s).map String.toList, '\n' ∉ l :=
      List.forall_mem_map.mpr fun line hline => (hplain line hline).newline_not_mem
    have hcut : (['\n'].intercalate ((body s).map String.toList)).splitOn '\n' =
        (body s).map String.toList :=
      List.splitOn_intercalate '\n' hfree (by simp [body])
    have hsame : String.ofList ∘ String.toList = id := funext fun _ => String.ofList_toList
    rw [String.toList_intercalate]
    refine (congrArg (List.map String.ofList) hcut).trans ?_
    rw [List.map_map, hsame, List.map_id]
  have htext : (render name s).toList =
      ("### " ++ name).toList ++ '\n' :: ("\n".intercalate (body s)).toList := by
    rw [render, lines_eq, body, String.intercalate_cons_cons, String.toList_append,
      String.toList_append, List.append_assoc]
    rfl
  rw [linesIn, htext, List.splitOn_append_cons_self, List.map_append, hbody, linesIn]

end Section

end PipelineProfile
