import PipelineProfile.Proofs.Stall.Labels
import PipelineProfile.Proofs.Text.Braces
import PipelineProfile.Report.Section

/-!
# The text of sections

A section is a heading and a list of lines (`Section.body`), most of them in blocks under titles
(`Section.blocks`).  What the lines show are numbers and fixed texts, which are plain, and the labels
of finer causes, so the lines are plain if the labels are (`plainLines_body`).  There is a lemma for
each way in which a line is made, and one for each block of lines.  With a heading without braces
the whole section has none (`braceFree_render`).
-/

namespace PipelineProfile

open Text

/-- A label has no character that is in no key. -/
lemma IsLabel.not_mem {label : String} (h : IsLabel label) {c : Char}
    (hc : Facts.isKeyChar c = false) : c ∉ label.toList := by
  intro hmem
  rw [List.all_eq_true.mp h c hmem] at hc
  cases hc

/-- A label has neither braces nor line feeds, because a key has none. -/
lemma IsLabel.plain {label : String} (h : IsLabel label) : Plain label := by
  have hchars : ∀ c ∈ label.toList, Facts.isKeyChar c = true := List.all_eq_true.mp h
  exact plain_iff.mpr fun c hc =>
    isPlain_of (p := Facts.isKeyChar) (by decide) (by decide) (by decide) (hchars c hc)

namespace Section

/-! ## Figures and items -/

section Figures

@[simp] lemma plain_figure {text : String} : Plain (figure text) ↔ Plain text := by
  have htick : Plain "`" := plain_ofList rfl
  simp only [figure, plain_append, htick, true_and, and_true]

@[simp] lemma plain_count (n : Nat) : Plain (count n) :=
  plain_figure.mpr (plain_decimal n)

@[simp] lemma plain_number (places : Nat) (x : Float) : Plain (number places x) :=
  plain_figure.mpr (plain_fixed places x)

@[simp] lemma plain_counts (ns : List Nat) : Plain (counts ns) := by
  refine plain_intercalate (plain_ofList rfl) fun text htext => ?_
  obtain ⟨n, -, rfl⟩ := List.mem_map.mp htext
  exact plain_count n

@[simp] lemma plain_percent (x : Float) : Plain (percent x) :=
  plain_append.mpr ⟨plain_fixed _ _, plain_ofList rfl⟩

@[simp] lemma plain_share (part total : Nat) : Plain (share part total) :=
  plain_append.mpr ⟨plain_fixed _ _, plain_ofList rfl⟩

@[simp] lemma plain_item {label value : String} :
    Plain (item label value) ↔ Plain label ∧ Plain value := by
  have hdash : Plain "- " := plain_ofList rfl
  have hcolon : Plain ": " := plain_ofList rfl
  simp only [item, plain_append, hdash, hcolon, true_and, and_true]

@[simp] lemma plain_shareItem {label : String} {n total : Nat} :
    Plain (shareItem label n total) ↔ Plain label := by
  have hopen : Plain " (" := plain_ofList rfl
  have hclose : Plain ")" := plain_ofList rfl
  simp only [shareItem, plain_item, plain_append, plain_count, plain_share, hopen,
    hclose, and_true]

@[simp] lemma plain_remark {what : String} {x : Float} :
    Plain (remark what x) ↔ Plain what := by
  have hopen : Plain " (" := plain_ofList rfl
  have hblank : Plain " " := plain_ofList rfl
  have hclose : Plain ")" := plain_ofList rfl
  simp only [remark, plain_append, plain_percent, hopen, hblank, hclose, true_and, and_true]

@[simp] lemma plain_predictItem {label value : String} :
    Plain (predictItem label value) ↔ Plain label ∧ Plain value := by
  have hopen : Plain "predict(" := plain_ofList rfl
  have hclose : Plain ")" := plain_ofList rfl
  simp only [predictItem, plain_item, plain_append, hopen, hclose, true_and, and_true]

end Figures

/-! ## Lines -/

/-- All lines are plain. -/
def PlainLines (lines : List String) : Prop := ∀ line ∈ lines, Plain line

lemma plainLines_nil : PlainLines [] := fun _ h => nomatch h

@[simp] lemma plainLines_cons {line : String} {lines : List String} :
    PlainLines (line :: lines) ↔ Plain line ∧ PlainLines lines := List.forall_mem_cons

@[simp] lemma plainLines_append {ls ms : List String} :
    PlainLines (ls ++ ms) ↔ PlainLines ls ∧ PlainLines ms := List.forall_mem_append

lemma plainLines_map {α : Type} {f : α → String} {l : List α} (h : ∀ a ∈ l, Plain (f a)) :
    PlainLines (l.map f) := List.forall_mem_map.mpr h

lemma plainLines_block {title : String} {lines : List String} (htitle : Plain title)
    (hlines : PlainLines lines) : PlainLines (block title lines) :=
  plainLines_cons.mpr ⟨plain_ofList rfl, plainLines_cons.mpr ⟨htitle, hlines⟩⟩

lemma plainLines_optionalBlock {title : String} {lines : List String}
    (htitle : Plain title) (hlines : PlainLines lines) :
    PlainLines (optionalBlock title lines) := by
  unfold optionalBlock
  split
  · exact plainLines_nil
  · exact plainLines_block htitle hlines

/-! ## The blocks -/

lemma plain_time (r : RunTime) : Plain (time r) := by
  have hclock : ∀ clock : TimeSource, Plain clock.label := by
    intro clock
    cases clock <;> exact plain_ofList rfl
  have hopen : Plain " (" := plain_ofList rfl
  have hclose : Plain ")" := plain_ofList rfl
  have hunknown : Plain "N/A" := plain_ofList rfl
  unfold time
  split
  · simp only [plain_append, plain_number, hopen, hclock, hclose, and_self]
  · exact plain_figure.mpr hunknown

lemma plainLines_headline (s : RunSummary) : PlainLines (headline s) := by
  simp only [headline, plainLines_cons, plainLines_nil, plain_item, plain_append,
    plain_number, plain_counts, plain_count, plain_figure, plain_percent,
    plain_time, true_and, and_true]
  and_intros <;> exact plain_ofList rfl

lemma plainLines_predictor (c : PredictCounters) : PlainLines (predictor c) := by
  have haccuracies : ∀ xs : List Float,
      Plain (" / ".intercalate (xs.map fun x => figure (percent x))) := by
    intro xs
    refine plain_intercalate (plain_ofList rfl) (plainLines_map fun x _ => ?_)
    exact plain_figure.mpr (plain_percent x)
  simp only [predictor, plainLines_cons, plainLines_nil, plain_predictItem,
    plain_append, plain_counts, plain_count, plain_remark, haccuracies, true_and,
    and_true]
  and_intros <;> exact plain_ofList rfl

lemma plainLines_widths (hist : Tally Nat) : PlainLines (widths hist) := by
  refine plainLines_block (plain_ofList rfl) (plainLines_map fun e _ => ?_)
  exact plain_item.mpr
    ⟨plain_append.mpr ⟨plain_ofList rfl, plain_decimal e.1⟩, plain_count e.2⟩

lemma plainLines_stalls (source : MetricSource) (s : StallFigures) :
    PlainLines (stalls source.stallMode s) := by
  have hmode : Plain source.stallMode := by cases source <;> exact plain_ofList rfl
  have hlabel : ∀ c : StallCategory, Plain c.label := by
    intro c
    cases c <;> exact plain_ofList rfl
  have hopen : Plain "Stall Categories (" := plain_ofList rfl
  have hclose : Plain "):" := plain_ofList rfl
  have hwithin : Plain "decode_blocked within " := plain_ofList rfl
  have hcycles : Plain " cycles of flush/branch flush" := plain_ofList rfl
  refine plainLines_block (by simp only [plain_append, hmode, hopen, hclose, and_self]) ?_
  split
  · exact plainLines_cons.mpr ⟨plain_ofList rfl, plainLines_nil⟩
  · refine plainLines_append.mpr ⟨plainLines_map fun c _ => ?_, ?_⟩
    · exact plain_shareItem.mpr (hlabel c)
    · simp only [plainLines_cons, plainLines_nil, plain_item, plain_append,
        plain_decimal, plain_counts, hwithin, hcycles, and_self]

lemma plainLines_breakdown {title : String} (htitle : Plain title) {d : StallDetail}
    (hd : ∀ label ∈ d.detail.keys, Plain label) : PlainLines (breakdown title d) := by
  unfold breakdown
  split
  · exact plainLines_nil
  · refine plainLines_block (plain_append.mpr ⟨htitle, plain_ofList rfl⟩)
      (plainLines_cons.mpr ⟨?_, plainLines_map fun e he => ?_⟩)
    · exact plain_item.mpr ⟨plain_ofList rfl, plain_count d.total⟩
    · have hentry : e ∈ d.detail.entries := List.mem_mergeSort.mp he
      exact plain_shareItem.mpr (hd e.1 (List.mem_map_of_mem hentry))

lemma plainLines_fetchQueue (q : FetchQueue) : PlainLines (fetchQueue q) := by
  unfold fetchQueue
  split
  · exact plainLines_nil
  · refine plainLines_block (plain_ofList rfl) (plainLines_append.mpr ⟨?_, ?_⟩)
    · simp only [plainLines_cons, plainLines_nil, plain_item, plain_append,
        plain_counts, plain_count, plain_number, plain_remark, true_and, and_true]
      and_intros <;> exact plain_ofList rfl
    · refine plainLines_map fun e _ => plain_shareItem.mpr ?_
      exact plain_append.mpr ⟨plain_ofList rfl, plain_decimal e.1⟩

lemma plainLines_hotspots (hs : List Hotspot) : PlainLines (hotspots hs) := by
  refine plainLines_optionalBlock (plain_ofList rfl) (plainLines_map fun h _ => ?_)
  exact plain_item.mpr ⟨plain_word h.word, plain_count h.count⟩

lemma plainLines_sources (source : MetricFamily → MetricSource) :
    PlainLines (sources source) := by
  have hfamily : ∀ f : MetricFamily, Plain f.label := by
    intro f
    cases f <;> exact plain_ofList rfl
  have hsource : ∀ x : MetricSource, Plain x.label := by
    intro x
    cases x <;> exact plain_ofList rfl
  refine plainLines_optionalBlock (plain_ofList rfl) (plainLines_map fun f _ => ?_)
  exact plain_item.mpr ⟨hfamily f, plain_figure.mpr (hsource (source f))⟩

lemma plain_violation (v : ProviderViolation) : Plain v.message := by
  have hprovider : ∀ p : Provider, Plain p.label := by
    intro p
    cases p <;> exact plain_ofList rfl
  cases v with
  | overlap selected updates =>
    have hopening : Plain "predictor providers overlap: selected total " := plain_ofList rfl
    have hexceeds : Plain " exceeds cond_update_total " := plain_ofList rfl
    exact plain_append.mpr ⟨plain_append.mpr ⟨plain_append.mpr
      ⟨hopening, plain_decimal selected⟩, hexceeds⟩, plain_decimal updates⟩
  | exceedsAny provider count any =>
    have hopening : Plain "predictor wrong-alt accounting inconsistent: " :=
      plain_ofList rfl
    have hcorrect : Plain " alt-correct " := plain_ofList rfl
    have hexceeds : Plain " exceeds any " := plain_ofList rfl
    exact plain_append.mpr ⟨plain_append.mpr ⟨plain_append.mpr ⟨plain_append.mpr
      ⟨plain_append.mpr ⟨hopening, hprovider provider⟩, hcorrect⟩, plain_decimal count⟩,
      hexceeds⟩, plain_decimal any⟩

lemma plain_message (w : Warning) : Plain w.message := by
  cases w with
  | timedOut cycles =>
    have hopening : Plain "run timed out after " := plain_ofList rfl
    have hclosing : Plain " cycles; totals cover the partial run" := plain_ofList rfl
    exact plain_append.mpr
      ⟨plain_append.mpr ⟨hopening, plain_decimal cycles⟩, hclosing⟩
  | detailSampled family =>
    have hfamily : Plain family.label := by cases family <;> exact plain_ofList rfl
    exact plain_append.mpr ⟨hfamily, plain_ofList rfl⟩
  | providers violation => exact plain_violation violation
  | _ => exact plain_ofList rfl

lemma plainLines_warnings (ws : List Warning) : PlainLines (warnings ws) := by
  refine plainLines_optionalBlock (plain_ofList rfl) (plainLines_map fun w _ => ?_)
  exact plain_append.mpr ⟨plain_ofList rfl, plain_message w⟩

/-! ## The whole section -/

/-- The blocks of a section, each with its title. -/
def blocks (s : RunSummary) : List (String × List String) := [
  ("Commit Width Histogram:", widths s.commitWidths),
  ("Stall Categories (" ++ (s.sources .stall).stallMode ++ "):",
    stalls (s.sources .stall).stallMode s.stalls),
  ("Frontend Empty Breakdown:", breakdown "Frontend Empty" s.stalls.frontendEmpty),
  ("Decode Blocked Breakdown:", breakdown "Decode Blocked" s.stalls.decodeBlocked),
  ("ROB Backpressure Breakdown:", breakdown "ROB Backpressure" s.stalls.robBackpressure),
  ("Other Breakdown:", breakdown "Other" s.stalls.other),
  ("Fetch Queue Effectiveness:", fetchQueue s.fetchQueue),
  ("Top PC Hotspots:", hotspots s.hotPcs),
  ("Metric Sources (non-summary):", sources s.sources),
  ("Quality Warnings:", warnings s.warnings)]

/-- The lines of a section behind its heading. -/
def body (s : RunSummary) : List String :=
  "" :: (headline s ++ predictor s.predict ++ (blocks s).flatMap Prod.snd)

lemma lines_eq (name : String) (s : RunSummary) : lines name s = ("### " ++ name) :: body s := by
  simp only [lines, body, blocks, List.flatMap_cons, List.flatMap_nil, List.append_nil,
    List.append_assoc, List.cons_append, List.nil_append]

/-- The lines behind the heading are plain if the labels are. -/
lemma plainLines_body {s : RunSummary} (hlabels : ∀ label ∈ s.stalls.labels, Plain label) :
    PlainLines (body s) := by
  have hdetail : ∀ d ∈ [s.stalls.frontendEmpty, s.stalls.decodeBlocked, s.stalls.robBackpressure,
      s.stalls.other], ∀ label ∈ d.detail.keys, Plain label := fun d hd label hlabel =>
    hlabels label (List.mem_flatMap.mpr ⟨d, hd, hlabel⟩)
  simp only [body, blocks, List.flatMap_cons, List.flatMap_nil, List.append_nil, plainLines_cons,
    plainLines_append, plainLines_headline, plainLines_predictor, plainLines_widths,
    plainLines_stalls, plainLines_fetchQueue, plainLines_hotspots, plainLines_sources,
    plainLines_warnings, true_and, and_true]
  refine ⟨plain_ofList rfl, ?_, ?_, ?_, ?_⟩
  · exact plainLines_breakdown (plain_ofList rfl) (hdetail _ (by simp))
  · exact plainLines_breakdown (plain_ofList rfl) (hdetail _ (by simp))
  · exact plainLines_breakdown (plain_ofList rfl) (hdetail _ (by simp))
  · exact plainLines_breakdown (plain_ofList rfl) (hdetail _ (by simp))

/-- A section has no braces if its name has none and its labels are plain. -/
lemma braceFree_render {name : String} (hname : BraceFree name) {s : RunSummary}
    (hlabels : ∀ label ∈ s.stalls.labels, Plain label) : BraceFree (render name s) := by
  rw [render, lines_eq]
  refine braceFree_intercalate (braceFree_ofList rfl) (List.forall_mem_cons.mpr ⟨?_, ?_⟩)
  · exact braceFree_append.mpr ⟨braceFree_ofList rfl, hname⟩
  · exact fun line hline => (plainLines_body hlabels line hline).braceFree

end Section

end PipelineProfile
