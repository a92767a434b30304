import PipelineProfile.Proofs.Report.Pieces
import PipelineProfile.Proofs.Report.Sections
import PipelineProfile.Report

/-!
# Reports are filled templates

A report is its template with every placeholder replaced by its value, all at once
(`render_pieces`).  This is so although the placeholders are replaced one after the other, because
no value has braces.  A trace may have braces anywhere, but what a summary takes from it are numbers
and labels, and labels are made of the characters of keys (`RunSummary.IsScanned`).
-/

namespace PipelineProfile

open Text Template

/-! ## Summaries of traces -/

namespace RunSummary

/-- The summary is that of a trace under a path without braces. -/
def IsScanned (s : RunSummary) : Prop :=
  ∃ config path lines, BraceFree path ∧ s = ofLines config path lines

variable {s : RunSummary}

lemma IsScanned.braceFree_logPath (h : s.IsScanned) : BraceFree s.logPath := by
  obtain ⟨config, path, lines, hpath, rfl⟩ := h
  exact hpath

lemma IsScanned.plain_labels (h : s.IsScanned) : ∀ label ∈ s.stalls.labels, Plain label := by
  obtain ⟨config, path, lines, -, rfl⟩ := h
  exact fun label hlabel => (isLabel_of_mem_labels hlabel).plain

end RunSummary

namespace Report

/-! ## The values -/

/-- The summaries that a report shows, with their names and in their order. -/
def shown (summaries : String → Option RunSummary) : List (String × RunSummary) :=
  ["dhrystone", "coremark", "coremark_sample"].filterMap fun name =>
    (summaries name).map fun s => (name, s)

/-- The directory above the log of the first summary. -/
def shownDir : List (String × RunSummary) → String
  | [] => "N/A"
  | e :: _ =>
    match Path.parent? e.2.logPath with
    | some dir => dir
    | none => "N/A"

/-- The sections of the summaries, with an empty line between each two. -/
def shownSections : List (String × RunSummary) → String
  | [] => "(No benchmark logs found)"
  | e :: es => "\n\n".intercalate ((e :: es).map fun e => Section.render e.1 e.2)

/-- What stands in the place of a placeholder. -/
def shownValue (generatedAt : String) (summaries : String → Option RunSummary) :
    Placeholder → String
  | .generatedAt => generatedAt
  | .profileDir => shownDir (shown summaries)
  | .benchmarkSections => shownSections (shown summaries)

section Values

variable {generatedAt : String} {summaries : String → Option RunSummary}

lemma shown_eq_present (summaries : String → Option RunSummary) : shown summaries =
    (present fun b => summaries b.name).map fun e => (e.1.name, e.2) := by
  have hnames : ["dhrystone", "coremark", "coremark_sample"] = Benchmark.all.map Benchmark.name :=
    rfl
  rw [shown, hnames, List.filterMap_map, present, List.map_filterMap]
  refine List.filterMap_congr fun b _ => ?_
  rw [Function.comp_apply, Option.map_map]
  rfl

lemma profileDir_eq_shownDir (summaries : String → Option RunSummary) :
    (profileDir fun b => summaries b.name) = shownDir (shown summaries) := by
  rw [shown_eq_present, profileDir]
  cases (present fun b => summaries b.name) with
  | nil => rfl
  | cons e es =>
    rw [List.head?_cons, Option.bind_some, List.map_cons, shownDir]
    cases Path.parent? e.2.logPath with
    | none => rfl
    | some dir => rfl

lemma sections_eq_shownSections (summaries : String → Option RunSummary) :
    (sections fun b => summaries b.name) = shownSections (shown summaries) := by
  rw [shown_eq_present]
  unfold sections
  cases (present fun b => summaries b.name) with
  | nil => rfl
  | cons e es =>
    simp only [shownSections, List.map_cons, List.map_map, Function.comp_def]

lemma values_eq_shownValue (generatedAt : String) (summaries : String → Option RunSummary) :
    (values generatedAt fun b => summaries b.name) = shownValue generatedAt summaries := by
  funext p
  cases p with
  | generatedAt => rfl
  | profileDir => exact profileDir_eq_shownDir summaries
  | benchmarkSections => exact sections_eq_shownSections summaries

lemma braceFree_shownDir {entries : List (String × RunSummary)}
    (h : ∀ e ∈ entries, e.2.IsScanned) : BraceFree (shownDir entries) := by
  have hnone : BraceFree "N/A" := braceFree_ofList rfl
  cases entries with
  | nil => exact hnone
  | cons e es =>
    have hpath : BraceFree e.2.logPath := (h e (List.mem_cons_self ..)).braceFree_logPath
    rw [shownDir]
    cases hdir : Path.parent? e.2.logPath with
    | none => exact hnone
    | some dir => exact Path.braceFree_parent? hpath hdir

lemma braceFree_shownSections {entries : List (String × RunSummary)}
    (hname : ∀ e ∈ entries, BraceFree e.1) (h : ∀ e ∈ entries, e.2.IsScanned) :
    BraceFree (shownSections entries) := by
  have hnone : BraceFree "(No benchmark logs found)" := braceFree_ofList rfl
  cases entries with
  | nil => exact hnone
  | cons e es =>
    refine braceFree_intercalate (braceFree_ofList rfl) (List.forall_mem_map.mpr fun e he => ?_)
    exact Section.braceFree_render (hname e he) (h e he).plain_labels

/-- No value has braces. -/
lemma braceFree_shownValue (hscanned : ∀ name s, summaries name = some s → s.IsScanned)
    (hgenerated : BraceFree generatedAt) (p : Placeholder) :
    BraceFree (shownValue generatedAt summaries p) := by
  have hnames : ∀ name ∈ ["dhrystone", "coremark", "coremark_sample"], BraceFree name := by
    simp only [List.forall_mem_cons]
    exact ⟨braceFree_ofList rfl, braceFree_ofList rfl, braceFree_ofList rfl, fun _ h => nomatch h⟩
  have hshown : ∀ e ∈ shown summaries, BraceFree e.1 ∧ e.2.IsScanned := by
    intro e he
    obtain ⟨name, hname, hsome⟩ := List.mem_filterMap.mp he
    obtain ⟨s, hs, rfl⟩ := Option.map_eq_some_iff.mp hsome
    exact ⟨hnames name hname, hscanned name s hs⟩
  cases p with
  | generatedAt => exact hgenerated
  | profileDir => exact braceFree_shownDir fun e he => (hshown e he).2
  | benchmarkSections =>
    exact braceFree_shownSections (fun e he => (hshown e he).1) fun e he => (hshown e he).2

end Values

/-! ## The report -/

/-- **A report is its template with the placeholders filled.**  Every placeholder of a template
stands for its value, and what stands between the placeholders is left alone.  A report has no
braces, whatever the traces hold. -/
theorem render_pieces (pieces : List Piece) {generatedAt : String}
    {summaries : String → Option RunSummary} (hgenerated : BraceFree generatedAt)
    (hscanned : ∀ name s, summaries name = some s → s.IsScanned) :
    render (String.join (pieces.map Piece.source)) generatedAt (fun b => summaries b.name) =
        String.join (pieces.map (Piece.filled (shownValue generatedAt summaries))) ∧
      BraceFree (render (String.join (pieces.map Piece.source)) generatedAt
        fun b => summaries b.name) := by
  have hvalue := braceFree_shownValue hscanned hgenerated
  have hrender : render (String.join (pieces.map Piece.source)) generatedAt
      (fun b => summaries b.name) =
        String.join (pieces.map (Piece.filled (shownValue generatedAt summaries))) := by
    rw [render, values_eq_shownValue, fill_join hvalue]
  rw [hrender]
  exact ⟨rfl, braceFree_join_filled hvalue pieces⟩

/-! ### A trace with placeholders -/

/-- A log with placeholders and other braces on its lines. -/
def bracesLog : List String := [
  "\x7b\x7bPROFILE_DIR\x7d\x7d [stallm3] decode_blocked_total=2 lsu=\x7b2\x7d a\x7b\x7b=1",
  "[stallm2] \x7b\x7bBENCHMARK_SECTIONS\x7d\x7d=5 frontend_empty_total=5"]

/-- The summary of the log, under the name of a benchmark. -/
def bracesSummaries (name : String) : Option RunSummary :=
  if name = "coremark" then some (RunSummary.ofLines {} "runs/coremark.log" bracesLog) else none

/-- A template with all placeholders, two of them side by side. -/
def bracesPieces : List Piece := [
  .placeholder .generatedAt, .placeholder .profileDir, .literal ": " (by decide),
  .placeholder .benchmarkSections, .literal "\n" (by decide), .placeholder .generatedAt]

/-- The report on the log, in which only the placeholders of the template are filled. -/
theorem render_bracesPieces :
    render
        ("\x7b\x7bGENERATED_AT\x7d\x7d\x7b\x7bPROFILE_DIR\x7d\x7d: " ++
          "\x7b\x7bBENCHMARK_SECTIONS\x7d\x7d\n\x7b\x7bGENERATED_AT\x7d\x7d")
        "noon" (fun b => bracesSummaries b.name) =
      "noon" ++ "runs" ++ ": " ++
        Section.render "coremark" (RunSummary.ofLines {} "runs/coremark.log" bracesLog) ++
        "\n" ++ "noon" := by
  have hscanned : ∀ name s, bracesSummaries name = some s → s.IsScanned := by
    intro name s hs
    unfold bracesSummaries at hs
    split at hs
    · exact ⟨{}, "runs/coremark.log", bracesLog, by decide, (Option.some.inj hs).symm⟩
    · cases hs
  have hreport := (render_pieces bracesPieces (by decide : BraceFree "noon") hscanned).1
  have hsource : String.join (bracesPieces.map Piece.source) =
      "\x7b\x7bGENERATED_AT\x7d\x7d\x7b\x7bPROFILE_DIR\x7d\x7d: " ++
        "\x7b\x7bBENCHMARK_SECTIONS\x7d\x7d\n\x7b\x7bGENERATED_AT\x7d\x7d" := rfl
  have hshown : shown bracesSummaries =
      [("coremark", RunSummary.ofLines {} "runs/coremark.log" bracesLog)] := by
    simp [shown, bracesSummaries]
  have hdir : shownDir (shown bracesSummaries) = "runs" := by decide
  have hsections : shownSections (shown bracesSummaries) =
      Section.render "coremark" (RunSummary.ofLines {} "runs/coremark.log" bracesLog) := by
    rw [hshown, shownSections, List.map_cons, List.map_nil, String.intercalate_singleton]
  rw [hsource] at hreport
  rw [hreport]
  simp only [bracesPieces, List.map_cons, List.map_nil, Piece.filled, shownValue, hdir, hsections,
    String.join_cons, String.join_nil, String.append_empty, String.append_assoc]

end Report

end PipelineProfile
