import Mathlib.Data.List.Basic
import PipelineProfile.Trace

/-!
# Traces by kind of line

A profile is a function of the events of a trace, but what is known about a trace in advance is
usually known about its lines: which tags occur, which line of a kind comes last, how many lines
of a kind there are.  This module leads from the one to the other.

`LineKind` is the kind of a line: one of the four plain ones or a tag.  `linesOf` are the lines of
one kind and `factsOf` the facts behind one tag.  An event is of the kind of the line it is read
from (`kind_of_ofText?`), and every line of a kind becomes an event, but for commit lines with a
fact missing (`isSome_ofText?`).

A view of events that shows exactly one kind (`Event.Shows`) therefore sees of a trace only the
lines of that kind (`filterMap_ofLines`), its last event is the last of those lines
(`last?_ofLines`), and what it shows of a tag is read from the facts behind the tag
(`filterMap_ofLines_tagged`).
-/

namespace PipelineProfile

/-! ## Kinds of lines -/

/-- The kinds of lines that say something. -/
inductive LineKind where
  | runStats
  | timeout
  | selfTime
  | hostTime
  | tagged (tag : Tag)
  deriving DecidableEq, Repr

/-- The kind of a line, if it says something. -/
def Line.kind? : Line → Option LineKind
  | .runStats _ => some .runStats
  | .timeout _ => some .timeout
  | .selfTime _ => some .selfTime
  | .hostTime _ => some .hostTime
  | .tagged tag _ => some (.tagged tag)
  | .untagged => none

/-- The facts of a line with the given tag. -/
def Line.facts? (tag : Tag) : Line → Option Facts
  | .tagged t f => if t = tag then some f else none
  | _ => none

/-- The line says what one of the readers finds in the text. -/
def Line.IsFound (s : List Char) : Line → Prop
  | .runStats stats => Text.firstMatch runStats? s = some stats
  | .timeout cycles => Text.firstMatch timeout? s = some cycles
  | .selfTime ms => Text.firstMatch selfTime? s = some ms
  | .hostTime us => Text.firstMatch hostTime? s = some us
  | .tagged tag f => ∃ rest, Tag.find? s = some (tag, rest) ∧ Facts.read rest = f
  | .untagged => Tag.find? s = none

lemma Line.isFound_read (text : String) : (read text).IsFound text.toList := by
  unfold read
  dsimp only
  split
  · assumption
  · split
    · assumption
    · split
      · assumption
      · split
        · assumption
        · split
          · next rest hfind => exact ⟨rest, hfind, rfl⟩
          · assumption

namespace LineKind

/-- Whether a text is a line of the kind. -/
def matchesText (k : LineKind) (text : String) : Bool := (Line.read text).kind? = some k

/-- Whether lines of the kind report one event each.  Of every other kind the last line counts. -/
def isEvent : LineKind → Bool
  | .tagged .flush | .tagged .flushPenalty | .tagged .branchResolve | .tagged .commit
  | .tagged .stall => true
  | _ => false

lemma ne_commit {k : LineKind} (hk : k.isEvent = false) : k ≠ .tagged .commit := by
  rintro rfl
  cases hk

end LineKind

/-- The lines of one kind. -/
def linesOf (k : LineKind) (lines : List String) : List String := lines.filter k.matchesText

/-- The facts on the lines with one tag. -/
def factsOf (tag : Tag) (lines : List String) : List Facts :=
  lines.filterMap fun text => (Line.read text).facts? tag

lemma Line.facts?_eq_some_iff {tag : Tag} {l : Line} {f : Facts} :
    l.facts? tag = some f ↔ l = .tagged tag f := by
  cases l with
  | tagged t g =>
    by_cases h : t = tag
    · simp [Line.facts?, h]
    · simp [Line.facts?, h]
  | _ => simp [Line.facts?]

lemma Line.isSome_facts?_iff {tag : Tag} {l : Line} :
    (l.facts? tag).isSome = true ↔ l.kind? = some (.tagged tag) := by
  cases l with
  | tagged t g =>
    by_cases h : t = tag
    · simp [Line.facts?, Line.kind?, h]
    · simp [Line.facts?, Line.kind?, h]
  | _ => simp [Line.facts?, Line.kind?]

lemma mem_linesOf {k : LineKind} {lines : List String} {text : String} :
    text ∈ linesOf k lines ↔ text ∈ lines ∧ (Line.read text).kind? = some k := by
  simp [linesOf, LineKind.matchesText]

/-- The lines of a kind, once the kinds of all lines are known. -/
lemma linesOf_eq_of_kinds {lines : List String} {kinds : List (Option LineKind)}
    (h : lines.map (fun text => (Line.read text).kind?) = kinds) (k : LineKind) :
    linesOf k lines = ((lines.zip kinds).filter fun p => p.2 = some k).map Prod.fst := by
  subst h
  induction lines with
  | nil => rfl
  | cons text lines ih =>
    by_cases hk : (Line.read text).kind? = some k
    · simpa [linesOf, LineKind.matchesText, hk] using ih
    · simpa [linesOf, LineKind.matchesText, hk] using ih

lemma mem_factsOf {tag : Tag} {lines : List String} {f : Facts} :
    f ∈ factsOf tag lines ↔ ∃ text ∈ lines, Line.read text = .tagged tag f := by
  simp only [factsOf, List.mem_filterMap, Line.facts?_eq_some_iff]

/-- The facts behind a tag are those on the lines with the tag. -/
lemma factsOf_linesOf (tag : Tag) (lines : List String) :
    factsOf tag (linesOf (.tagged tag) lines) = factsOf tag lines := by
  unfold factsOf linesOf
  rw [List.filterMap_filter]
  refine List.filterMap_congr fun text _ => ?_
  by_cases h : (Line.read text).kind? = some (.tagged tag)
  · simp [LineKind.matchesText, h]
  · have hnone : (Line.read text).facts? tag = none := by
      rw [← Option.not_isSome_iff_eq_none, Line.isSome_facts?_iff]
      exact h
    simp [LineKind.matchesText, h, hnone]

/-- Every line with a tag has facts of its own. -/
lemma length_factsOf (tag : Tag) (lines : List String) :
    (factsOf tag lines).length = (linesOf (.tagged tag) lines).length := by
  rw [factsOf, List.length_filterMap_eq_countP, linesOf, ← List.countP_eq_length_filter]
  refine List.countP_congr fun text _ => ?_
  rw [Line.isSome_facts?_iff, LineKind.matchesText, decide_eq_true_eq]

lemma factsOf_eq_nil_iff {tag : Tag} {lines : List String} :
    factsOf tag lines = [] ↔ linesOf (.tagged tag) lines = [] := by
  rw [← List.length_eq_zero_iff, length_factsOf, List.length_eq_zero_iff]

/-! ## Kinds of events -/

namespace Event

/-- The event that a text reports. -/
def ofText? (text : String) : Option Event := ofLine? (Line.read text)

/-- The kind of line that reports the event. -/
def kind : Event → LineKind
  | runStats _ => .runStats
  | timeout _ => .timeout
  | selfTime _ => .selfTime
  | hostTime _ => .hostTime
  | flush _ => .tagged .flush
  | flushPenalty _ => .tagged .flushPenalty
  | branchResolve => .tagged .branchResolve
  | predictor _ => .tagged .predictor
  | commit _ => .tagged .commit
  | stall _ => .tagged .stall
  | commitSummary _ => .tagged .commitSummary
  | controlSummary _ => .tagged .controlSummary
  | hotPcs _ => .tagged .hotPcSummary
  | hotInsts _ => .tagged .hotInstSummary
  | stallSummary _ => .tagged .stallSummary
  | frontendEmptySummary _ => .tagged .frontendEmptySummary
  | decodeBlockedSummary _ => .tagged .decodeBlockedSummary
  | robBackpressureSummary _ => .tagged .robBackpressureSummary
  | otherSummary _ => .tagged .otherSummary
  | otherAuxSummary _ => .tagged .otherAuxSummary
  | fetchQueueSummary _ => .tagged .fetchQueueSummary
  | flushSummary _ => .tagged .flushSummary

lemma kind_of_ofTagged? {tag : Tag} {f : Facts} {e : Event} (h : ofTagged? tag f = some e) :
    e.kind = .tagged tag := by
  cases tag with
  | commit =>
    obtain ⟨c, -, rfl⟩ := Option.map_eq_some_iff.mp h
    rfl
  | _ =>
    obtain rfl := Option.some.inj h
    rfl

/-- An event is of the kind of its line. -/
lemma kind_of_ofText? {text : String} {e : Event} (h : ofText? text = some e) :
    (Line.read text).kind? = some e.kind := by
  unfold ofText? at h
  cases hl : Line.read text with
  | tagged tag f =>
    rw [hl] at h
    rw [kind_of_ofTagged? h, Line.kind?]
  | untagged =>
    rw [hl] at h
    cases h
  | _ =>
    rw [hl] at h
    obtain rfl := Option.some.inj h
    rfl

/-- Every line that says something is an event, but for commit lines. -/
lemma isSome_ofText? {text : String} {k : LineKind} (hk : k ≠ .tagged .commit)
    (h : (Line.read text).kind? = some k) : (ofText? text).isSome = true := by
  unfold ofText?
  cases hl : Line.read text with
  | tagged tag f =>
    rw [hl] at h
    obtain rfl := Option.some.inj h
    cases tag with
    | commit => exact absurd rfl hk
    | _ => rfl
  | untagged =>
    rw [hl] at h
    cases h
  | _ => rfl

/-! ## Views of events -/

/-- The view shows the events of one kind, and no others. -/
def Shows {α : Type} (view : Event → Option α) (k : LineKind) : Prop :=
  ∀ e : Event, (view e).isSome = decide (e.kind = k)

lemma Shows.eq_none {α : Type} {view : Event → Option α} {k : LineKind} (h : Shows view k)
    {e : Event} (hne : e.kind ≠ k) : view e = none := by
  simpa [hne] using h e

section Views

lemma shows_runStats? : Shows runStats? .runStats := by intro e; cases e <;> rfl

lemma shows_timeout? : Shows timeout? .timeout := by intro e; cases e <;> rfl

lemma shows_selfTime? : Shows selfTime? .selfTime := by intro e; cases e <;> rfl

lemma shows_hostTime? : Shows hostTime? .hostTime := by intro e; cases e <;> rfl

lemma shows_flush? : Shows flush? (.tagged .flush) := by intro e; cases e <;> rfl

lemma shows_flushPenalty? : Shows flushPenalty? (.tagged .flushPenalty) := by
  intro e; cases e <;> rfl

lemma shows_predictor? : Shows predictor? (.tagged .predictor) := by intro e; cases e <;> rfl

lemma shows_commit? : Shows commit? (.tagged .commit) := by intro e; cases e <;> rfl

lemma shows_stall? : Shows stall? (.tagged .stall) := by intro e; cases e <;> rfl

lemma shows_commitSummary? : Shows commitSummary? (.tagged .commitSummary) := by
  intro e; cases e <;> rfl

lemma shows_controlSummary? : Shows controlSummary? (.tagged .controlSummary) := by
  intro e; cases e <;> rfl

lemma shows_hotPcs? : Shows hotPcs? (.tagged .hotPcSummary) := by intro e; cases e <;> rfl

lemma shows_hotInsts? : Shows hotInsts? (.tagged .hotInstSummary) := by intro e; cases e <;> rfl

lemma shows_stallSummary? : Shows stallSummary? (.tagged .stallSummary) := by
  intro e; cases e <;> rfl

lemma shows_frontendEmptySummary? :
    Shows frontendEmptySummary? (.tagged .frontendEmptySummary) := by
  intro e; cases e <;> rfl

lemma shows_decodeBlockedSummary? :
    Shows decodeBlockedSummary? (.tagged .decodeBlockedSummary) := by
  intro e; cases e <;> rfl

lemma shows_robBackpressureSummary? :
    Shows robBackpressureSummary? (.tagged .robBackpressureSummary) := by
  intro e; cases e <;> rfl

lemma shows_otherSummary? : Shows otherSummary? (.tagged .otherSummary) := by
  intro e; cases e <;> rfl

lemma shows_otherAuxSummary? : Shows otherAuxSummary? (.tagged .otherAuxSummary) := by
  intro e; cases e <;> rfl

lemma shows_fetchQueueSummary? : Shows fetchQueueSummary? (.tagged .fetchQueueSummary) := by
  intro e; cases e <;> rfl

lemma shows_flushSummary? : Shows flushSummary? (.tagged .flushSummary) := by
  intro e; cases e <;> rfl

end Views

/-- What a view shows of a line with a tag is read from the facts behind the tag. -/
lemma bind_ofText?_tagged {α : Type} {view : Event → Option α} {tag : Tag}
    (h : Shows view (.tagged tag)) (text : String) :
    (ofText? text).bind view =
      ((Line.read text).facts? tag).bind fun f => (ofTagged? tag f).bind view := by
  cases hf : (Line.read text).facts? tag with
  | some f =>
    rw [ofText?, Line.facts?_eq_some_iff.mp hf]
    rfl
  | none =>
    rw [Option.bind_none, Option.bind_eq_none_iff]
    intro e he
    refine h.eq_none fun hkind => ?_
    have hsome := Line.isSome_facts?_iff.mpr (hkind ▸ kind_of_ofText? he)
    rw [hf] at hsome
    cases hsome

end Event

/-! ## Traces -/

namespace Trace

lemma ofLines_eq (lines : List String) : ofLines lines = lines.filterMap Event.ofText? := rfl

/-- A view of a trace sees only the lines of the kind it shows. -/
lemma filterMap_ofLines {α : Type} {view : Event → Option α} {k : LineKind}
    (h : Event.Shows view k) (lines : List String) :
    (ofLines lines).filterMap view =
      (linesOf k lines).filterMap fun text => (Event.ofText? text).bind view := by
  rw [ofLines_eq, List.filterMap_filterMap, linesOf, List.filterMap_filter]
  refine List.filterMap_congr fun text _ => ?_
  by_cases hk : (Line.read text).kind? = some k
  · simp [LineKind.matchesText, hk]
  · have hnone : (Event.ofText? text).bind view = none := by
      rw [Option.bind_eq_none_iff]
      intro e he
      exact h.eq_none fun heq => hk (by rw [Event.kind_of_ofText? he, heq])
    simp [LineKind.matchesText, hk, hnone]

/-- What a view shows of a tag is read from the facts behind the tag. -/
lemma filterMap_ofLines_tagged {α : Type} {view : Event → Option α} {tag : Tag}
    (h : Event.Shows view (.tagged tag)) (lines : List String) :
    (ofLines lines).filterMap view =
      (factsOf tag lines).filterMap fun f => (Event.ofTagged? tag f).bind view := by
  rw [ofLines_eq, List.filterMap_filterMap, factsOf, List.filterMap_filterMap]
  exact List.filterMap_congr fun text _ => Event.bind_ofText?_tagged h text

/-- If the facts behind a tag always become an event, all of them show. -/
lemma filterMap_ofLines_map {α : Type} {view : Event → Option α} {tag : Tag}
    (h : Event.Shows view (.tagged tag)) {ofFacts : Facts → α}
    (hview : ∀ f, (Event.ofTagged? tag f).bind view = some (ofFacts f)) (lines : List String) :
    (ofLines lines).filterMap view = (factsOf tag lines).map ofFacts := by
  rw [filterMap_ofLines_tagged h, ← List.filterMap_eq_map]
  exact List.filterMap_congr fun f _ => hview f

/-- Counting what a partial function keeps of a list. -/
lemma countP_filterMap_eq {α β : Type} (f : α → Option β) (p : β → Bool) (l : List α) :
    (l.filterMap f).countP p = l.countP fun a => (f a).any p := by
  rw [List.countP_filterMap]
  refine List.countP_congr fun a _ => ?_
  cases f a <;> simp

lemma commits_ofLines (lines : List String) :
    (ofLines lines).commits = (factsOf .commit lines).filterMap Commit.ofFacts? := by
  rw [commits, filterMap_ofLines_tagged Event.shows_commit?]
  refine List.filterMap_congr fun f _ => ?_
  rw [Event.ofTagged?, Option.bind_map]
  exact Option.bind_fun_some _

/-- What is read from the facts of an instruction is read from the commit lines. -/
lemma map_commits_ofLines {α : Type} {view : Commit → α} {field? : Facts → Option α}
    (h : ∀ f, (Commit.ofFacts? f).map view = field? f) (lines : List String) :
    (ofLines lines).commits.map view =
      lines.filterMap fun text => ((Line.read text).facts? .commit).bind field? := by
  rw [commits_ofLines, List.map_filterMap, factsOf, List.filterMap_filterMap]
  simp only [h]

lemma flushes_ofLines (lines : List String) :
    (ofLines lines).flushes = (factsOf .flush lines).map Flush.ofFacts :=
  filterMap_ofLines_map Event.shows_flush? (fun _ => rfl) lines

lemma penalties_ofLines (lines : List String) :
    (ofLines lines).penalties = (factsOf .flushPenalty lines).map FlushPenalty.ofFacts :=
  filterMap_ofLines_map Event.shows_flushPenalty? (fun _ => rfl) lines

lemma stalls_ofLines (lines : List String) :
    (ofLines lines).stalls = (factsOf .stall lines).map StallSample.ofFacts :=
  filterMap_ofLines_map Event.shows_stall? (fun _ => rfl) lines

/-! ## One event for each line -/

lemma isSome_bind_view {α : Type} {view : Event → Option α} {k : LineKind}
    (h : Event.Shows view k) (hk : k ≠ .tagged .commit) {text : String}
    (htext : (Line.read text).kind? = some k) :
    ((Event.ofText? text).bind view).isSome = true := by
  obtain ⟨e, he⟩ := Option.isSome_iff_exists.mp (Event.isSome_ofText? hk htext)
  have hkind : e.kind = k := Option.some.inj ((Event.kind_of_ofText? he).symm.trans htext)
  rw [he, Option.bind_some, h e, decide_eq_true_eq]
  exact hkind

/-- There are as many events of a kind as lines of the kind. -/
lemma length_filterMap_ofLines {α : Type} {view : Event → Option α} {k : LineKind}
    (h : Event.Shows view k) (hk : k ≠ .tagged .commit) (lines : List String) :
    ((ofLines lines).filterMap view).length = (linesOf k lines).length := by
  rw [filterMap_ofLines h, List.length_filterMap_eq_countP, List.countP_eq_length]
  intro text htext
  exact isSome_bind_view h hk (mem_linesOf.mp htext).2

/-- Resolved branches have nothing to show but that they are there. -/
lemma countP_isBranchResolve_ofLines (lines : List String) :
    (ofLines lines).countP Event.isBranchResolve =
      (linesOf (.tagged .branchResolve) lines).length := by
  have hshows : Event.Shows (fun e => if e.isBranchResolve then some () else none)
      (.tagged .branchResolve) := by
    intro e
    cases e <;> rfl
  rw [← length_filterMap_ofLines hshows (by decide), List.length_filterMap_eq_countP]
  refine List.countP_congr fun e _ => ?_
  by_cases he : e.isBranchResolve = true
  · simp [he]
  · simp [he]

/-! ## The last line of a kind -/

lemma getLast?_filterMap_of_isSome {α β : Type} {f : α → Option β} {l : List α}
    (h : ∀ a ∈ l, (f a).isSome = true) : (l.filterMap f).getLast? = l.getLast?.bind f := by
  rcases List.eq_nil_or_concat l with rfl | ⟨l, a, rfl⟩
  · rfl
  · obtain ⟨b, hb⟩ := Option.isSome_iff_exists.mp (h a (by simp))
    simp [List.filterMap_append, hb]

/-- The last event of a kind is the one on the last line of the kind. -/
lemma last?_ofLines {α : Type} {view : Event → Option α} {k : LineKind}
    (h : Event.Shows view k) (hk : k ≠ .tagged .commit) (lines : List String) :
    (ofLines lines).last? view =
      (linesOf k lines).getLast?.bind fun text => (Event.ofText? text).bind view := by
  rw [last?, filterMap_ofLines h, getLast?_filterMap_of_isSome]
  intro text htext
  exact isSome_bind_view h hk (mem_linesOf.mp htext).2

/-- The last event of a tag is read from the last facts behind the tag. -/
lemma last?_ofLines_tagged {α : Type} {view : Event → Option α} {tag : Tag}
    (h : Event.Shows view (.tagged tag)) (htag : tag ≠ .commit) (lines : List String) :
    (ofLines lines).last? view =
      (factsOf tag lines).getLast?.bind fun f => (Event.ofTagged? tag f).bind view := by
  rw [last?, filterMap_ofLines_tagged h, getLast?_filterMap_of_isSome]
  intro f hf
  obtain ⟨text, -, hread⟩ := mem_factsOf.mp hf
  have hkind : (Line.read text).kind? = some (.tagged tag) := by rw [hread, Line.kind?]
  have hsome := isSome_bind_view h (fun heq => htag (LineKind.tagged.inj heq)) hkind
  rwa [Event.bind_ofText?_tagged h, Line.facts?_eq_some_iff.mpr hread, Option.bind_some] at hsome

/-- Traces with the same last line of a kind that totals a run have the same last event of the
kind. -/
lemma last?_ofLines_congr {α : Type} {view : Event → Option α} {k : LineKind}
    (h : Event.Shows view k) (hk : k.isEvent = false) {A B : List String}
    (hlast : (linesOf k A).getLast? = (linesOf k B).getLast?) :
    (ofLines A).last? view = (ofLines B).last? view := by
  rw [last?_ofLines h (LineKind.ne_commit hk), last?_ofLines h (LineKind.ne_commit hk), hlast]

/-- There is an event of a kind as soon as there is a line of the kind. -/
lemma last?_ofLines_eq_none_iff {α : Type} {view : Event → Option α} {k : LineKind}
    (h : Event.Shows view k) (hk : k ≠ .tagged .commit) (lines : List String) :
    (ofLines lines).last? view = none ↔ linesOf k lines = [] := by
  rw [last?_ofLines h hk]
  constructor
  · intro hnone
    by_contra hne
    have hlast := List.getLast?_eq_some_getLast hne
    have hkind := (mem_linesOf.mp (List.getLast_mem hne)).2
    rw [hlast, Option.bind_some] at hnone
    have hsome := isSome_bind_view h hk hkind
    rw [hnone] at hsome
    cases hsome
  · intro hnil
    rw [hnil]
    rfl

/-- Without lines of a kind that totals a run there is no event of the kind. -/
lemma last?_ofLines_eq_none {α : Type} {view : Event → Option α} {k : LineKind}
    (h : Event.Shows view k) (hk : k.isEvent = false) {lines : List String}
    (hnone : linesOf k lines = []) : (ofLines lines).last? view = none :=
  (last?_ofLines_eq_none_iff h (LineKind.ne_commit hk) lines).mpr hnone

end Trace

end PipelineProfile
