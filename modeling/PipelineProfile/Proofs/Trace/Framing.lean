import PipelineProfile.Proofs.Line.Context
import PipelineProfile.Proofs.Line.Returns
import PipelineProfile.Proofs.Text.Lines
import PipelineProfile.Proofs.Trace.LineKind
import PipelineProfile.Summary

/-!
# How the lines of a file end

A list of texts is written to a file with an ending behind each of them, which is a line feed or a
carriage return and a line feed; the last one may have none (`Text.Frames`).  Reading the file does
not give the texts back: a text may itself end in carriage returns, which are lost with the ending,
and an empty text without an ending is not there at all.

It gives a trace with the same events, though.  The bytes are cut where the texts were put together,
since no text has a line feed in it, and each piece is decoded to the text it was written from, up
to carriage returns at the end (`lines_append_newline`, `exists_eq_stripLineEnd_append`).  These
have no influence on the event of a line (`ignoresReturns_ofText?`): neither the readers of the
plain lines nor the search for the tag notice them, and of the facts only the last span does, of
which nothing but the letters counts.  The main result is `ofBytes_eq_ofLines`.
-/

namespace PipelineProfile

namespace Text

open Utf8

/-! ## Files -/

/-- The byte of a carriage return. -/
def carriageReturn : UInt8 := 0x0D

/-- The bytes are those of the texts, each with one of the two line endings behind it, and the last
one with an ending or without. -/
inductive Frames : List String → List UInt8 → Prop where
  | nil : Frames [] []
  | last (text : String) : Frames [text] (encode text)
  | feed (text : String) {texts : List String} {bytes : List UInt8} (h : Frames texts bytes) :
    Frames (text :: texts) (encode text ++ newline :: bytes)
  | returnFeed (text : String) {texts : List String} {bytes : List UInt8} (h : Frames texts bytes) :
    Frames (text :: texts) (encode text ++ carriageReturn :: newline :: bytes)

/-! ## Decoding a line -/

lemma decode_encode (text : String) : decode (encode text) = text.toList := by
  have h := decodeFrom_encode text []
  rw [List.append_nil] at h
  rw [decode, h]
  exact List.append_nil _

lemma decode_encode_return (text : String) :
    decode (encode text ++ [carriageReturn]) = text.toList ++ ['\r'] := by
  rw [decode, decodeFrom_encode]
  rfl

lemma stripLineEnd_append_return (s : List Char) : stripLineEnd (s ++ ['\r']) = stripLineEnd s := by
  rw [stripLineEnd, List.reverse_append, List.reverse_singleton, List.singleton_append,
    List.dropWhile_cons_of_pos (by decide), stripLineEnd]

/-- Without line feeds a line loses nothing but carriage returns. -/
lemma exists_eq_stripLineEnd_append {s : List Char} (h : '\n' ∉ s) :
    ∃ n, s = stripLineEnd s ++ returns n := by
  refine ⟨(s.rtakeWhile fun c => c = '\r').length, ?_⟩
  have hreturns : (s.rtakeWhile fun c => c = '\r') =
      returns (s.rtakeWhile fun c => c = '\r').length := by
    refine List.eq_replicate_iff.mpr ⟨rfl, fun c hc => ?_⟩
    have hreturn := List.mem_rtakeWhile_imp hc
    exact of_decide_eq_true hreturn
  rw [← hreturns, stripLineEnd_eq_rdropWhile h, List.rdropWhile_append_rtakeWhile]

end Text

open Text Utf8

/-! ## The event of a line -/

/-- No event depends on carriage returns at the end of its line. -/
lemma Event.ignoresReturns_ofText? : IgnoresReturns fun s => ofText? (String.ofList s) := by
  intro s n
  have hstats := Line.ignoresReturns_runStats?.firstMatch s n
  have htimeout := Line.ignoresReturns_timeout?.firstMatch s n
  have hself := Line.ignoresReturns_selfTime?.firstMatch s n
  have hhost := Line.ignoresReturns_hostTime?.firstMatch s n
  have htag : ((Tag.find? (s ++ returns n)).map fun x => ofTagged? x.1 (Facts.read x.2)) =
      (Tag.find? s).map fun x => ofTagged? x.1 (Facts.read x.2) :=
    Tag.ignoresReturns_find?
      (fun t r _ => ofTagged?_read_append_blanks t r fun _ hc => isBlank_of_mem_returns hc) s n
  simp only [ofText?, Line.read, String.toList_ofList, hstats, htimeout, hself, hhost]
  cases firstMatch Line.runStats? s with
  | some stats => rfl
  | none =>
    cases firstMatch Line.timeout? s with
    | some cycles => rfl
    | none =>
      cases firstMatch Line.selfTime? s with
      | some ms => rfl
      | none =>
        cases firstMatch Line.hostTime? s with
        | some us => rfl
        | none =>
          -- What is left is what stands behind the tag.
          cases hfind : Tag.find? s with
          | none =>
            rw [hfind, Option.map_none, Option.map_eq_none_iff] at htag
            rw [htag]
          | some x =>
            rw [hfind, Option.map_some, Option.map_eq_some_iff] at htag
            obtain ⟨y, hy, hevent⟩ := htag
            rw [hy]
            exact hevent

/-- A text without line feeds and the line that is read where it was written give the same event. -/
lemma Event.ofText?_stripLineEnd {text : String} (h : '\n' ∉ text.toList) :
    ofText? (String.ofList (stripLineEnd text.toList)) = ofText? text := by
  obtain ⟨n, hn⟩ := exists_eq_stripLineEnd_append h
  have hevent : ofText? (String.ofList (stripLineEnd text.toList ++ returns n)) =
      ofText? (String.ofList (stripLineEnd text.toList)) := ignoresReturns_ofText? _ n
  rw [← hevent, ← hn, String.ofList_toList]

namespace Trace

lemma ofLines_cons_congr {text text' : String} {texts texts' : List String}
    (htext : Event.ofText? text = Event.ofText? text') (htexts : ofLines texts = ofLines texts') :
    ofLines (text :: texts) = ofLines (text' :: texts') := by
  simp only [ofLines_eq] at htexts ⊢
  rw [List.filterMap_cons, List.filterMap_cons, htext, htexts]

/-- The lines of a file give the same trace as the texts that were written to it. -/
lemma ofLines_lines {texts : List String} {bytes : List UInt8} (h : Frames texts bytes)
    (hno : ∀ text ∈ texts, '\n' ∉ text.toList) : ofLines (lines bytes) = ofLines texts := by
  induction h with
  | nil => rfl
  | last text =>
    have htext : '\n' ∉ text.toList := hno text (List.mem_cons_self ..)
    rw [lines, splitLines_of_not_mem (newline_not_mem_encode htext)]
    split
    · -- An empty last line is not there, but would have no event either.
      next hempty =>
      have hdecode := decode_encode text
      rw [hempty] at hdecode
      obtain rfl : text = "" := String.toList_inj.mp hdecode.symm
      rfl
    · rw [List.map_singleton, decode_encode]
      exact ofLines_cons_congr (Event.ofText?_stripLineEnd htext) rfl
  | feed text h ih =>
    have htext : '\n' ∉ text.toList := hno text (List.mem_cons_self ..)
    rw [lines_append_newline (newline_not_mem_encode htext), decode_encode]
    exact ofLines_cons_congr (Event.ofText?_stripLineEnd htext)
      (ih fun t ht => hno t (List.mem_cons_of_mem _ ht))
  | returnFeed text h ih =>
    have htext : '\n' ∉ text.toList := hno text (List.mem_cons_self ..)
    have hline : newline ∉ encode text ++ [carriageReturn] := by
      rw [List.mem_append, not_or]
      exact ⟨newline_not_mem_encode htext, by decide⟩
    rw [List.append_cons, lines_append_newline hline, decode_encode_return,
      stripLineEnd_append_return]
    exact ofLines_cons_congr (Event.ofText?_stripLineEnd htext)
      (ih fun t ht => hno t (List.mem_cons_of_mem _ ht))

end Trace

namespace RunSummary

/-- **Line endings do not change the result.**  If no text has a line feed in it, then however the
texts are written to a file, with line feeds or with carriage returns and line feeds, with an ending
behind the last text or without, the summary of the file is the summary of the texts.  The texts may
be empty or end in carriage returns themselves. -/
theorem ofBytes_eq_ofLines (config : Config) (path : String) {texts : List String}
    {bytes : List UInt8} (hframes : Frames texts bytes)
    (hno : ∀ text ∈ texts, '\n' ∉ text.toList) :
    ofBytes config path bytes = ofLines config path texts := by
  have htrace : Trace.ofLines (Text.lines bytes) = Trace.ofLines texts :=
    Trace.ofLines_lines hframes hno
  rw [ofBytes, ofLines, ofLines, htrace]

/-! ### One log with both endings -/

/-- A log with a carriage return in it, an empty line and a last line. -/
def framedLog : List String := ["[flush ] cycle=1 reason=exception\r", "", "[bru   ] cycle=2"]

/-- The log as a file, with a different ending behind each of its lines. -/
def framedBytes : List UInt8 :=
  encode "[flush ] cycle=1 reason=exception\r" ++ carriageReturn :: newline ::
    (encode "" ++ newline :: encode "[bru   ] cycle=2")

/-- The file shows the flush and the branch of the log. -/
theorem ofBytes_framedBytes :
    Frames framedLog framedBytes ∧ (∀ text ∈ framedLog, '\n' ∉ text.toList) ∧
      (ofBytes {} "run.log" framedBytes).flushes.byReason .exception = 1 ∧
      (ofBytes {} "run.log" framedBytes).branchResolves = 1 := by
  have hframes : Frames framedLog framedBytes := .returnFeed _ (.feed _ (.last _))
  have hno : ∀ text ∈ framedLog, '\n' ∉ text.toList := by decide
  rw [ofBytes_eq_ofLines {} "run.log" hframes hno]
  exact ⟨hframes, hno, by decide, by decide⟩

end RunSummary

end PipelineProfile
