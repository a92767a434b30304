import PipelineProfile.Proofs.Commit.Widths
import PipelineProfile.Proofs.Line.Written
import PipelineProfile.Proofs.Stall.Divided
import PipelineProfile.Proofs.Summary.Totals

/-!
# What summary lines give back

The simulator keeps finite maps with counts, and writes them on summary lines: the histogram of
commit widths together with the cycles and the instructions of the run, and for some stall
categories the counts of the finer causes together with their total.  `SummaryContent` is what is
written, with its tag and with the keys and the numbers that stand behind the tag, and
`SummaryContent.IsIn` says where a summary of the run has it.

The main result is `content_isIn_ofLines`: what was written last is what the summary has, however it
was written.  The map comes back whole because its keys differ from each other and from the keys
beside it.  For commit widths the keys are numbers that are written behind a common stem, and they
are told apart because a number has only one spelling in decimal (`numberOf?_widthKey`).
-/

namespace PipelineProfile

/-! ## What is written -/

/-- What is written on a summary line. -/
inductive SummaryContent where
  | widths (cycles commits : Nat) (hist : Tally Nat)
  | detail (stall : DividedStall) (d : StallDetail)
  | otherAux (counts : Tally String)

/-- The key under which the count of a width is written. -/
def widthKey (width : Nat) : String := "width" ++ Numeral.decimal width

namespace SummaryContent

/-- The tag of the line. -/
def tag : SummaryContent → Tag
  | widths _ _ _ => .commitSummary
  | detail stall _ => stall.tag
  | otherAux _ => .otherAuxSummary

/-- The keys and the numbers on the line, which may stand there in any order. -/
def keyCounts : SummaryContent → List (String × Nat)
  | widths cycles commits hist =>
    ("cycles", cycles) :: ("commits", commits) :: hist.entries.map fun e => (widthKey e.1, e.2)
  | detail stall d => (stall.totalKey, d.total) :: d.detail.entries
  | otherAux counts => counts.entries

/-- Widths are 32-bit numbers, and labels are not keys that the line needs for something else. -/
def Fits : SummaryContent → Prop
  | widths _ _ hist => ∀ w ∈ hist.keys, w < UInt32.size
  | detail stall d => "mode" ∉ d.detail.keys ∧ stall.totalKey ∉ d.detail.keys
  | otherAux counts => "mode" ∉ counts.keys

/-- The summary of a run has the content. -/
def IsIn (config : Config) (s : RunSummary) : SummaryContent → Prop
  | widths _ _ hist => ∀ w, s.commitWidths.count? w =
      (hist.count? w).or (if w < config.minWidthBuckets then some 0 else none)
  | detail stall d => stall.figures s.stalls = d
  | otherAux counts => s.stalls.otherAux = counts

end SummaryContent

/-! ## Widths -/

/-- The width and the count that a key and its number stand for. -/
def numberOf? (stem : String) (bound : Nat) (e : String × Nat) : Option (Nat × Nat) :=
  ((stem.toList.isPrefixOf? e.1.toList).bind (Numeral.digits? 10)).bind fun n =>
    if n < bound then some (n, e.2) else none

lemma Facts.numbered_eq (f : Facts) (stem : String) (bound : Nat) :
    f.numbered stem bound = (f.toList.map keyCount).filterMap (numberOf? stem bound) := by
  rw [List.filterMap_map]
  rfl

lemma numberOf?_eq_none {stem key : String}
    (h : stem.toList.isPrefixOf? key.toList = none) (bound n : Nat) :
    numberOf? stem bound (key, n) = none := by
  rw [numberOf?, h]
  rfl

lemma digits?_widthKey (w : Nat) :
    ("width".toList.isPrefixOf? (widthKey w).toList).bind (Numeral.digits? 10) = some w := by
  rw [widthKey, String.toList_append, Text.isPrefixOf?_self_append, Option.bind_some,
    Numeral.digits?_decimal]

lemma numberOf?_widthKey {w bound : Nat} (hw : w < bound) (n : Nat) :
    numberOf? "width" bound (widthKey w, n) = some (w, n) := by
  rw [numberOf?, digits?_widthKey, Option.bind_some, if_pos hw]

lemma widthKey_injective : Function.Injective widthKey := by
  intro v w h
  have hdigits := digits?_widthKey v
  rw [h, digits?_widthKey] at hdigits
  exact (Option.some.inj hdigits).symm

lemma ne_widthKey {key : String} (h : "width".toList.isPrefixOf? key.toList = none)
    (w : Nat) : key ≠ widthKey w := by
  rintro rfl
  rw [widthKey, String.toList_append, Text.isPrefixOf?_self_append] at h
  cases h

namespace SummaryContent

variable {content : SummaryContent}

/-- No key is written twice. -/
lemma nodup_keys (h : content.Fits) : (content.keyCounts.map Prod.fst).Nodup := by
  cases content with
  | widths cycles commits hist =>
    have hkeys : (hist.entries.map fun e => (widthKey e.1, e.2)).map Prod.fst =
        hist.keys.map widthKey := by
      rw [List.map_map, Tally.keys, List.map_map]
      rfl
    have hcycles : ∀ w ∈ hist.keys, widthKey w ≠ "cycles" := fun w _ =>
      (ne_widthKey (by decide) w).symm
    have hcommits : ∀ w ∈ hist.keys, widthKey w ≠ "commits" := fun w _ =>
      (ne_widthKey (by decide) w).symm
    have hwidths : (hist.keys.map widthKey).Nodup := hist.nodup_keys.map widthKey_injective
    rw [keyCounts, List.map_cons, List.map_cons, hkeys, List.nodup_cons, List.nodup_cons]
    refine ⟨?_, ?_, hwidths⟩
    · simpa using hcycles
    · simpa using hcommits
  | detail stall d => exact List.nodup_cons.mpr ⟨h.2, d.detail.nodup_keys⟩
  | otherAux counts => exact counts.nodup_keys

end SummaryContent

/-! ## Reading the content -/

section Read

variable {fs : List (String × Nat)} {body : List Char} (hbody : Facts.Written fs body)

include hbody

lemma widths_of_written {cycles commits : Nat} {hist : Tally Nat}
    (hfits : (SummaryContent.widths cycles commits hist).Fits)
    (hperm : fs.Perm (SummaryContent.widths cycles commits hist).keyCounts) :
    (CommitSummary.ofFacts (Facts.read body)).widths = hist := by
  have hnodup : (fs.map Prod.fst).Nodup :=
    ((hperm.map Prod.fst).nodup_iff).mpr (SummaryContent.nodup_keys hfits)
  have hread := ((Facts.map_toList_perm_of_written hbody hnodup).trans hperm).filterMap
    (numberOf? "width" UInt32.size)
  have hentries : (hist.entries.map fun e => (widthKey e.1, e.2)).filterMap
      (numberOf? "width" UInt32.size) = hist.entries := by
    have hself : ∀ e ∈ hist.entries,
        numberOf? "width" UInt32.size (widthKey e.1, e.2) = some e := fun e he =>
      numberOf?_widthKey (hfits e.1 (List.mem_map_of_mem he)) e.2
    rw [List.filterMap_map]
    exact (List.filterMap_congr hself).trans List.filterMap_some
  have hcontent : (SummaryContent.widths cycles commits hist).keyCounts.filterMap
      (numberOf? "width" UInt32.size) = hist.entries := by
    rw [SummaryContent.keyCounts, List.filterMap_cons_none (numberOf?_eq_none (by decide) _ _),
      List.filterMap_cons_none (numberOf?_eq_none (by decide) _ _), hentries]
  rw [CommitSummary.ofFacts, Facts.numbered_eq]
  rw [hcontent] at hread
  exact Tally.ofPairs_eq_of_perm hread

/-- The counts on a line are those under the keys that the line does not need for something
else. -/
lemma counts_of_written {totalKey : String} {t : Tally String} (hnodup : (fs.map Prod.fst).Nodup)
    (hperm : (fs.filter fun e => e.1 ≠ "mode" && e.1 ≠ totalKey).Perm t.entries) :
    StallDetail.counts totalKey (Facts.read body) = t := by
  have hread := (Facts.map_toList_perm_of_written hbody hnodup).filter fun e =>
    e.1 ≠ "mode" && e.1 ≠ totalKey
  rw [List.filter_map] at hread
  exact Tally.ofPairs_eq_of_perm (hread.trans hperm)

lemma detail_of_written {stall : DividedStall} {d : StallDetail}
    (hfits : (SummaryContent.detail stall d).Fits)
    (hperm : fs.Perm (SummaryContent.detail stall d).keyCounts) :
    StallDetail.ofFacts stall.totalKey (Facts.read body) = d := by
  have hnodup : (fs.map Prod.fst).Nodup :=
    ((hperm.map Prod.fst).nodup_iff).mpr (SummaryContent.nodup_keys hfits)
  have htotal : (Facts.read body).num? stall.totalKey = some d.total :=
    Facts.num?_of_written hbody hnodup (hperm.mem_iff.mpr (List.mem_cons_self ..))
  have hlabels : d.detail.entries.filter (fun e => e.1 ≠ "mode" && e.1 ≠ stall.totalKey) =
      d.detail.entries := by
    refine List.filter_eq_self.mpr fun e he => ?_
    have hmem : e.1 ∈ d.detail.keys := List.mem_map_of_mem he
    have hmode : e.1 ≠ "mode" := fun heq => hfits.1 (heq ▸ hmem)
    have hkey : e.1 ≠ stall.totalKey := fun heq => hfits.2 (heq ▸ hmem)
    simp [hmode, hkey]
  have hcounts := hperm.filter fun e => e.1 ≠ "mode" && e.1 ≠ stall.totalKey
  rw [SummaryContent.keyCounts, List.filter_cons_of_neg (by simp), hlabels] at hcounts
  rw [StallDetail.ofFacts, Facts.numD, htotal, counts_of_written hbody hnodup hcounts,
    Option.getD_some]

lemma otherAux_of_written {t : Tally String} (hfits : (SummaryContent.otherAux t).Fits)
    (hperm : fs.Perm (SummaryContent.otherAux t).keyCounts) :
    StallDetail.counts "" (Facts.read body) = t := by
  have hnodup : (fs.map Prod.fst).Nodup :=
    ((hperm.map Prod.fst).nodup_iff).mpr (SummaryContent.nodup_keys hfits)
  have hlabels : fs.filter (fun e => e.1 ≠ "mode" && e.1 ≠ "") = fs := by
    refine List.filter_eq_self.mpr fun e he => ?_
    have hmem : e.1 ∈ t.keys := List.mem_map_of_mem (hperm.mem_iff.mp he)
    have hmode : e.1 ≠ "mode" := fun heq => hfits (heq ▸ hmem)
    -- No key is empty.
    have hempty : e.1 ≠ "" := by
      intro heq
      have hkey := Facts.isKey_of_written hbody e he
      rw [heq] at hkey
      cases hkey
    simp [hmode, hempty]
  refine counts_of_written hbody hnodup ?_
  rw [hlabels]
  exact hperm

end Read

/-! ## The summary of a run -/

namespace RunSummary

/-- **What was written last is what the summary has.**  If the last line with the tag of some
content has its keys and numbers, in any order, with any blanks and spellings and behind any text
without a tag, then the summary of the run has the content. -/
theorem content_isIn_ofLines (config : Config) (path : String) {lines : List String}
    {content : SummaryContent} {fs : List (String × Nat)} (hfits : content.Fits)
    (hperm : fs.Perm content.keyCounts) (hlast : LastWritten content.tag fs lines) :
    content.IsIn config (ofLines config path lines) := by
  obtain ⟨body, hfacts, hbody⟩ := getLast?_factsOf_of_written hlast
  cases content with
  | widths cycles commits hist =>
    have hwidths := widths_of_written hbody hfits hperm
    have hevent : (Trace.ofLines lines).last? Event.commitSummary? =
        some (CommitSummary.ofFacts (Facts.read body)) := by
      rw [Trace.last?_commitSummary?_ofLines]
      exact congrArg (Option.map _) hfacts
    intro w
    simp only [ofLines, ofTrace, Trace.commitWidths, hevent, hwidths, CommitWidths.count?_fill,
      Tally.count]
    cases hist.count? w with
    | none => simp
    | some n => simp
  | detail stall d =>
    have hdetail := detail_of_written hbody hfits hperm
    have hevent : (Trace.ofLines lines).last? stall.summary? = some d := by
      rw [Trace.last?_ofLines_tagged stall.shows_summary? stall.tag_ne_commit]
      refine (congrArg (Option.bind · _) hfacts).trans ?_
      rw [Option.bind_some, stall.bind_summary?_ofTagged?, hdetail]
    exact DividedStall.figures_of_last? hevent
  | otherAux counts =>
    have hcounts := otherAux_of_written hbody hfits hperm
    have hevent : (Trace.ofLines lines).last? Event.otherAuxSummary? = some counts := by
      rw [Trace.last?_ofLines_tagged Event.shows_otherAuxSummary? (by decide)]
      exact (congrArg (Option.bind · _) hfacts).trans (congrArg some hcounts)
    simp only [SummaryContent.IsIn, ofLines, ofTrace, Trace.stallFigures, hevent, Option.getD_some]

/-! ### A log with three summaries -/

/-- A log with an old histogram and a new one, the counts of a category and further counts. -/
def writtenLog : List String := [
  "[commitm] cycles=1 commits=1 width7=1",
  "0: [commitm ] width4294967295=0x10  commits=70 cycles=0xff width0=30 ",
  "[stallm3] decode_blocked_total=5 dec(v/r)=2 rs/full=18446744073709551615",
  "[stallm6] _idle=0"]

/-- The last histogram of the log. -/
def writtenWidths : SummaryContent :=
  .widths 255 70 ⟨[(0, 30), (4294967295, 16)], by decide⟩

/-- The counts of the category. -/
def writtenDetail : SummaryContent :=
  .detail .decodeBlocked ⟨5, ⟨[("dec(v/r)", 2), ("rs/full", 18446744073709551615)], by decide⟩⟩

/-- The further counts. -/
def writtenAux : SummaryContent := .otherAux ⟨[("_idle", 0)], by decide⟩

/-- The facts of the histogram, as they stand on the line. -/
def writtenFacts : List (String × Nat) :=
  [("width4294967295", 16), ("commits", 70), ("cycles", 255), ("width0", 30)]

/-- The last three lines of the log have what was written. -/
lemma written_writtenLog : Line.Written writtenWidths.tag writtenFacts writtenLog[1] ∧
    Line.Written writtenDetail.tag writtenDetail.keyCounts writtenLog[2] ∧
    Line.Written writtenAux.tag writtenAux.keyCounts writtenLog[3] := by
  have hdec : ∀ n, Numeral.Spells n (Nat.toDigits 10 n) := by
    intro n
    have hdecimal := Numeral.spells_decimal n
    rwa [Numeral.decimal, String.toList_ofList] at hdecimal
  have hhex : ∀ n, Numeral.Spells n ('0' :: 'x' :: Nat.toDigits 16 n) := fun n =>
    .hexadecimal (Numeral.Digits.toDigits (by decide) (by decide) n)
  have hblank : ∀ t, Text.EndsWord (' ' :: t) := by
    intro t c hc
    obtain rfl : ' ' = c := by simpa using hc
    decide
  have hend : Text.EndsWord [] := by
    intro c hc
    cases hc
  have hnil : Facts.Written [] [] := .nil fun c hc => absurd hc List.not_mem_nil
  have hspace : Facts.Written [] [' '] := .nil fun c hc => by
    rw [List.mem_singleton.mp hc]
    decide
  refine ⟨?_, ?_, ?_⟩
  · have hzero := Facts.written_ofList 1 "width0" rfl (by decide) (by decide) (hdec 30) (hblank _)
      hspace
    have hcycles := Facts.written_ofList 1 "cycles" rfl (by decide) (by decide) (hhex 255)
      (hblank _) hzero
    have hcommits := Facts.written_ofList 2 "commits" rfl (by decide) (by decide) (hdec 70)
      (hblank _) hcycles
    have hwidth := Facts.written_ofList 1 "width4294967295" rfl (by decide) (by decide) (hhex 16)
      (hblank _) hcommits
    exact Line.written_ofList ['0', ':', ' '] [' '] .commitSummary rfl rfl rfl hwidth
      (by decide)
  · have hfull := Facts.written_ofList 1 "rs/full" rfl (by decide) (by decide)
      (hdec 18446744073709551615) hend hnil
    have hdecode := Facts.written_ofList 1 "dec(v/r)" rfl (by decide) (by decide) (hdec 2)
      (hblank _) hfull
    have htotal := Facts.written_ofList 1 "decode_blocked_total" rfl (by decide) (by decide)
      (hdec 5) (hblank _) hdecode
    exact Line.written_ofList [] [] .decodeBlockedSummary rfl rfl rfl htotal (by decide)
  · have hidle := Facts.written_ofList 1 "_idle" rfl (by decide) (by decide) (hdec 0) hend hnil
    exact Line.written_ofList [] [] .otherAuxSummary rfl rfl rfl hidle (by decide)

/-- The summary of the log has the last histogram, with the widths at both ends of their range, the
counts of the category with the largest count, and the further counts. -/
theorem content_isIn_ofLines_writtenLog :
    writtenWidths.IsIn {} (ofLines {} "run.log" writtenLog) ∧
      writtenDetail.IsIn {} (ofLines {} "run.log" writtenLog) ∧
      writtenAux.IsIn {} (ofLines {} "run.log" writtenLog) := by
  obtain ⟨hfirst, hsecond, hthird⟩ := written_writtenLog
  have hwidths : LastWritten writtenWidths.tag writtenFacts writtenLog := by
    refine ⟨writtenLog.take 1, writtenLog[1], writtenLog.drop 2, rfl, hfirst, ?_⟩
    exact (linesOf_cons_of_written hsecond (by decide) _).trans
      (linesOf_cons_of_written hthird (by decide) [])
  have hdetail : LastWritten writtenDetail.tag writtenDetail.keyCounts writtenLog :=
    ⟨writtenLog.take 2, writtenLog[2], writtenLog.drop 3, rfl, hsecond,
      linesOf_cons_of_written hthird (by decide) []⟩
  have haux : LastWritten writtenAux.tag writtenAux.keyCounts writtenLog :=
    ⟨writtenLog.take 3, writtenLog[3], [], rfl, hthird, rfl⟩
  have hperm : writtenFacts.Perm writtenWidths.keyCounts := by decide
  refine ⟨content_isIn_ofLines {} "run.log" ?_ hperm hwidths,
    content_isIn_ofLines {} "run.log" ?_ (.refl _) hdetail,
    content_isIn_ofLines {} "run.log" ?_ (.refl _) haux⟩
  · show ∀ w ∈ [0, 4294967295], w < UInt32.size
    decide
  · show "mode" ∉ ["dec(v/r)", "rs/full"] ∧ "decode_blocked_total" ∉ ["dec(v/r)", "rs/full"]
    decide
  · show "mode" ∉ ["_idle"]
    decide

end RunSummary

end PipelineProfile
