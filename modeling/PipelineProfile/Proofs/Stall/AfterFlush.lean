import Mathlib.Data.List.Induction
import PipelineProfile.Proofs.Flush.Accounting
import PipelineProfile.Proofs.Stall.Conservation

/-!
# Blocked decodes shortly after a flush

A trace is read from the front with the cycle of the last flush in mind, and a sample of a blocked
decode is counted if it comes in the window of that flush.  Here the count is described without
the reading.  It is the number of positions of a trace at which a line shows a blocked decode in a
cycle `c`, such that the last cycle `f` on a flush line further up satisfies
`f ≤ c ≤ f + window` (`isShortlyAfter`).

`Recency.Describes` says what the reader knows after some lines, and one more line preserves it
(`describes_nextLine`).  Nothing is assumed about the cycles, which may be missing, stand still or
go backwards.  If they never go backwards, a later flush can only bring the window closer, so that
what comes shortly after a corrected misprediction comes shortly after a flush
(`isShortlyAfter_of_ascend`).  The main result is `blockedDecodes_correlated`.
-/

namespace PipelineProfile

/-! ## Cycles on lines -/

/-- The cycle of the flush on a line, if it is one that `counts` selects. -/
def flushCycle? (counts : Flush → Bool) (text : String) : Option Nat :=
  ((Flush.ofText? text).filter counts).bind Flush.cycle

/-- The cycle of the blocked decode that a line samples. -/
def blockedCycle? (text : String) : Option Nat :=
  ((StallSample.ofText? text).filter fun s => s.category = .decodeBlocked).bind StallSample.cycle

/-- The cycle that a flush line or a stall line carries. -/
def eventCycle? (text : String) : Option Nat :=
  ((Flush.ofText? text).bind Flush.cycle).or ((StallSample.ofText? text).bind StallSample.cycle)

/-- The last cycle that a selected flush carries. -/
def lastFlushCycle? (counts : Flush → Bool) (lines : List String) : Option Nat :=
  (lines.filterMap (flushCycle? counts)).getLast?

/-- Whether two cycles are known, the first comes no earlier than the second, and at most `window`
cycles later. -/
def isWithin (window : Nat) : Option Nat → Option Nat → Bool
  | some c, some f => f ≤ c && c ≤ f + window
  | _, _ => false

/-- Whether the line at a position shows a blocked decode at most `window` cycles after the last
selected flush above it. -/
def isShortlyAfter (counts : Flush → Bool) (window : Nat) (lines : List String) (i : Nat) : Bool :=
  isWithin window (lines[i]?.bind blockedCycle?) (lastFlushCycle? counts (lines.take i))

/-- The cycles of flushes and stalls never go backwards. -/
def CyclesAscend (lines : List String) : Prop :=
  (lines.filterMap eventCycle?).Pairwise (· ≤ ·)

/-- The blocked decodes after flushes are those that come shortly after one, by position. -/
structure StallFigures.Correlated (window : Nat) (lines : List String) (s : StallFigures) :
    Prop where
  afterFlush : s.blockedAfterFlush =
    (List.range lines.length).countP (isShortlyAfter (fun _ => true) window lines)
  afterMispredict : s.blockedAfterMispredict =
    (List.range lines.length).countP (isShortlyAfter Flush.isMispredict window lines)
  samples : s.blockedSamples = lines.countP StallCategory.decodeBlocked.matchesText
  afterFlush_le : s.blockedAfterFlush ≤ s.blockedSamples
  afterMispredict_le : s.blockedAfterMispredict ≤ s.blockedSamples
  ordered : CyclesAscend lines → s.blockedAfterMispredict ≤ s.blockedAfterFlush

variable {counts : Flush → Bool} {window : Nat} {lines : List String}

/-! ## One more line -/

lemma bind_flush?_ofText? (text : String) :
    (Event.ofText? text).bind Event.flush? = Flush.ofText? text := by
  rw [Event.bind_ofText?_tagged Event.shows_flush?, Flush.ofText?, Option.map_eq_bind]
  rfl

lemma bind_stall?_ofText? (text : String) :
    (Event.ofText? text).bind Event.stall? = StallSample.ofText? text := by
  rw [Event.bind_ofText?_tagged Event.shows_stall?, StallSample.ofText?, Option.map_eq_bind]
  rfl

lemma lastFlushCycle?_concat (text : String) :
    lastFlushCycle? counts (lines ++ [text]) =
      (flushCycle? counts text).or (lastFlushCycle? counts lines) := by
  rw [lastFlushCycle?, List.filterMap_append, List.getLast?_append]
  cases h : flushCycle? counts text with
  | none => simp [h, lastFlushCycle?]
  | some c => simp [h]

/-- One more line does not change what the positions above it are. -/
lemma countP_isShortlyAfter_concat (text : String) :
    (List.range (lines ++ [text]).length).countP (isShortlyAfter counts window (lines ++ [text])) =
      (List.range lines.length).countP (isShortlyAfter counts window lines) +
        if isWithin window (blockedCycle? text) (lastFlushCycle? counts lines) then 1 else 0 := by
  have habove : ∀ i ∈ List.range lines.length,
      isShortlyAfter counts window (lines ++ [text]) i = isShortlyAfter counts window lines i := by
    intro i hi
    have hlt : i < lines.length := List.mem_range.mp hi
    rw [isShortlyAfter, isShortlyAfter, List.getElem?_append_left hlt,
      List.take_append_of_le_length (Nat.le_of_lt hlt)]
  have hlast : isShortlyAfter counts window (lines ++ [text]) lines.length =
      isWithin window (blockedCycle? text) (lastFlushCycle? counts lines) := by
    rw [isShortlyAfter, List.getElem?_concat_length, Option.bind_some, List.take_left]
  rw [List.length_append, List.length_singleton, List.range_succ, List.countP_append,
    List.countP_singleton, hlast]
  congr 1
  exact List.countP_congr fun i hi => by rw [habove i hi]

/-! ## Reading a trace -/

namespace Trace.Recency

/-- Read one more line. -/
def nextLine (counts : Flush → Bool) (window : Nat) (r : Recency) (text : String) : Recency :=
  (Event.ofText? text).elim r (r.next counts window)

/-- What is known after some lines. -/
structure Describes (counts : Flush → Bool) (window : Nat) (lines : List String) (r : Recency) :
    Prop where
  flushed : r.flushed = lastFlushCycle? counts lines
  blocked : r.blocked = (List.range lines.length).countP (isShortlyAfter counts window lines)

lemma flushed_next (r : Recency) (e : Event) :
    (r.next counts window e).flushed =
      ((e.flush?.filter counts).bind Flush.cycle).or r.flushed := by
  cases e with
  | flush f =>
    by_cases hf : counts f = true
    · simp [next, Event.flush?, Option.filter_some, hf]
    · simp [next, Event.flush?, Option.filter_some, hf]
  | stall s =>
    by_cases hs : s.isBlockedAfter window r.flushed = true
    · simp [next, Event.flush?, hs]
    · simp [next, Event.flush?, hs]
  | _ => rfl

lemma blocked_next (r : Recency) (e : Event) :
    (r.next counts window e).blocked =
      r.blocked + if e.stall?.any (StallSample.isBlockedAfter window r.flushed) then 1 else 0 := by
  cases e with
  | flush f =>
    by_cases hf : counts f = true
    · simp [next, Event.stall?, hf]
    · simp [next, Event.stall?, hf]
  | stall s =>
    by_cases hs : s.isBlockedAfter window r.flushed = true
    · simp [next, Event.stall?, hs]
    · simp [next, Event.stall?, hs]
  | _ => rfl

lemma flushed_nextLine (r : Recency) (text : String) :
    (r.nextLine counts window text).flushed = (flushCycle? counts text).or r.flushed := by
  rw [nextLine, flushCycle?, ← bind_flush?_ofText?]
  cases Event.ofText? text with
  | none => rfl
  | some e => exact flushed_next r e

lemma any_isBlockedAfter (flushed : Option Nat) (text : String) :
    (StallSample.ofText? text).any (StallSample.isBlockedAfter window flushed) =
      isWithin window (blockedCycle? text) flushed := by
  rw [blockedCycle?]
  cases StallSample.ofText? text with
  | none => rfl
  | some s =>
    by_cases hs : s.category = .decodeBlocked
    · cases hcycle : s.cycle with
      | none => simp [StallSample.isBlockedAfter, Option.filter_some, hs, hcycle, isWithin]
      | some c =>
        cases flushed with
        | none => simp [StallSample.isBlockedAfter, Option.filter_some, hs, hcycle, isWithin]
        | some f =>
          rw [Bool.eq_iff_iff]
          simp only [Option.any_some, StallSample.isBlockedAfter, hs, hcycle, decide_true,
            Bool.true_and, Option.filter_some, if_true, Option.bind_some, isWithin,
            Bool.and_eq_true, decide_eq_true_eq]
          omega
    · simp [StallSample.isBlockedAfter, Option.filter_some, hs, isWithin]

lemma blocked_nextLine (r : Recency) (text : String) :
    (r.nextLine counts window text).blocked =
      r.blocked + if isWithin window (blockedCycle? text) r.flushed then 1 else 0 := by
  rw [nextLine, ← any_isBlockedAfter, ← bind_stall?_ofText?]
  cases Event.ofText? text with
  | none => rfl
  | some e => exact blocked_next r e

/-- One more line preserves what is known. -/
lemma describes_nextLine {r : Recency} (h : r.Describes counts window lines) (text : String) :
    (r.nextLine counts window text).Describes counts window (lines ++ [text]) where
  flushed := by rw [flushed_nextLine, lastFlushCycle?_concat, h.flushed]
  blocked := by rw [blocked_nextLine, countP_isShortlyAfter_concat, h.flushed, h.blocked]

/-- What is known after a whole trace. -/
lemma describes_foldl (counts : Flush → Bool) (window : Nat) (lines : List String) :
    (lines.foldl (nextLine counts window) ⟨none, 0⟩).Describes counts window lines := by
  induction lines using List.reverseRecOn with
  | nil => exact ⟨rfl, rfl⟩
  | append_singleton lines text ih =>
    rw [List.foldl_append]
    exact describes_nextLine ih text

end Trace.Recency

/-- The blocked decodes after flushes, counted by position. -/
lemma Trace.blockedAfter_ofLines (counts : Flush → Bool) (window : Nat) (lines : List String) :
    (ofLines lines).blockedAfter counts window =
      (List.range lines.length).countP (isShortlyAfter counts window lines) := by
  have hfold : (ofLines lines).foldl (Recency.next counts window) ⟨none, 0⟩ =
      lines.foldl (Recency.nextLine counts window) ⟨none, 0⟩ := by
    rw [ofLines_eq, List.foldl_filterMap]
    congr 1
    funext r text
    rw [Recency.nextLine]
    cases Event.ofText? text <;> rfl
  rw [blockedAfter, hfold]
  exact (Recency.describes_foldl counts window lines).blocked

/-! ## At most every sample -/

lemma matchesText_of_blockedCycle? {text : String} {c : Nat} (h : blockedCycle? text = some c) :
    StallCategory.decodeBlocked.matchesText text = true := by
  obtain ⟨s, hs, -⟩ := Option.bind_eq_some_iff.mp h
  obtain ⟨hsample, hcategory⟩ := Option.filter_eq_some_iff.mp hs
  rw [StallCategory.matchesText, hsample]
  exact hcategory

lemma isWithin_iff {c? f? : Option Nat} :
    isWithin window c? f? = true ↔ ∃ c f, c? = some c ∧ f? = some f ∧ f ≤ c ∧ c ≤ f + window := by
  cases c? with
  | none => simp [isWithin]
  | some c =>
    cases f? with
    | none => simp [isWithin]
    | some f => simp [isWithin]

lemma countP_isShortlyAfter_le (counts : Flush → Bool) (window : Nat) (lines : List String) :
    (List.range lines.length).countP (isShortlyAfter counts window lines) ≤
      lines.countP StallCategory.decodeBlocked.matchesText := by
  rw [← countP_range_getElem? _ lines]
  refine List.countP_mono_left fun i _ hi => ?_
  obtain ⟨c, f, hc, -⟩ := isWithin_iff.mp hi
  obtain ⟨text, htext, hblocked⟩ := Option.bind_eq_some_iff.mp hc
  rw [htext, Option.any_some]
  exact matchesText_of_blockedCycle? hblocked

/-! ## Ascending cycles -/

lemma flushCycle?_true_of_flushCycle? {text : String} {f : Nat}
    (h : flushCycle? counts text = some f) : flushCycle? (fun _ => true) text = some f := by
  obtain ⟨flush, hflush, hcycle⟩ := Option.bind_eq_some_iff.mp h
  rw [flushCycle?, (Option.filter_eq_some_iff.mp hflush).1]
  exact hcycle

lemma eventCycle?_of_flushCycle? {text : String} {f : Nat}
    (h : flushCycle? counts text = some f) : eventCycle? text = some f := by
  obtain ⟨flush, hflush, hcycle⟩ := Option.bind_eq_some_iff.mp h
  rw [eventCycle?, (Option.filter_eq_some_iff.mp hflush).1, Option.bind_some, hcycle]
  rfl

lemma eventCycle?_of_blockedCycle? {text : String} {c : Nat} (h : blockedCycle? text = some c) :
    eventCycle? text = some c := by
  obtain ⟨s, hs, hcycle⟩ := Option.bind_eq_some_iff.mp h
  have hsample := (Option.filter_eq_some_iff.mp hs).1
  have hflush : Flush.ofText? text = none := by
    obtain ⟨facts, hfacts, -⟩ := Option.map_eq_some_iff.mp hsample
    rw [Flush.ofText?, Line.facts?_eq_some_iff.mp hfacts]
    rfl
  rw [eventCycle?, hflush, hsample, Option.bind_none, Option.none_or, Option.bind_some, hcycle]

/-- While cycles ascend, the last flush is no earlier than the last of some of the flushes. -/
lemma exists_lastFlushCycle?_ge {m : Nat} (hlast : lastFlushCycle? counts lines = some m)
    (hascend : (lines.filterMap (flushCycle? fun _ => true)).Pairwise (· ≤ ·)) :
    ∃ f, lastFlushCycle? (fun _ => true) lines = some f ∧ m ≤ f := by
  obtain ⟨text, htext, hcycle⟩ := List.mem_filterMap.mp (List.mem_of_getLast? hlast)
  have hm : m ∈ lines.filterMap (flushCycle? fun _ => true) :=
    List.mem_filterMap.mpr ⟨text, htext, flushCycle?_true_of_flushCycle? hcycle⟩
  obtain ⟨f, hf⟩ : ∃ f, lastFlushCycle? (fun _ => true) lines = some f := by
    refine ⟨_, List.getLast?_eq_some_getLast ?_⟩
    exact List.ne_nil_of_mem hm
  obtain ⟨before, hbefore⟩ := List.getLast?_eq_some_iff.mp hf
  rw [hbefore] at hm hascend
  obtain hm | hm := List.mem_append.mp hm
  · exact ⟨f, hf, (List.pairwise_append.mp hascend).2.2 m hm f (List.mem_singleton_self f)⟩
  · exact ⟨f, hf, Nat.le_of_eq (List.mem_singleton.mp hm)⟩

/-- While cycles ascend, what comes shortly after one of some flushes comes shortly after a
flush. -/
lemma isShortlyAfter_of_ascend (hascend : CyclesAscend lines) {i : Nat}
    (h : isShortlyAfter counts window lines i = true) :
    isShortlyAfter (fun _ => true) window lines i = true := by
  obtain ⟨c, m, hc, hm, -, hwindow⟩ := isWithin_iff.mp h
  obtain ⟨text, htext, hblocked⟩ := Option.bind_eq_some_iff.mp hc
  have hsplit : lines = lines.take i ++ text :: lines.drop (i + 1) := by
    obtain ⟨hi, rfl⟩ := List.getElem?_eq_some_iff.mp htext
    rw [← List.drop_eq_getElem_cons hi, List.take_append_drop]
  rw [CyclesAscend, List.pairwise_filterMap, hsplit, List.pairwise_append] at hascend
  obtain ⟨habove, -, hcross⟩ := hascend
  have hflushes : ((lines.take i).filterMap (flushCycle? fun _ => true)).Pairwise (· ≤ ·) := by
    rw [List.pairwise_filterMap]
    refine habove.imp fun hab f hf g hg => ?_
    exact hab f (eventCycle?_of_flushCycle? hf) g (eventCycle?_of_flushCycle? hg)
  obtain ⟨f, hf, hmf⟩ := exists_lastFlushCycle?_ge hm hflushes
  -- The last flush stands above the blocked decode, so it is no later.
  have hfc : f ≤ c := by
    obtain ⟨above, hmem, hcycle⟩ := List.mem_filterMap.mp (List.mem_of_getLast? hf)
    exact hcross above hmem text (List.mem_cons_self ..) f (eventCycle?_of_flushCycle? hcycle) c
      (eventCycle?_of_blockedCycle? hblocked)
  exact isWithin_iff.mpr ⟨c, f, hc, hf, hfc, by omega⟩

/-! ## The stalls of a run -/

namespace RunSummary

/-- **A blocked decode is put down to a flush exactly if it comes shortly after the last one.**
This holds for every order of the lines and of the cycles on them.  If the cycles of flushes and
stalls never go backwards, no more blocked decodes are put down to corrected mispredictions than
to flushes. -/
theorem blockedDecodes_correlated (config : Config) (path : String) (lines : List String) :
    (ofLines config path lines).stalls.Correlated config.postFlushWindow lines := by
  have hflush : (ofLines config path lines).stalls.blockedAfterFlush =
      (List.range lines.length).countP
        (isShortlyAfter (fun _ => true) config.postFlushWindow lines) :=
    Trace.blockedAfter_ofLines (fun _ => true) config.postFlushWindow lines
  have hmispredict : (ofLines config path lines).stalls.blockedAfterMispredict =
      (List.range lines.length).countP
        (isShortlyAfter Flush.isMispredict config.postFlushWindow lines) :=
    Trace.blockedAfter_ofLines Flush.isMispredict config.postFlushWindow lines
  have hsamples : (ofLines config path lines).stalls.blockedSamples =
      lines.countP StallCategory.decodeBlocked.matchesText :=
    Trace.length_stallsIn_ofLines lines .decodeBlocked
  refine ⟨hflush, hmispredict, hsamples, ?_, ?_, fun hascend => ?_⟩
  · rw [hflush, hsamples]
    exact countP_isShortlyAfter_le ..
  · rw [hmispredict, hsamples]
    exact countP_isShortlyAfter_le ..
  · rw [hmispredict, hflush]
    exact List.countP_mono_left fun i _ hi => isShortlyAfter_of_ascend hascend hi

-- A later flush whose cycle is out of order hides a misprediction from one count only.
example :
    let stalls := (ofLines {} "run.log" [
      "[flush ] cycle=100 reason=branch_mispredict",
      "[flush ] cycle=200 reason=exception",
      "[stall ] cycle=101 dec(v/r)=1/0"]).stalls
    stalls.blockedAfterFlush = 0 ∧ stalls.blockedAfterMispredict = 1 := by decide

/-! ### The blocked decodes of one log -/

/-- A log in which a later flush hides a corrected misprediction, but only for a while. -/
def flushedLog : List String := [
  "[stall ] cycle=2 dec(v/r)=1/0",
  "[flush ] cycle=5 reason=branch_mispredict",
  "[stall ] cycle=6 dec(v/r)=1/0",
  "[flush ] cycle=20 reason=exception",
  "[stall ] dec(v/r)=1/0",
  "[stall ] cycle=30 dec(v/r)=1/0"]

/-- Of the four blocked decodes of the log two come shortly after a flush and no more shortly
after a misprediction. -/
theorem blockedAfterFlush_flushedLog :
    CyclesAscend flushedLog ∧
      (ofLines {} "run.log" flushedLog).stalls.blockedSamples = 4 ∧
      (ofLines {} "run.log" flushedLog).stalls.blockedAfterFlush = 2 ∧
      (ofLines {} "run.log" flushedLog).stalls.blockedAfterMispredict ≤ 2 := by
  have hcorrelated := blockedDecodes_correlated {} "run.log" flushedLog
  have hlines : flushedLog.filterMap eventCycle? = [2, 5, 6, 20, 30] ∧
      flushedLog.countP StallCategory.decodeBlocked.matchesText = 4 ∧
      (List.range flushedLog.length).countP (isShortlyAfter (fun _ => true) 16 flushedLog) = 2 := by
    decide
  obtain ⟨hcycles, hsamples, hafter⟩ := hlines
  have hascend : CyclesAscend flushedLog := by
    rw [CyclesAscend, hcycles]
    decide
  have hflush : (ofLines {} "run.log" flushedLog).stalls.blockedAfterFlush = 2 :=
    hcorrelated.afterFlush.trans hafter
  refine ⟨hascend, hcorrelated.samples.trans hsamples, hflush, ?_⟩
  exact hflush ▸ hcorrelated.ordered hascend

end RunSummary

end PipelineProfile
