import Mathlib.Data.List.Forall2
import Mathlib.Data.List.Perm.Basic
import PipelineProfile.Proofs.Trace.LineKind

/-!
# Runs of stalls between flushes

The stalls of a trace come in runs: those before the first flush, those between one flush and the
next, and those after the last.  Where in its run a stall stands makes no difference to anything,
and where among other lines the run stands does not either.

The one figure that looks at the order of a trace, how many blocked decodes come shortly after a
flush, is a function of the flushes and these runs.  Reading a trace goes over the runs one by
one, and while it is within a run the last flush stays the same, so the run contributes as many of
its samples as come in the window of that flush (`blockedAfter_eq_blockedOver`).  Permuting every
run within itself changes none of these counts (`blockedOver_perm`).
-/

namespace PipelineProfile

/-! ## Splitting at some events -/

lemma exists_cons_splitOnP {α : Type} (p : α → Bool) (l : List α) :
    ∃ s rest, l.splitOnP p = s :: rest :=
  List.exists_cons_of_ne_nil (List.splitOnP_ne_nil p l)

/-- Splitting what a partial function keeps of a list is splitting the list and keeping as much of
each piece. -/
lemma splitOnP_filterMap {α β : Type} (f : α → Option β) (p : β → Bool) (l : List α) :
    (l.filterMap f).splitOnP p = (l.splitOnP fun a => (f a).any p).map (List.filterMap f) := by
  induction l with
  | nil => rfl
  | cons a l ih =>
    obtain ⟨s, rest, hs⟩ := exists_cons_splitOnP (fun a => (f a).any p) l
    rw [hs] at ih
    rw [List.splitOnP_cons_eq_if_modifyHead, hs]
    cases hf : f a with
    | none => simp [hf, ih]
    | some b =>
      rw [List.filterMap_cons_some hf, List.splitOnP_cons_eq_if_modifyHead, ih]
      by_cases hp : p b = true
      · simp [hp]
      · simp [hp, hf]

/-- The runs of stall lines: those before the first flush line, those between one flush line and
the next, and those after the last. -/
def stallRuns (lines : List String) : List (List String) :=
  (lines.splitOnP (LineKind.tagged .flush).matchesText).map (linesOf (.tagged .stall))

namespace Trace

/-- The runs of stall samples: those before the first flush, those between one flush and the next,
and those after the last. -/
def stallRuns (t : Trace) : List (List StallSample) :=
  (t.splitOnP fun e => e.flush?.isSome).map stalls

/-- The runs of samples are read from the runs of lines. -/
lemma stallRuns_ofLines (lines : List String) :
    (ofLines lines).stallRuns =
      (PipelineProfile.stallRuns lines).map fun run =>
        (factsOf .stall run).map StallSample.ofFacts := by
  have hmark : (fun text => (Event.ofText? text).any fun e => e.flush?.isSome) =
      (LineKind.tagged .flush).matchesText := by
    funext text
    by_cases hk : (Line.read text).kind? = some (.tagged .flush)
    · have hsome := isSome_bind_view Event.shows_flush? (by decide) hk
      obtain ⟨e, he⟩ := Option.isSome_iff_exists.mp (Event.isSome_ofText? (by decide) hk)
      rw [he, Option.bind_some] at hsome
      simp [LineKind.matchesText, hk, he, hsome]
    · have hnone : ((Event.ofText? text).any fun e => e.flush?.isSome) = false := by
        cases he : Event.ofText? text with
        | none => rfl
        | some e =>
          have hne : e.kind ≠ .tagged .flush :=
            fun heq => hk (by rw [Event.kind_of_ofText? he, heq])
          rw [Option.any_some, Event.shows_flush? e, decide_eq_false hne]
      simp [LineKind.matchesText, hk, hnone]
  rw [stallRuns, ofLines_eq, splitOnP_filterMap, hmark, PipelineProfile.stallRuns, List.map_map,
    List.map_map]
  refine List.map_congr_left fun run _ => ?_
  rw [Function.comp_apply, Function.comp_apply, factsOf_linesOf]
  exact stalls_ofLines run

/-! ## Runs of a longer trace -/

lemma stallRuns_ne_nil (t : Trace) : t.stallRuns ≠ [] := by
  simp [stallRuns]

lemma stallRuns_flush_cons (f : Flush) (t : Trace) :
    stallRuns (.flush f :: t) = [] :: stallRuns t := by
  rw [stallRuns, List.splitOnP_cons_eq_if_modifyHead]
  rfl

/-- An event that is no flush stands in the first run, if it is a stall. -/
lemma stallRuns_cons_of_ne_flush {e : Event} (he : e.flush? = none) (t : Trace) :
    stallRuns (e :: t) = (stallRuns t).modifyHead (e.stall?.toList ++ ·) := by
  obtain ⟨s, rest, hs⟩ := exists_cons_splitOnP (fun e : Event => e.flush?.isSome) t
  rw [stallRuns, stallRuns, List.splitOnP_cons_eq_if_modifyHead, hs]
  cases hstall : e.stall? with
  | none => simp [he, stalls, hstall]
  | some x => simp [he, stalls, hstall]

/-- The runs together hold all stalls. -/
lemma flatten_stallRuns (t : Trace) : t.stallRuns.flatten = t.stalls := by
  induction t with
  | nil => rfl
  | cons e t ih =>
    cases he : e.flush? with
    | some f =>
      obtain rfl : e = .flush f := by
        cases e <;> simp_all [Event.flush?]
      rw [stallRuns_flush_cons, List.flatten_cons, List.nil_append, ih]
      rfl
    | none =>
      rw [stallRuns_cons_of_ne_flush he]
      obtain ⟨run, rest, hrun⟩ := List.exists_cons_of_ne_nil (stallRuns_ne_nil t)
      rw [hrun, List.flatten_cons] at ih
      rw [hrun, List.modifyHead_cons, List.flatten_cons, List.append_assoc, ih]
      show e.stall?.toList ++ t.filterMap Event.stall? = (e :: t).filterMap Event.stall?
      cases hstall : e.stall? with
      | none => rw [List.filterMap_cons_none hstall, Option.toList_none, List.nil_append]
      | some s => rw [List.filterMap_cons_some hstall, Option.toList_some, List.singleton_append]

/-! ## Blocked decodes by runs -/

/-- The cycle of the last flush that carries one, after one more flush. -/
def flushedBy (counts : Flush → Bool) (f : Flush) (flushed : Option Nat) : Option Nat :=
  if counts f then f.cycle.or flushed else flushed

/-- How many samples of a blocked decode come at most `window` cycles after the last flush before
them, for the flushes `fs` and the runs of stalls around them, after a flush in the cycle
`flushed`. -/
def blockedOver (counts : Flush → Bool) (window : Nat) :
    Option Nat → List Flush → List (List StallSample) → Nat
  | flushed, f :: fs, run :: runs =>
    run.countP (StallSample.isBlockedAfter window flushed) +
      blockedOver counts window (flushedBy counts f flushed) fs runs
  | flushed, [], run :: _ => run.countP (StallSample.isBlockedAfter window flushed)
  | _, _, [] => 0

/-- One more sample in the first run counts if it comes in the window. -/
lemma blockedOver_cons_run (counts : Flush → Bool) (window : Nat) (flushed : Option Nat)
    (fs : List Flush) (s : StallSample) (run : List StallSample)
    (runs : List (List StallSample)) :
    blockedOver counts window flushed fs ((s :: run) :: runs) =
      blockedOver counts window flushed fs (run :: runs) +
        if s.isBlockedAfter window flushed then 1 else 0 := by
  cases fs with
  | nil => rw [blockedOver, blockedOver, List.countP_cons]
  | cons f fs =>
    rw [blockedOver, blockedOver, List.countP_cons]
    omega

/-- Reading a trace adds what its runs of stalls contribute. -/
lemma blocked_foldl_next (counts : Flush → Bool) (window : Nat) (t : Trace) (r : Recency) :
    (t.foldl (Recency.next counts window) r).blocked =
      r.blocked + blockedOver counts window r.flushed t.flushes t.stallRuns := by
  induction t generalizing r with
  | nil => rfl
  | cons e t ih =>
    rw [List.foldl_cons, ih]
    cases e with
    | flush f =>
      rw [stallRuns_flush_cons]
      have hflushes : flushes (.flush f :: t) = f :: flushes t := rfl
      rw [hflushes, blockedOver, List.countP_nil, Nat.zero_add]
      by_cases hf : counts f = true
      · simp [Recency.next, flushedBy, hf]
      · simp [Recency.next, flushedBy, hf]
    | stall s =>
      rw [stallRuns_cons_of_ne_flush rfl]
      have hflushes : flushes (.stall s :: t) = flushes t := rfl
      obtain ⟨run, rest, hrun⟩ := List.exists_cons_of_ne_nil (stallRuns_ne_nil t)
      rw [hflushes, hrun, List.modifyHead_cons]
      show _ = r.blocked + blockedOver counts window r.flushed (flushes t) ((s :: run) :: rest)
      rw [blockedOver_cons_run]
      by_cases hs : s.isBlockedAfter window r.flushed = true
      · simp [Recency.next, hs]
        omega
      · simp [Recency.next, hs]
    | _ =>
      rw [stallRuns_cons_of_ne_flush rfl]
      obtain ⟨run, rest, hrun⟩ := List.exists_cons_of_ne_nil (stallRuns_ne_nil t)
      rw [hrun]
      rfl

/-- The blocked decodes after flushes are those that the runs of stalls contribute. -/
lemma blockedAfter_eq_blockedOver (counts : Flush → Bool) (window : Nat) (t : Trace) :
    t.blockedAfter counts window = blockedOver counts window none t.flushes t.stallRuns := by
  rw [blockedAfter, blocked_foldl_next, Nat.zero_add]

/-- The order within the runs does not matter. -/
lemma blockedOver_perm (counts : Flush → Bool) (window : Nat) {runs runs' : List (List StallSample)}
    (h : List.Forall₂ List.Perm runs runs') (flushed : Option Nat) (fs : List Flush) :
    blockedOver counts window flushed fs runs = blockedOver counts window flushed fs runs' := by
  induction h generalizing flushed fs with
  | nil => rfl
  | cons hrun _ ih =>
    cases fs with
    | nil => rw [blockedOver, blockedOver, hrun.countP_eq]
    | cons f fs => rw [blockedOver, blockedOver, hrun.countP_eq, ih]

end Trace

end PipelineProfile
