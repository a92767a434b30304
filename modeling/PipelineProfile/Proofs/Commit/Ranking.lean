import Mathlib.Data.List.Nodup
import Mathlib.Data.Nat.Find
import Mathlib.Order.Bounds.Basic
import PipelineProfile.Proofs.Line.Facts
import PipelineProfile.Proofs.Number.Spelling
import PipelineProfile.Proofs.Trace.Sources

/-!
# Rankings on summary lines

The simulator ranks the hottest addresses and instruction words itself.  On such a line rank `i` has
two facts, a value and a count, whose keys hold `i` in decimal, and a ranking is read from rank zero
up to the first rank that has no value.

Nothing in the reading bounds the ranks.  `Facts.Ranks` is the loop as it stands, which goes on for
as long as there is a value, and so has a result only if there is a gap.  There is one because the
keys of different ranks are different (`Facts.rankKey_injective`) and a line has finitely many: a
ranking has no more ranks than the line has facts (`Facts.le_length_of_given`).  From rank `i` on the
loop gives what is left before the gap (`Facts.ranks_iff`), and so does the reading with a bound
(`Facts.ranksFrom_eq`), because the bound is never the reason to stop.

The main result is `hotspots_upToGap`.
-/

namespace PipelineProfile

namespace Facts

variable {f : Facts} {what : String} {i k : Nat}

/-! ## Ranks -/

/-- The key of `what` is at rank `i`. -/
def rankKey (what : String) (i : Nat) : String := "rank" ++ Numeral.decimal i ++ "_" ++ what

/-- The ranks of which a line does not tell `what` is there. -/
def gaps (f : Facts) (what : String) : Set Nat := {i | ∀ x ∈ f.occurrences, x.key ≠ rankKey what i}

/-- The value at a rank and its count, both zero if they are not given. -/
def rankEntry (f : Facts) (what : String) (i : Nat) : Nat × Nat :=
  (f.numD (rankKey what i) 0, f.numD (rankKey "count" i) 0)

/-- Reading a ranking from rank `i` on, rank after rank and without a bound, ends with the given
entries. -/
inductive Ranks (f : Facts) (what : String) : Nat → List (Nat × Nat) → Prop
  | gap {i : Nat} (h : f.rank? what i = none) : Ranks f what i []
  | next {i : Nat} {e : Nat × Nat} {es : List (Nat × Nat)} (h : f.rank? what i = some e)
      (hes : Ranks f what (i + 1) es) : Ranks f what i (e :: es)

lemma rankKey_injective (what : String) : Function.Injective (rankKey what) := by
  intro i j h
  have hlists : (rankKey what i).toList = (rankKey what j).toList := congrArg String.toList h
  simp only [rankKey, String.toList_append, List.append_assoc] at hlists
  -- The number stands between two texts that do not depend on it.
  have hdecimal := List.append_cancel_right (List.append_cancel_left hlists)
  exact Numeral.decimal_injective (String.toList_injective hdecimal)

lemma not_mem_gaps_iff : i ∉ f.gaps what ↔ rankKey what i ∈ f.occurrences.map Fact.key := by
  simp [gaps]

lemma rank?_eq_none_iff : f.rank? what i = none ↔ i ∈ f.gaps what := by
  have hlast : f.rank? what i = none ↔ ¬ (f.last? (rankKey what i)).isSome = true := by
    simp [rank?, num?, get?, rankKey]
  rw [hlast, isSome_last?_iff, ← not_mem_gaps_iff, not_not]

lemma rank?_of_not_mem_gaps (h : i ∉ f.gaps what) : f.rank? what i = some (f.rankEntry what i) := by
  obtain ⟨x, hx⟩ := Option.isSome_iff_exists.mp (isSome_last?_iff.mpr (not_mem_gaps_iff.mp h))
  have hnum : f.num? (rankKey what i) = some (Numeral.value x.value.toList) := by
    rw [num?, get?, hx]
    rfl
  have hentry : f.rankEntry what i =
      (Numeral.value x.value.toList, f.numD (rankKey "count" i) 0) := by
    rw [rankEntry, numD, hnum, Option.getD_some]
  rw [hentry]
  exact congrArg (Option.map fun v => (v, f.numD (rankKey "count" i) 0)) hnum

/-! ## The first gap -/

/-- Each rank that is given takes a fact of its own. -/
lemma le_length_of_given (h : ∀ i < k, i ∉ f.gaps what) : k ≤ f.toList.length := by
  have hnodup : ((List.range k).map (rankKey what)).Nodup :=
    List.Nodup.map (rankKey_injective what) List.nodup_range
  have hsubset : (List.range k).map (rankKey what) ⊆ f.toList.map Fact.key := by
    intro key hkey
    obtain ⟨i, hi, rfl⟩ := List.mem_map.mp hkey
    rw [map_key_toList, List.mem_eraseDups]
    exact not_mem_gaps_iff.mp (h i (List.mem_range.mp hi))
  have hle := hnodup.length_le_of_subset hsubset
  rwa [List.length_map, List.length_range, List.length_map] at hle

lemma exists_isLeast_gaps (f : Facts) (what : String) : ∃ k, IsLeast (f.gaps what) k := by
  classical
  have hgap : ∃ k, k ∈ f.gaps what := by
    by_contra hnone
    have hle : f.toList.length + 1 ≤ f.toList.length :=
      le_length_of_given fun i _ hi => hnone ⟨i, hi⟩
    omega
  exact ⟨Nat.find hgap, Nat.find_spec hgap, fun i hi => Nat.find_min' hgap hi⟩

lemma not_mem_gaps_of_lt (hk : IsLeast (f.gaps what) k) (hi : i < k) : i ∉ f.gaps what :=
  fun hmem => absurd (hk.2 hmem) (Nat.not_le_of_lt hi)

/-! ## Reading up to the gap -/

/-- The entries from rank `i` on and before rank `k`. -/
def entriesBelow (f : Facts) (what : String) (k i : Nat) : List (Nat × Nat) :=
  (List.range' i (k - i)).map (f.rankEntry what)

lemma entriesBelow_self (f : Facts) (what : String) (k : Nat) : f.entriesBelow what k k = [] := by
  rw [entriesBelow, Nat.sub_self, List.range'_zero, List.map_nil]

lemma entriesBelow_of_lt (f : Facts) (what : String) (h : i < k) :
    f.entriesBelow what k i = f.rankEntry what i :: f.entriesBelow what k (i + 1) := by
  have hsub : k - i = (k - (i + 1)) + 1 := by omega
  rw [entriesBelow, hsub, List.range'_succ, List.map_cons, entriesBelow]

/-- What the loop gives are the entries before the gap. -/
lemma Ranks.eq_entriesBelow {es : List (Nat × Nat)} (h : f.Ranks what i es)
    (hk : IsLeast (f.gaps what) k) (hi : i ≤ k) : es = f.entriesBelow what k i := by
  induction h with
  | gap hnone =>
    have hle := hk.2 (rank?_eq_none_iff.mp hnone)
    obtain rfl := Nat.le_antisymm hi hle
    exact (f.entriesBelow_self what _).symm
  | @next i e es hsome hes ih =>
    have hgiven : i ∉ f.gaps what := fun hmem => by
      rw [rank?_eq_none_iff.mpr hmem] at hsome
      cases hsome
    have hne : i ≠ k := fun heq => hgiven (heq ▸ hk.1)
    have hlt : i < k := lt_of_le_of_ne hi hne
    rw [rank?_of_not_mem_gaps hgiven] at hsome
    rw [f.entriesBelow_of_lt what hlt, ← ih hlt, Option.some.inj hsome]

/-- The loop ends from every rank that is not behind the gap. -/
lemma ranks_entriesBelow (hk : IsLeast (f.gaps what) k) (hi : i ≤ k) :
    f.Ranks what i (f.entriesBelow what k i) := by
  induction hi using Nat.decreasingInduction with
  | self =>
    rw [entriesBelow_self]
    exact .gap (rank?_eq_none_iff.mpr hk.1)
  | of_succ i hlt ih =>
    rw [f.entriesBelow_of_lt what hlt]
    exact .next (rank?_of_not_mem_gaps (not_mem_gaps_of_lt hk hlt)) ih

lemma ranks_iff {es : List (Nat × Nat)} (hk : IsLeast (f.gaps what) k) (hi : i ≤ k) :
    f.Ranks what i es ↔ es = f.entriesBelow what k i :=
  ⟨fun h => h.eq_entriesBelow hk hi, fun h => h ▸ ranks_entriesBelow hk hi⟩

/-- With a bound that reaches the gap, reading gives the entries before the gap. -/
lemma ranksFrom_eq (hk : IsLeast (f.gaps what) k) {fuel : Nat} (hi : i ≤ k) (hfuel : k ≤ i + fuel) :
    f.ranksFrom what fuel i = f.entriesBelow what k i := by
  induction fuel generalizing i with
  | zero =>
    obtain rfl : i = k := by omega
    rw [entriesBelow_self, ranksFrom]
  | succ fuel ih =>
    rw [ranksFrom]
    obtain rfl | hlt := Nat.eq_or_lt_of_le hi
    · rw [rank?_eq_none_iff.mpr hk.1, entriesBelow_self]
    · rw [rank?_of_not_mem_gaps (not_mem_gaps_of_lt hk hlt), f.entriesBelow_of_lt what hlt]
      exact congrArg (f.rankEntry what i :: ·) (ih hlt (by omega))

lemma length_toList_le (f : Facts) : f.toList.length ≤ f.occurrences.length := by
  have hkeys : f.toList.map Fact.key ⊆ f.occurrences.map Fact.key := by
    intro key hkey
    rwa [map_key_toList, List.mem_eraseDups] at hkey
  have hle := f.nodup_keys_toList.length_le_of_subset hkeys
  rwa [List.length_map, List.length_map] at hle

lemma ranked_eq (hk : IsLeast (f.gaps what) k) : f.ranked what = f.entriesBelow what k 0 := by
  have hle : k ≤ f.toList.length := le_length_of_given fun i hi => not_mem_gaps_of_lt hk hi
  have hfuel := hle.trans f.length_toList_le
  exact ranksFrom_eq hk (Nat.zero_le k) (by omega)

lemma entriesBelow_zero (f : Facts) (what : String) (k : Nat) :
    f.entriesBelow what k 0 = (List.range k).map (f.rankEntry what) := by
  rw [entriesBelow, Nat.sub_zero, List.range_eq_range']

end Facts

/-! ## The hotspots of a run -/

/-- The first hotspots that the facts of a line rank. -/
def Facts.hotspots (f : Facts) (what : String) (n : Nat) : List Hotspot :=
  (List.range n).map fun i => ⟨(f.rankEntry what i).1, (f.rankEntry what i).2⟩

lemma Hotspot.take_ofFacts {f : Facts} {what : String} {k : Nat} (hk : IsLeast (f.gaps what) k)
    (limit : Nat) : (Hotspot.ofFacts what f).take limit = f.hotspots what (min k limit) := by
  rw [Hotspot.ofFacts, Facts.ranked_eq hk, f.entriesBelow_zero, List.map_map, ← List.map_take,
    List.take_range, Nat.min_comm, Facts.hotspots]
  rfl

namespace Trace

variable {lines : List String} {f : Facts}

lemma hotPcs_ofLines (config : Config) (h : (factsOf .hotPcSummary lines).getLast? = some f) :
    (ofLines lines).hotPcs config = (Hotspot.ofFacts "pc" f).take config.hotspotLimit := by
  have hlast : (ofLines lines).last? Event.hotPcs? = some (Hotspot.ofFacts "pc" f) := by
    rw [last?_ofLines_tagged Event.shows_hotPcs? (by decide), h]
    rfl
  have hsummary : (ofLines lines).hasSummary .hotspot = true := by
    rw [hasSummary, hlast, Option.isSome_some, Bool.true_or]
  rw [hotPcs, if_pos hsummary, hlast, Option.getD_some]

lemma hotInsts_ofLines (config : Config) (h : (factsOf .hotInstSummary lines).getLast? = some f) :
    (ofLines lines).hotInsts config = (Hotspot.ofFacts "inst" f).take config.hotspotLimit := by
  have hlast : (ofLines lines).last? Event.hotInsts? = some (Hotspot.ofFacts "inst" f) := by
    rw [last?_ofLines_tagged Event.shows_hotInsts? (by decide), h]
    rfl
  have hsummary : (ofLines lines).hasSummary .hotspot = true := by
    rw [hasSummary, hlast, Option.isSome_some, Bool.or_true]
  rw [hotInsts, if_pos hsummary, hlast, Option.getD_some]

end Trace

namespace RunSummary

/-- **A ranking is read up to its first gap.**  On every line there is a first rank `k` without a
value, and it is at most the number of facts.  The loop over all ranks ends, and only with the
values of the ranks before `k` in their order, each with its count or zero.  If a run has a line
that ranks addresses, the hotspots are the first ranks on the last such line, up to `k` and up to
the limit, and so for instruction words; the other lines of the run have no say in it. -/
theorem hotspots_upToGap (config : Config) (path : String) (lines : List String) :
    (∀ (f : Facts) (what : String), ∃ k, IsLeast (f.gaps what) k ∧ k ≤ f.toList.length ∧
      (∀ es, f.Ranks what 0 es ↔ es = f.ranked what) ∧
      f.ranked what = (List.range k).map (f.rankEntry what)) ∧
    (∀ f k, (factsOf .hotPcSummary lines).getLast? = some f → IsLeast (f.gaps "pc") k →
      (ofLines config path lines).hotPcs = f.hotspots "pc" (min k config.hotspotLimit)) ∧
    (∀ f k, (factsOf .hotInstSummary lines).getLast? = some f → IsLeast (f.gaps "inst") k →
      (ofLines config path lines).hotInsts = f.hotspots "inst" (min k config.hotspotLimit)) := by
  refine ⟨fun f what => ?_, fun f k hlast hk => ?_, fun f k hlast hk => ?_⟩
  · obtain ⟨k, hk⟩ := f.exists_isLeast_gaps what
    have hranked := Facts.ranked_eq hk
    refine ⟨k, hk, ?_, fun es => ?_, ?_⟩
    · exact Facts.le_length_of_given fun i hi => Facts.not_mem_gaps_of_lt hk hi
    · rw [hranked]
      exact Facts.ranks_iff hk (Nat.zero_le k)
    · rw [hranked, f.entriesBelow_zero]
  · rw [← Hotspot.take_ofFacts hk]
    exact Trace.hotPcs_ofLines config hlast
  · rw [← Hotspot.take_ofFacts hk]
    exact Trace.hotInsts_ofLines config hlast

/-! ### A ranking with a gap -/

/-- A log that ranks addresses twice, the second time without a rank 2, and instruction words
without a rank 0. -/
def rankedLog : List String := [
  "[hotpcm] rank0_pc=0x40 rank0_count=9",
  "[commit] cycle=7 slot=0 pc=0x40 inst=0x13",
  "[hotpcm] rank0_pc=0x10 rank0_count=123 rank1_pc=0x20 rank3_pc=0x40 rank3_count=1",
  "[hotinstm] rank1_inst=0x13 rank1_count=5"]

/-- The facts on the last line of the log that ranks addresses. -/
def rankedPcs : Facts := Facts.read
  " rank0_pc=0x10 rank0_count=123 rank1_pc=0x20 rank3_pc=0x40 rank3_count=1".toList

/-- The facts on the line of the log that ranks instruction words. -/
def rankedInsts : Facts := Facts.read " rank1_inst=0x13 rank1_count=5".toList

/-- The second of the two ranked addresses has no count, the address behind the gap is left out,
and so is every instruction word. -/
theorem hotspots_rankedLog :
    (factsOf .hotPcSummary rankedLog).getLast? = some rankedPcs ∧
      IsLeast (rankedPcs.gaps "pc") 2 ∧
      (factsOf .hotInstSummary rankedLog).getLast? = some rankedInsts ∧
      IsLeast (rankedInsts.gaps "inst") 0 ∧
      (ofLines {} "run.log" rankedLog).hotPcs = [⟨0x10, 123⟩, ⟨0x20, 0⟩] ∧
      (ofLines {} "run.log" rankedLog).hotInsts = [] := by
  have hlast : (factsOf .hotPcSummary rankedLog).getLast? = some rankedPcs ∧
      (factsOf .hotInstSummary rankedLog).getLast? = some rankedInsts := by
    decide +kernel
  have hgap : (∀ x ∈ rankedPcs.occurrences, x.key ≠ Facts.rankKey "pc" 2) ∧
      (∀ i < 2, Facts.rankKey "pc" i ∈ rankedPcs.occurrences.map Fact.key) ∧
      ∀ x ∈ rankedInsts.occurrences, x.key ≠ Facts.rankKey "inst" 0 := by
    decide +kernel
  have hpcs : IsLeast (rankedPcs.gaps "pc") 2 := by
    refine ⟨hgap.1, fun i hi => ?_⟩
    by_contra hlt
    exact Facts.not_mem_gaps_iff.mpr (hgap.2.1 i (by omega)) hi
  have hinsts : IsLeast (rankedInsts.gaps "inst") 0 := ⟨hgap.2.2, fun i _ => Nat.zero_le i⟩
  obtain ⟨-, hhotPcs, hhotInsts⟩ := hotspots_upToGap {} "run.log" rankedLog
  refine ⟨hlast.1, hpcs, hlast.2, hinsts, ?_, hhotInsts rankedInsts 0 hlast.2 hinsts⟩
  rw [hhotPcs rankedPcs 2 hlast.1 hpcs]
  decide +kernel

end RunSummary

end PipelineProfile
