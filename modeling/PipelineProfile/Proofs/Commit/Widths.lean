import Mathlib.Data.Finset.Card
import PipelineProfile.Proofs.Tally.Entries
import PipelineProfile.Proofs.Trace.Sources

/-!
# The histogram of commit widths

The width of a cycle is how many instructions retired in it.  Without a histogram from the
simulator the widths are counted from the commit lines, which may come in any order: first how
many lines there are for each cycle, then how many cycles there are for each width.  The cycles in
which nothing retired have no lines, so their number is what is left of the length of the run.

`CommitWidths.AccountsFor` says that such a histogram loses no commit line and no cycle and adds
none.  It is said about the lines themselves: `Commit.lineCycle?` is the cycle on a commit line,
`busyCycles` are the cycles with such a line, and `widthOf` is how many lines a cycle has.

The proof goes through the two countings.  The widths of the busy cycles are the counts of the
first tally (`widths_perCycle`), so the second one counts cycles by their width.  Setting the
entry for width zero and filling up with zeros leave all other counts alone (`count?_fill`,
`sumBy_fill`).  The main result is `commitWidths_accountFor`.
-/

namespace PipelineProfile

/-! ## What the lines say -/

/-- The cycle on a text, if it is a commit line with all four facts. -/
def Commit.lineCycle? (text : String) : Option Nat :=
  ((Line.read text).facts? .commit).bind fun f => if f.hasCommit then f.num? "cycle" else none

/-- The cycles in which instructions retired. -/
def busyCycles (lines : List String) : Finset Nat :=
  (lines.filterMap Commit.lineCycle?).toFinset

/-- How many instructions retired in a cycle. -/
def widthOf (lines : List String) (cycle : Nat) : Nat :=
  lines.countP fun text => Commit.lineCycle? text = some cycle

/-- A histogram of commit widths accounts for all commit lines and all cycles of a run. -/
structure CommitWidths.AccountsFor (buckets cycles : Nat) (lines : List String)
    (hist : Tally Nat) : Prop where
  /-- The widths of all cycles together are the commit lines. -/
  commits : hist.sumBy (fun w n => w * n) =
    lines.countP fun text => (Commit.lineCycle? text).isSome
  /-- Each cycle in which something retired counts once. -/
  busy : hist.sumBy (fun w n => if 1 ≤ w then n else 0) = (busyCycles lines).card
  idle : hist.count? 0 =
    some (if (busyCycles lines).card ≤ cycles then cycles - (busyCycles lines).card else 0)
  count : ∀ w, 1 ≤ w →
    hist.count w = ((busyCycles lines).filter fun cycle => widthOf lines cycle = w).card
  /-- There is an entry for every width that occurs, for zero and for the first widths, and there
  are no others. -/
  keys : ∀ w, (hist.count? w).isSome = true ↔
    w = 0 ∨ w < buckets ∨ ∃ cycle ∈ busyCycles lines, widthOf lines cycle = w

namespace Trace

lemma map_cycle_commits_ofLines (lines : List String) :
    (ofLines lines).commits.map Commit.cycle = lines.filterMap Commit.lineCycle? :=
  map_commits_ofLines (fun _ => Commit.map_ofFacts? fun _ hc => (Commit.num?_of_ofFacts? hc).1) lines

end Trace

lemma count_filterMap_lineCycle? (lines : List String) (cycle : Nat) :
    (lines.filterMap Commit.lineCycle?).count cycle = widthOf lines cycle := by
  rw [List.count_filterMap, widthOf]
  exact List.countP_congr fun text _ => by simp

lemma one_le_widthOf {lines : List String} {cycle : Nat} (h : cycle ∈ busyCycles lines) :
    1 ≤ widthOf lines cycle := by
  rw [← count_filterMap_lineCycle?]
  exact List.count_pos_iff.mpr (List.mem_toFinset.mp h)

namespace CommitWidths

/-! ## Filling up -/

section Fill

variable (hist : Tally Nat) (ws : List Nat)

lemma count?_foldl_insertNew (w : Nat) :
    (ws.foldl (fun t w => t.insertNew w 0) hist).count? w =
      if w ∈ ws then some (hist.count w) else hist.count? w := by
  induction ws generalizing hist with
  | nil => simp
  | cons v ws ih =>
    rw [List.foldl_cons, ih, Tally.count, Tally.count?_insertNew, Tally.count]
    by_cases hv : w = v
    · subst hv
      simp
    · simp [hv]

lemma count?_fill (buckets w : Nat) :
    (fill buckets hist).count? w =
      if w < buckets then some (hist.count w) else hist.count? w := by
  rw [fill, count?_foldl_insertNew]
  simp only [List.mem_range]

lemma sumBy_fill {g : Nat → Nat → Nat} (hg : ∀ w, g w 0 = 0) (buckets : Nat) :
    (fill buckets hist).sumBy g = hist.sumBy g := by
  unfold fill
  generalize List.range buckets = ws
  induction ws generalizing hist with
  | nil => rfl
  | cons w ws ih => rw [List.foldl_cons, ih, Tally.sumBy_insertNew_zero hg]

/-! The entry for width zero is set first.  The lemmas below say what that and filling up together
do to a histogram. -/

lemma count?_fill_insert_zero (buckets idle : Nat) :
    (fill buckets (hist.insert 0 idle)).count? 0 = some idle := by
  rw [count?_fill, Tally.count, Tally.count?_insert, if_pos rfl, Option.getD_some, ite_self]

lemma count_fill_insert (buckets idle : Nat) {w : Nat} (hw : 1 ≤ w) :
    (fill buckets (hist.insert 0 idle)).count w = hist.count w := by
  have hne : w ≠ 0 := by omega
  rw [Tally.count, count?_fill, Tally.count, Tally.count?_insert, if_neg hne]
  split
  · rfl
  · rfl

lemma isSome_count?_fill_insert (buckets idle w : Nat) :
    ((fill buckets (hist.insert 0 idle)).count? w).isSome = true ↔
      w = 0 ∨ w < buckets ∨ (hist.count? w).isSome = true := by
  rw [count?_fill, Tally.count?_insert]
  by_cases hw : w = 0
  · rw [if_pos hw]
    split
    · simp [hw]
    · simp [hw]
  · by_cases hb : w < buckets
    · simp [hb]
    · simp [hw, hb]

lemma sumBy_fill_insert {g : Nat → Nat → Nat} (hg : ∀ w, g w 0 = 0) (hzero : ∀ n, g 0 n = 0)
    (buckets idle : Nat) : (fill buckets (hist.insert 0 idle)).sumBy g = hist.sumBy g := by
  rw [sumBy_fill _ hg, Tally.sumBy_insert_of_eq_zero (hzero idle) fun n _ => hzero n]

end Fill

/-! ## The widths of the busy cycles -/

section Widths

variable {cs : List Commit} {lines : List String}
  (hcs : cs.map Commit.cycle = lines.filterMap Commit.lineCycle?)

include hcs

/-- The counts by cycle are the widths of the busy cycles. -/
lemma widths_perCycle :
    (perCycle cs).entries.map Prod.snd = (perCycle cs).keys.map (widthOf lines) := by
  rw [perCycle, hcs, Tally.entries_ofKeys, List.map_map]
  exact List.map_congr_left fun cycle _ => count_filterMap_lineCycle? lines cycle

lemma mem_keys_perCycle {cycle : Nat} : cycle ∈ (perCycle cs).keys ↔ cycle ∈ busyCycles lines := by
  rw [perCycle, hcs, Tally.mem_keys_ofKeys, busyCycles, List.mem_toFinset]

lemma countP_keys_perCycle (p : Nat → Bool) :
    (perCycle cs).keys.countP p = ((busyCycles lines).filter fun cycle => p cycle = true).card := by
  rw [perCycle, hcs, Tally.countP_keys_ofKeys, busyCycles]

lemma length_keys_perCycle : (perCycle cs).keys.length = (busyCycles lines).card := by
  have hcount := countP_keys_perCycle hcs fun _ => true
  rw [List.countP_true, Finset.filter_true_of_mem fun _ _ => rfl] at hcount
  exact hcount

lemma sum_widths : ((perCycle cs).keys.map (widthOf lines)).sum = cs.length := by
  rw [← widths_perCycle hcs]
  exact (Tally.total_ofKeys _).trans (List.length_map _)

/-- Below the bound no width is cut, so the histogram counts the widths of the busy cycles. -/
lemma ofCommits_eq (hbound : ∀ cycle, widthOf lines cycle < UInt32.size) (cycles : Nat) :
    ofCommits cs cycles =
      (Tally.ofKeys ((perCycle cs).keys.map (widthOf lines))).insert 0
        (cycles - (busyCycles lines).card) := by
  unfold ofCommits
  dsimp only
  rw [widths_perCycle hcs, List.length_map, length_keys_perCycle hcs, List.map_map]
  congr 2
  exact List.map_congr_left fun cycle _ => Nat.mod_eq_of_lt (hbound cycle)

end Widths

/-! ## The histogram -/

/-- A histogram that is counted from commit lines accounts for all of them. -/
lemma accountsFor_ofCommits {cs : List Commit} {lines : List String}
    (hcs : cs.map Commit.cycle = lines.filterMap Commit.lineCycle?)
    (hbound : ∀ cycle, widthOf lines cycle < UInt32.size) (buckets cycles : Nat) :
    AccountsFor buckets cycles lines (fill buckets (ofCommits cs cycles)) := by
  rw [ofCommits_eq hcs hbound]
  have hcycle {cycle : Nat} : cycle ∈ (perCycle cs).keys ↔ cycle ∈ busyCycles lines :=
    mem_keys_perCycle hcs
  exact {
    commits := by
      rw [sumBy_fill_insert _ Nat.mul_zero Nat.zero_mul,
        Tally.sumBy_ofKeys _ fun w => w, List.map_id', sum_widths hcs,
        ← List.length_map Commit.cycle, hcs, List.length_filterMap_eq_countP]
    busy := by
      -- No busy cycle has width zero, so all of them count.
      have hall : ∀ w ∈ (perCycle cs).keys.map (widthOf lines), decide (1 ≤ w) = true := by
        intro w hw
        obtain ⟨cycle, hmem, rfl⟩ := List.mem_map.mp hw
        exact decide_eq_true (one_le_widthOf (hcycle.mp hmem))
      rw [sumBy_fill_insert _ (by simp) (by simp), Tally.sumBy_ofKeys_ite,
        List.countP_eq_length.mpr hall, List.length_map, length_keys_perCycle hcs]
    idle := by
      rw [count?_fill_insert_zero]
      split
      · rfl
      · next hlt => rw [Nat.sub_eq_zero_of_le (by omega)]
    count := by
      intro w hw
      rw [count_fill_insert _ _ _ hw, Tally.count_ofKeys, List.count, List.countP_map,
        countP_keys_perCycle hcs]
      simp
    keys := by
      intro w
      rw [isSome_count?_fill_insert, Tally.isSome_count?_iff, Tally.mem_keys_ofKeys,
        List.mem_map]
      simp only [hcycle] }

end CommitWidths

namespace RunSummary

/-- **The histogram of commit widths accounts for every commit and every cycle.**  If the
simulator gives no histogram, the widths of all cycles together are the commit lines that have all
their facts, every cycle with such a line counts under its width, and the rest of the run counts
under width zero, as far as there is a rest. -/
theorem commitWidths_accountFor (config : Config) (path : String) {lines : List String}
    (hnone : linesOf (.tagged .commitSummary) lines = [])
    (hbound : ∀ cycle, widthOf lines cycle < UInt32.size) :
    CommitWidths.AccountsFor config.minWidthBuckets (ofLines config path lines).totals.cycles lines
      (ofLines config path lines).commitWidths := by
  have hlast := Trace.last?_ofLines_eq_none Event.shows_commitSummary? rfl hnone
  simp only [ofLines, ofTrace, Trace.commitWidths, Trace.totals, hlast]
  exact CommitWidths.accountsFor_ofCommits (Trace.map_cycle_commits_ofLines lines) hbound _ _

/-! ### The widths of one log -/

/-- A log with two commits in cycle 7 and one in cycle 3, out of order, and one that lacks its
address and its word. -/
def commitLog : List String := [
  "[commit] cycle=7 slot=0 pc=0 inst=19",
  "[commit] cycle=3 slot=0 pc=4 inst=19",
  "[commit] cycle=9 slot=0",
  "[commit] cycle=7 slot=1 pc=8 inst=19",
  "TIMEOUT after 9 cycles"]

/-- The three commits of the log are in two of its nine cycles. -/
theorem commitWidths_commitLog :
    linesOf (.tagged .commitSummary) commitLog = [] ∧
      (∀ cycle, widthOf commitLog cycle < UInt32.size) ∧
      (ofLines {} "run.log" commitLog).commitWidths.sumBy (fun w n => w * n) = 3 ∧
      (ofLines {} "run.log" commitLog).commitWidths.count? 0 = some 7 ∧
      (ofLines {} "run.log" commitLog).commitWidths.count 2 = 1 := by
  have hlines : linesOf (.tagged .commitSummary) commitLog = [] ∧
      (commitLog.countP fun text => (Commit.lineCycle? text).isSome) = 3 ∧
      (ofLines {} "run.log" commitLog).totals.cycles = 9 ∧ (busyCycles commitLog).card = 2 ∧
      ((busyCycles commitLog).filter fun cycle => widthOf commitLog cycle = 2).card = 1 := by
    decide
  obtain ⟨hnone, hcommits, hcycles, hbusy, hpairs⟩ := hlines
  have hbound : ∀ cycle, widthOf commitLog cycle < UInt32.size := fun cycle =>
    List.countP_le_length.trans_lt (by decide)
  have haccount := commitWidths_accountFor {} "run.log" hnone hbound
  refine ⟨hnone, hbound, haccount.commits.trans hcommits, ?_,
    (haccount.count 2 (by decide)).trans hpairs⟩
  rw [haccount.idle, hcycles, hbusy]
  decide

end RunSummary

end PipelineProfile
