import PipelineProfile.Commit.Record
import PipelineProfile.Tally

/-!
# Activity of the commit stage

Two figures that say how busy the commit stage was and with what: the histogram of commit
widths, which tells in how many cycles so many instructions retired, and the hotspots, the
addresses and instruction words that retired most often.
-/

namespace PipelineProfile

/-- A word with the number of times it retired. -/
structure Hotspot where
  word : Nat
  count : Nat
  deriving DecidableEq, Repr

namespace Hotspot

/-- The word as it is written. -/
def text (h : Hotspot) : String := Numeral.word h.word

/-- The `limit` words of a list that occur most often. -/
def top (ws : List UInt32) (limit : Nat) : List Hotspot :=
  ((Tally.ofKeys ws).top limit).map fun e => ⟨e.1.toNat, e.2⟩

/-- The ranking of `what` that the facts of a summary line report. -/
def ofFacts (what : String) (f : Facts) : List Hotspot :=
  (f.ranked what).map fun e => ⟨e.1, e.2⟩

end Hotspot

namespace CommitWidths

/-- How many instructions retired in each cycle in which any did. -/
def perCycle (cs : List Commit) : Tally Nat := Tally.ofKeys (cs.map Commit.cycle)

/-- In how many of the given cycles so many instructions retired. The cycles in which none did
are those that are left. Widths are 32-bit numbers, and a greater one is cut. -/
def ofCommits (cs : List Commit) (cycles : Nat) : Tally Nat :=
  let widths := (perCycle cs).entries.map Prod.snd
  (Tally.ofKeys (widths.map fun w => w % UInt32.size)).insert 0 (cycles - widths.length)

/-- The histogram with an entry for every width below `buckets`. -/
def fill (buckets : Nat) (hist : Tally Nat) : Tally Nat :=
  (List.range buckets).foldl (fun t w => t.insertNew w 0) hist

end CommitWidths

end PipelineProfile
