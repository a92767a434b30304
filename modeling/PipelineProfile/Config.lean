/-!
# Settings of a profile

The numbers that a user may choose. The defaults match the simulator that writes the traces.
-/

namespace PipelineProfile

/-- The settings of a profile. -/
structure Config where
  /-- A sample of a blocked decode belongs to a flush up to so many cycles before it. -/
  postFlushWindow : Nat := 16
  /-- From so many pending sources on, rename counts as full. -/
  replayFullLanes : Nat := 4
  /-- How many addresses and instructions are listed as hot. -/
  hotspotLimit : Nat := 10
  /-- The histogram of commit widths has an entry for every width below this. -/
  minWidthBuckets : Nat := 5
  /-- How many occupancies of the fetch queue are told apart in samples. -/
  fetchQueueBins : Nat := 16
  deriving DecidableEq, Repr

end PipelineProfile
