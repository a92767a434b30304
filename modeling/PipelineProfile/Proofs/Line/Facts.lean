import Mathlib.Data.List.Basic
import PipelineProfile.Line.Facts

/-!
# The facts that count

A line may give a key more than once, and then the last value counts.  `Facts.toList` lists the
facts that count: their keys are those that the line gives, in the order in which they are first
given (`map_key_toList`), and each of them once (`nodup_keys_toList`).
-/

namespace PipelineProfile

lemma nodup_eraseDups {α : Type} [BEq α] [LawfulBEq α] (l : List α) : l.eraseDups.Nodup := by
  induction hn : l.length using Nat.strongRecOn generalizing l with
  | ind n ih =>
    cases l with
    | nil => exact List.nodup_nil
    | cons a l =>
      rw [List.eraseDups_cons, List.nodup_cons]
      refine ⟨by simp, ih _ ?_ _ rfl⟩
      rw [← hn, List.length_cons]
      exact Nat.lt_succ_of_le (List.length_filter_le ..)

namespace Facts

variable {f : Facts} {key : String}

lemma key_of_last? {x : Fact} (h : f.last? key = some x) : x.key = key := by
  simpa using List.find?_some h

lemma isSome_last?_iff : (f.last? key).isSome = true ↔ key ∈ f.occurrences.map Fact.key := by
  simp [last?]

lemma map_key_toList (f : Facts) :
    f.toList.map Fact.key = (f.occurrences.map Fact.key).eraseDups := by
  rw [toList, List.map_filterMap]
  have hself : ∀ key ∈ (f.occurrences.map Fact.key).eraseDups,
      (f.last? key).map Fact.key = some key := by
    intro key hkey
    obtain ⟨x, hx⟩ := Option.isSome_iff_exists.mp (isSome_last?_iff.mpr (List.mem_eraseDups.mp hkey))
    rw [hx, Option.map_some, key_of_last? hx]
  rw [List.filterMap_congr hself, List.filterMap_some]

lemma nodup_keys_toList (f : Facts) : (f.toList.map Fact.key).Nodup := by
  rw [map_key_toList]
  exact nodup_eraseDups _

end Facts

end PipelineProfile
