/-!
# Tallies

A tally is a finite map from keys to counts that is listed in ascending order of its keys: a
histogram, the hits of each address, or the counts of a breakdown under their labels. The order
is part of the type, so two tallies with the same counts are the same tally, however they came
about. An entry with the count zero is still an entry.

`Tally.ofKeys` counts how often each key occurs in a list. `Tally.ofPairs` takes counts that
were given key by key, the last one counting where a key is given twice. `Tally.insert` and
`Tally.insertNew` set one count, the latter only where there is none, and `Tally.top` lists the
largest counts first.
-/

namespace PipelineProfile

/-- Counts under keys, in ascending order of the keys. -/
structure Tally (κ : Type) [Ord κ] where
  /-- The keys with their counts. -/
  entries : List (κ × Nat)
  /-- The keys ascend. -/
  ascending : entries.Pairwise fun a b => compare a.1 b.1 = .lt

namespace Tally

variable {κ : Type} [Ord κ]

/-- The tally without entries. -/
def empty : Tally κ := ⟨[], .nil⟩

instance : Inhabited (Tally κ) := ⟨empty⟩

/-! ## Looking up -/

/-- The count under a key, if the key has an entry. -/
def count? [DecidableEq κ] (t : Tally κ) (k : κ) : Option Nat :=
  (t.entries.find? fun e => e.1 = k).map Prod.snd

/-- The count under a key, zero if the key has no entry. -/
def count [DecidableEq κ] (t : Tally κ) (k : κ) : Nat := (t.count? k).getD 0

/-- Whether there is no entry. -/
def isEmpty (t : Tally κ) : Bool := t.entries.isEmpty

/-! ## One step on a list of entries -/

/-- Put a count under a key into an ascending list, in place of the one that is there. -/
def insertEntry (k : κ) (n : Nat) : List (κ × Nat) → List (κ × Nat)
  | [] => [(k, n)]
  | e :: es =>
    match compare k e.1 with
    | .lt => (k, n) :: e :: es
    | .eq => (k, n) :: es
    | .gt => e :: insertEntry k n es

/-- The keys after an insertion are the keys before it and the inserted one. -/
theorem key_of_mem_insertEntry {k : κ} {n : Nat} {es : List (κ × Nat)} {e : κ × Nat}
    (h : e ∈ insertEntry k n es) : e.1 = k ∨ e ∈ es := by
  induction es with
  | nil =>
    left
    rw [insertEntry, List.mem_singleton] at h
    rw [h]
  | cons f es ih =>
    rw [insertEntry] at h
    split at h
    · rcases List.mem_cons.mp h with rfl | h
      · exact .inl rfl
      · exact .inr h
    · rcases List.mem_cons.mp h with rfl | h
      · exact .inl rfl
      · exact .inr (List.mem_cons_of_mem f h)
    · rcases List.mem_cons.mp h with rfl | h
      · exact .inr (List.mem_cons_self ..)
      · exact (ih h).imp id (List.mem_cons_of_mem f)

/-- Count one more occurrence of a key at the front of an ascending list of counts. -/
def pushKey (k : κ) : List (κ × Nat) → List (κ × Nat)
  | [] => [(k, 1)]
  | e :: es => if compare k e.1 = .eq then (k, e.2 + 1) :: es else (k, 1) :: e :: es

/-- The keys after a push are the key pushed and the keys before it. -/
theorem key_of_mem_pushKey {k : κ} {es : List (κ × Nat)} {e : κ × Nat} (h : e ∈ pushKey k es) :
    e.1 = k ∨ e ∈ es := by
  cases es with
  | nil =>
    left
    rw [pushKey, List.mem_singleton] at h
    rw [h]
  | cons f es =>
    rw [pushKey] at h
    split at h
    · rcases List.mem_cons.mp h with rfl | h
      · exact .inl rfl
      · exact .inr (List.mem_cons_of_mem f h)
    · rcases List.mem_cons.mp h with rfl | h
      · exact .inl rfl
      · exact .inr h

/-- Every counted key occurs in the list. -/
theorem key_mem_of_mem_foldr_pushKey {ks : List κ} {e : κ × Nat}
    (h : e ∈ ks.foldr pushKey []) : e.1 ∈ ks := by
  induction ks with
  | nil => simp at h
  | cons k ks ih =>
    rcases key_of_mem_pushKey h with hk | h
    · rw [hk]; exact List.mem_cons_self ..
    · exact List.mem_cons_of_mem k (ih h)

variable [Std.TransOrd κ]

/-! ## Setting one count -/

/-- An insertion keeps the keys ascending. -/
theorem ascending_insertEntry {k : κ} {n : Nat} {es : List (κ × Nat)}
    (h : es.Pairwise fun a b => compare a.1 b.1 = .lt) :
    (insertEntry k n es).Pairwise fun a b => compare a.1 b.1 = .lt := by
  induction es with
  | nil => simp [insertEntry]
  | cons e es ih =>
    obtain ⟨he, hes⟩ := List.pairwise_cons.mp h
    rw [insertEntry]
    split
    · next hlt =>
      refine List.pairwise_cons.mpr ⟨fun f hf => ?_, h⟩
      rcases List.mem_cons.mp hf with rfl | hf
      · exact hlt
      · exact Std.TransCmp.lt_trans hlt (he f hf)
    · next heq =>
      exact List.pairwise_cons.mpr
        ⟨fun f hf => Std.TransCmp.lt_of_eq_of_lt heq (he f hf), hes⟩
    · next hgt =>
      refine List.pairwise_cons.mpr ⟨fun f hf => ?_, ih hes⟩
      rcases key_of_mem_insertEntry hf with hk | hf
      · rw [hk]; exact Std.OrientedCmp.lt_of_gt hgt
      · exact he f hf

/-- The tally with the count `n` under `k`. -/
def insert (t : Tally κ) (k : κ) (n : Nat) : Tally κ :=
  ⟨insertEntry k n t.entries, ascending_insertEntry t.ascending⟩

/-- The tally with the count `n` under `k`, unless `k` has an entry. -/
def insertNew [DecidableEq κ] (t : Tally κ) (k : κ) (n : Nat) : Tally κ :=
  if (t.count? k).isSome then t else t.insert k n

/-- The counts of a list of keys with their counts; of several counts under one key, the last. -/
def ofPairs (es : List (κ × Nat)) : Tally κ :=
  es.foldl (fun t e => t.insert e.1 e.2) empty

/-! ## Counting occurrences -/

/-- The counts of an ascending list of keys ascend strictly. -/
theorem ascending_foldr_pushKey {ks : List κ} (h : ks.Pairwise fun a b => (compare a b).isLE) :
    (ks.foldr pushKey []).Pairwise fun a b => compare a.1 b.1 = .lt := by
  induction ks with
  | nil => exact .nil
  | cons k ks ih =>
    obtain ⟨hk, hks⟩ := List.pairwise_cons.mp h
    have hle : ∀ f ∈ ks.foldr pushKey [], (compare k f.1).isLE := fun f hf =>
      hk _ (key_mem_of_mem_foldr_pushKey hf)
    have hasc := ih hks
    rw [List.foldr_cons]
    generalize ks.foldr pushKey [] = es at hle hasc
    cases es with
    | nil => simp [pushKey]
    | cons e es =>
      obtain ⟨he, hes⟩ := List.pairwise_cons.mp hasc
      rw [pushKey]
      split
      · next heq =>
        exact List.pairwise_cons.mpr
          ⟨fun f hf => Std.TransCmp.lt_of_eq_of_lt heq (he f hf), hes⟩
      · next hne =>
        have hlt : compare k e.1 = .lt := by
          have := hle e (List.mem_cons_self ..)
          cases hc : compare k e.1 <;> simp_all
        refine List.pairwise_cons.mpr ⟨fun f hf => ?_, hasc⟩
        rcases List.mem_cons.mp hf with rfl | hf
        · exact hlt
        · exact Std.TransCmp.lt_trans hlt (he f hf)

/-- Sorting puts a list of keys in ascending order. -/
theorem ascending_mergeSort (ks : List κ) :
    (ks.mergeSort fun a b => (compare a b).isLE).Pairwise fun a b => (compare a b).isLE := by
  refine @List.pairwise_mergeSort κ (fun a b => (compare a b).isLE) ?_ ?_ ks
  · exact fun a b c hab hbc => Std.TransCmp.isLE_trans hab hbc
  · intro a b
    have hswap : compare b a = (compare a b).swap := Std.OrientedCmp.eq_swap
    rw [hswap]
    cases compare a b <;> rfl

/-- How often each key of a list occurs. -/
def ofKeys (ks : List κ) : Tally κ :=
  ⟨(ks.mergeSort fun a b => (compare a b).isLE).foldr pushKey [],
    ascending_foldr_pushKey (ascending_mergeSort ks)⟩

/-! ## Largest first -/

/-- The order of a ranking: larger counts first, equal counts in the order of their keys. -/
def ranksBefore (a b : κ × Nat) : Bool :=
  b.2 < a.2 || (b.2 == a.2 && (compare a.1 b.1).isLE)

/-- All entries, largest count first. -/
def ranking (t : Tally κ) : List (κ × Nat) := t.entries.mergeSort ranksBefore

/-- The `limit` entries with the largest counts. -/
def top (t : Tally κ) (limit : Nat) : List (κ × Nat) := t.ranking.take limit

end Tally

end PipelineProfile
