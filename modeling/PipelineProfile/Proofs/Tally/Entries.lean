import Mathlib.Data.Finset.Card
import PipelineProfile.Proofs.Tally.Counting

/-!
# The entries of a tally

The keys of a tally ascend strictly, so a key has at most one entry and looking it up finds that
one (`count?_eq_some_iff`).  Setting a count puts one entry in the place of what was there under
the same key: up to order, the entries are then the new one and those under other keys
(`entries_insert_perm`).  What an insertion does to a look-up (`count?_insert`,
`count?_insertNew`) and to a sum over all entries (`sumBy_insert_of_eq_zero`) is read off that.

The entries of a tally of occurrences are the keys that occur, each with how often it does
(`entries_ofKeys`), so a sum over them is a sum over the occurrences (`sumBy_ofKeys`).

A ranking has the same entries in another order, which is total and strict because no key has two
entries (`pairwise_ranking`).
-/

namespace PipelineProfile

namespace Tally

variable {κ : Type} [Ord κ]

/-- The sum of what `g` gives for the entries. -/
def sumBy (g : κ → Nat → Nat) (t : Tally κ) : Nat := (t.entries.map fun e => g e.1 e.2).sum

/-- The keys that have an entry. -/
def keys (t : Tally κ) : List κ := t.entries.map Prod.fst

/-! ## One entry for each key -/

variable [Std.LawfulEqOrd κ]

lemma ne_of_compare_lt {a b : κ} (h : compare a b = .lt) : a ≠ b := by
  rintro rfl
  rw [Std.ReflOrd.compare_self] at h
  cases h

lemma nodup_keys (t : Tally κ) : t.keys.Nodup := by
  rw [List.Nodup, keys, List.pairwise_map]
  exact t.ascending.imp ne_of_compare_lt

/-- Looking a key up finds its entry. -/
lemma count?_eq_some_iff [DecidableEq κ] {t : Tally κ} {k : κ} {n : Nat} :
    t.count? k = some n ↔ (k, n) ∈ t.entries := by
  obtain ⟨es, hes⟩ := t
  unfold count?
  dsimp only
  induction es with
  | nil => simp
  | cons e es ih =>
    obtain ⟨he, hes⟩ := List.pairwise_cons.mp hes
    by_cases hk : e.1 = k
    · -- No later entry has the key.
      have hnot : (k, n) ∉ es := fun hmem => ne_of_compare_lt (he _ hmem) hk
      obtain ⟨l, m⟩ := e
      obtain rfl : l = k := hk
      simp [hnot, eq_comm]
    · have hne : (k, n) ≠ e := fun heq => hk (by rw [← heq])
      simp only [List.find?_cons, hk, decide_false, List.mem_cons, hne, false_or]
      exact ih hes

lemma isSome_count?_iff [DecidableEq κ] {t : Tally κ} {k : κ} :
    (t.count? k).isSome = true ↔ k ∈ t.keys := by
  rw [Option.isSome_iff_exists, keys, List.mem_map]
  simp only [count?_eq_some_iff]
  constructor
  · rintro ⟨n, hn⟩
    exact ⟨(k, n), hn, rfl⟩
  · rintro ⟨⟨l, n⟩, hn, rfl⟩
    exact ⟨n, hn⟩

/-! ## Setting one count -/

variable [Std.TransOrd κ]

section Insertion

variable [DecidableEq κ]

/-- An insertion puts the new entry in the place of what was under the key. -/
lemma insertEntry_perm {k : κ} {n : Nat} {es : List (κ × Nat)}
    (h : es.Pairwise fun a b => compare a.1 b.1 = .lt) :
    (insertEntry k n es).Perm ((k, n) :: es.filter fun e => e.1 ≠ k) := by
  induction es with
  | nil => exact .refl _
  | cons e es ih =>
    obtain ⟨he, hes⟩ := List.pairwise_cons.mp h
    rw [insertEntry]
    split
    · next hlt =>
      -- The key comes before all others, so nothing is filtered out.
      have hall : ∀ f ∈ e :: es, decide (f.1 ≠ k) = true := by
        intro f hf
        have hkf : compare k f.1 = .lt := by
          rcases List.mem_cons.mp hf with rfl | hf
          · exact hlt
          · exact Std.TransCmp.lt_trans hlt (he f hf)
        simpa using (ne_of_compare_lt hkf).symm
      rw [List.filter_eq_self.mpr hall]
    · next heq =>
      obtain rfl : k = e.1 := Std.LawfulEqOrd.eq_of_compare heq
      have hall : ∀ f ∈ es, decide (f.1 ≠ e.1) = true := by
        intro f hf
        simpa using (ne_of_compare_lt (he f hf)).symm
      rw [List.filter_cons_of_neg (by simp), List.filter_eq_self.mpr hall]
    · next hgt =>
      have hne : e.1 ≠ k := ne_of_compare_lt (Std.OrientedCmp.lt_of_gt hgt)
      rw [List.filter_cons_of_pos (by simpa using hne)]
      exact ((ih hes).cons e).trans (.swap ..)

lemma entries_insert_perm (t : Tally κ) (k : κ) (n : Nat) :
    (t.insert k n).entries.Perm ((k, n) :: t.entries.filter fun e => e.1 ≠ k) :=
  insertEntry_perm t.ascending

lemma count?_insert (t : Tally κ) (k l : κ) (n : Nat) :
    (t.insert k n).count? l = if l = k then some n else t.count? l := by
  ext m
  rw [count?_eq_some_iff, (entries_insert_perm t k n).mem_iff, List.mem_cons, List.mem_filter]
  by_cases hl : l = k
  · simp [hl, eq_comm]
  · simp [hl, count?_eq_some_iff]

lemma count?_insertNew (t : Tally κ) (k l : κ) (n : Nat) :
    (t.insertNew k n).count? l = if l = k then some ((t.count? k).getD n) else t.count? l := by
  unfold insertNew
  cases hk : t.count? k with
  | some m =>
    rw [if_pos (by simp)]
    split
    · next hl => rw [hl, hk, Option.getD_some]
    · rfl
  | none => rw [if_neg (by simp), count?_insert, Option.getD_none]

/-- An insertion does not change a sum to which neither the new entry nor what it replaces adds
anything. -/
lemma sumBy_insert_of_eq_zero {g : κ → Nat → Nat} {t : Tally κ} {k : κ} {n : Nat}
    (hnew : g k n = 0) (hold : ∀ m, t.count? k = some m → g k m = 0) :
    (t.insert k n).sumBy g = t.sumBy g := by
  have hfilter : ∀ e ∈ t.entries, decide (e.1 ≠ k) = false → g e.1 e.2 = 0 := by
    rintro ⟨l, m⟩ hmem hl
    obtain rfl : l = k := by simpa using hl
    exact hold m (count?_eq_some_iff.mpr hmem)
  unfold sumBy
  rw [((entries_insert_perm t k n).map _).sum_nat, List.map_cons, List.sum_cons, hnew,
    Nat.zero_add, sum_map_filter hfilter]

lemma sumBy_insertNew_zero {g : κ → Nat → Nat} (hg : ∀ k, g k 0 = 0) (t : Tally κ) (k : κ) :
    (t.insertNew k 0).sumBy g = t.sumBy g := by
  unfold insertNew
  cases hk : t.count? k with
  | some m => rfl
  | none => exact sumBy_insert_of_eq_zero (hg k) fun m hm => by rw [hk] at hm; cases hm

end Insertion

/-! ## Tallies of occurrences -/

section Occurrences

variable (ks : List κ)

lemma mem_keys_ofKeys {k : κ} : k ∈ (ofKeys ks).keys ↔ k ∈ ks := by
  constructor
  · intro h
    obtain ⟨e, he, rfl⟩ := List.mem_map.mp h
    exact List.mem_mergeSort.mp (key_mem_of_mem_foldr_pushKey he)
  · intro h
    have hmem : k ∈ (ofKeys ks).expand := (expand_ofKeys_perm ks).mem_iff.mpr h
    obtain ⟨e, he, rfl⟩ := exists_entry_of_mem_expandEntries hmem
    exact List.mem_map_of_mem he

/-- A sum over the entries of a tally of occurrences is a sum over the occurrences. -/
lemma sumBy_ofKeys (f : κ → Nat) : (ofKeys ks).sumBy (fun k n => f k * n) = (ks.map f).sum := by
  have hexpand : ∀ es : List (κ × Nat),
      (es.map fun e => f e.1 * e.2).sum = ((expandEntries es).map f).sum := by
    intro es
    induction es with
    | nil => rfl
    | cons e es ih =>
      rw [List.map_cons, List.sum_cons, ih, expandEntries_cons, List.map_append, List.sum_append,
        List.map_replicate, List.sum_replicate_nat, Nat.mul_comm]
  rw [sumBy, hexpand]
  exact ((expand_ofKeys_perm ks).map f).sum_nat

/-- The counts of the keys of a kind together are the occurrences of that kind. -/
lemma sumBy_ofKeys_ite (p : κ → Prop) [DecidablePred p] :
    (ofKeys ks).sumBy (fun k n => if p k then n else 0) = ks.countP p := by
  have hmul : (fun (k : κ) (n : Nat) => if p k then n else 0) =
      fun k n => (if p k then 1 else 0) * n := by
    funext k n
    split
    · rw [Nat.one_mul]
    · rw [Nat.zero_mul]
  rw [hmul, sumBy_ofKeys, sum_map_ite]

variable [DecidableEq κ]

lemma count?_ofKeys (k : κ) :
    (ofKeys ks).count? k = if k ∈ ks then some (ks.count k) else none := by
  have hsome : ((ofKeys ks).count? k).isSome = true ↔ k ∈ ks := by
    rw [isSome_count?_iff, mem_keys_ofKeys]
  split
  · next hk =>
    obtain ⟨n, hn⟩ := Option.isSome_iff_exists.mp (hsome.mpr hk)
    have hcount := count_ofKeys ks k
    rw [count, hn, Option.getD_some] at hcount
    rw [hn, hcount]
  · next hk => exact Option.not_isSome_iff_eq_none.mp fun h => hk (hsome.mp h)

lemma toFinset_keys_ofKeys : (ofKeys ks).keys.toFinset = ks.toFinset := by
  ext k
  rw [List.mem_toFinset, List.mem_toFinset, mem_keys_ofKeys]

/-- The entries are the keys that occur, each with how often it does. -/
lemma entries_ofKeys : (ofKeys ks).entries = (ofKeys ks).keys.map fun k => (k, ks.count k) := by
  rw [keys, List.map_map]
  refine (List.map_id _).symm.trans (List.map_congr_left fun e he => ?_)
  have hcount : (ofKeys ks).count e.1 = e.2 := by
    rw [count, count?_eq_some_iff.mpr he, Option.getD_some]
  rw [count_ofKeys] at hcount
  rw [Function.comp_apply, hcount, id_eq]

/-- Among the keys that occur, those of a kind, one by one or as a set. -/
lemma countP_keys_ofKeys (p : κ → Bool) :
    (ofKeys ks).keys.countP p = (ks.toFinset.filter fun k => p k = true).card := by
  rw [List.countP_eq_length_filter, ← toFinset_keys_ofKeys, ← List.toFinset_filter,
    List.toFinset_card_of_nodup ((nodup_keys _).filter _)]

end Occurrences

/-! ## Rankings -/

/-- One entry comes before another in a ranking: its count is greater, or the counts are equal and
its key is less. -/
def Outranks (a b : κ × Nat) : Prop := b.2 < a.2 ∨ a.2 = b.2 ∧ compare a.1 b.1 = .lt

omit [Std.LawfulEqOrd κ] [Std.TransOrd κ] in
lemma ranksBefore_iff {a b : κ × Nat} :
    ranksBefore a b = true ↔ b.2 < a.2 ∨ a.2 = b.2 ∧ (compare a.1 b.1).isLE = true := by
  simp only [ranksBefore, Bool.or_eq_true, Bool.and_eq_true, decide_eq_true_eq, beq_iff_eq,
    eq_comm (a := b.2)]

omit [Std.LawfulEqOrd κ] in
lemma ranksBefore_trans {a b c : κ × Nat} (hab : ranksBefore a b = true)
    (hbc : ranksBefore b c = true) : ranksBefore a c = true := by
  rw [ranksBefore_iff] at hab hbc ⊢
  obtain hab | ⟨hab, hle⟩ := hab
  · left
    omega
  · obtain hbc | ⟨hbc, hle'⟩ := hbc
    · left
      omega
    · exact .inr ⟨hab.trans hbc, Std.TransCmp.isLE_trans hle hle'⟩

omit [Std.LawfulEqOrd κ] in
lemma ranksBefore_total (a b : κ × Nat) : (ranksBefore a b || ranksBefore b a) = true := by
  rw [Bool.or_eq_true, ranksBefore_iff, ranksBefore_iff]
  obtain hlt | heq | hlt := Nat.lt_trichotomy a.2 b.2
  · exact .inr (.inl hlt)
  · have hswap : compare b.1 a.1 = (compare a.1 b.1).swap := Std.OrientedCmp.eq_swap
    cases hcompare : compare a.1 b.1 with
    | lt | eq => exact .inl (.inr ⟨heq, rfl⟩)
    | gt => exact .inr (.inr ⟨heq.symm, by rw [hswap, hcompare]; rfl⟩)
  · exact .inl (.inl hlt)

omit [Std.LawfulEqOrd κ] [Std.TransOrd κ] in
lemma ranking_perm (t : Tally κ) : t.ranking.Perm t.entries := List.mergeSort_perm _ _

/-- A ranking is in strict order: no two entries have the same key, so the keys decide where the
counts are equal. -/
lemma pairwise_ranking (t : Tally κ) : t.ranking.Pairwise Outranks := by
  have hsorted : t.ranking.Pairwise fun a b => ranksBefore a b = true :=
    @List.pairwise_mergeSort _ ranksBefore (fun _ _ _ => ranksBefore_trans) ranksBefore_total _
  have hkeys : t.ranking.Pairwise fun a b => a.1 ≠ b.1 := by
    rw [← List.pairwise_map]
    exact (t.ranking_perm.map Prod.fst).nodup_iff.mpr t.nodup_keys
  refine (hsorted.and hkeys).imp fun {a b} ⟨hle, hne⟩ => ?_
  obtain hlt | ⟨heq, hcompare⟩ := ranksBefore_iff.mp hle
  · exact .inl hlt
  · refine .inr ⟨heq, ?_⟩
    cases h : compare a.1 b.1 with
    | lt => rfl
    | eq => exact absurd (Std.LawfulEqOrd.eq_of_compare h) hne
    | gt =>
      rw [h] at hcompare
      cases hcompare

end Tally

end PipelineProfile
