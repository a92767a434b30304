import PipelineProfile.Proofs.Number.Sums
import PipelineProfile.Tally

/-!
# What a tally of occurrences counts

`Tally.ofKeys` sorts a list of keys and writes down its runs.  The way back is `Tally.expand`,
which lists every key as often as it is counted: expanding a tally of occurrences gives the sorted
list again (`expand_ofKeys`).  Count and total of any tally are read off its expansion
(`count_eq_count_expand`, `total_eq_length_expand`), so a tally of occurrences counts each key as
often as it occurs (`count_ofKeys`) and loses no occurrence (`total_ofKeys`).

Sorting forgets the order of the list, and so does the tally (`ofKeys_perm`).  This is the one
place where the antisymmetry of the key order is used.
-/

namespace PipelineProfile

namespace Tally

variable {κ : Type}

/-! ## Expansion -/

/-- Every key of some entries, as often as it is counted. -/
def expandEntries (es : List (κ × Nat)) : List κ := es.flatMap fun e => List.replicate e.2 e.1

lemma expandEntries_cons (e : κ × Nat) (es : List (κ × Nat)) :
    expandEntries (e :: es) = List.replicate e.2 e.1 ++ expandEntries es := by
  simp [expandEntries]

lemma exists_entry_of_mem_expandEntries {k : κ} {es : List (κ × Nat)}
    (h : k ∈ expandEntries es) : ∃ e ∈ es, e.1 = k := by
  obtain ⟨e, he, hk⟩ := List.mem_flatMap.mp h
  exact ⟨e, he, (List.mem_replicate.mp hk).2.symm⟩

variable [Ord κ]

/-- The sum of all counts. -/
def total (t : Tally κ) : Nat := (t.entries.map Prod.snd).sum

/-- Every key of a tally, as often as it is counted. -/
def expand (t : Tally κ) : List κ := expandEntries t.entries

/-- The total of a tally is the length of its expansion. -/
lemma total_eq_length_expand (t : Tally κ) : t.total = t.expand.length := by
  unfold total expand
  induction t.entries with
  | nil => rfl
  | cons e es ih =>
    rw [List.map_cons, List.sum_cons, expandEntries_cons, List.length_append,
      List.length_replicate, ih]

/-- Counting one more occurrence puts the key in front of the expansion. -/
lemma expandEntries_pushKey [Std.LawfulEqOrd κ] (k : κ) (es : List (κ × Nat)) :
    expandEntries (pushKey k es) = k :: expandEntries es := by
  cases es with
  | nil => simp [pushKey, expandEntries]
  | cons e es =>
    rw [pushKey]
    split
    · next h =>
      rw [expandEntries_cons, expandEntries_cons, Std.LawfulEqOrd.eq_of_compare h,
        List.replicate_succ, List.cons_append]
    · rw [expandEntries_cons, List.replicate_one, List.singleton_append]

/-- Counting the keys of a list one by one keeps the list. -/
lemma expandEntries_foldr_pushKey [Std.LawfulEqOrd κ] (ks : List κ) :
    expandEntries (ks.foldr pushKey []) = ks := by
  induction ks with
  | nil => rfl
  | cons k ks ih => rw [List.foldr_cons, expandEntries_pushKey, ih]

variable [Std.TransOrd κ] [Std.LawfulEqOrd κ]

/-- The expansion of a tally of occurrences is the sorted list. -/
lemma expand_ofKeys (ks : List κ) :
    (ofKeys ks).expand = ks.mergeSort fun a b => (compare a b).isLE :=
  expandEntries_foldr_pushKey _

lemma expand_ofKeys_perm (ks : List κ) : (ofKeys ks).expand.Perm ks := by
  rw [expand_ofKeys]
  exact List.mergeSort_perm ks _

/-! ## Counts -/

/-- The count of a key is how often the expansion has it.  Since the keys of a tally ascend
strictly, the first entry with the key is the only one. -/
lemma count_eq_count_expand [DecidableEq κ] (t : Tally κ) (k : κ) :
    t.count k = t.expand.count k := by
  obtain ⟨es, hes⟩ := t
  unfold count count? expand
  dsimp only
  induction es with
  | nil => rfl
  | cons e es ih =>
    obtain ⟨he, hes⟩ := List.pairwise_cons.mp hes
    rw [expandEntries_cons, List.count_append, List.count_replicate]
    by_cases hk : e.1 = k
    · have hnot : k ∉ expandEntries es := by
        intro hmem
        obtain ⟨f, hf, hfk⟩ := exists_entry_of_mem_expandEntries hmem
        have hlt := he f hf
        rw [hk, hfk, Std.ReflOrd.compare_self] at hlt
        exact absurd hlt (by decide)
      simp [hk, List.count_eq_zero_of_not_mem hnot]
    · simp only [List.find?_cons, hk, decide_false, beq_iff_eq, if_false, Nat.zero_add]
      exact ih hes

omit [Std.LawfulEqOrd κ] in
lemma ofKeys_nil : ofKeys ([] : List κ) = empty := by
  simp only [ofKeys, List.mergeSort_nil, List.foldr_nil, empty]

/-- A tally of occurrences counts each key as often as it occurs. -/
lemma count_ofKeys [DecidableEq κ] (ks : List κ) (k : κ) : (ofKeys ks).count k = ks.count k := by
  rw [count_eq_count_expand]
  exact (expand_ofKeys_perm ks).count_eq k

/-- A tally of occurrences loses no occurrence. -/
lemma total_ofKeys (ks : List κ) : (ofKeys ks).total = ks.length := by
  rw [total_eq_length_expand]
  exact (expand_ofKeys_perm ks).length_eq

/-! ## Order -/

/-- The order of the occurrences does not matter. -/
lemma ofKeys_perm {ks ls : List κ} (h : ks.Perm ls) : ofKeys ks = ofKeys ls := by
  have hsort : (ks.mergeSort fun a b => (compare a b).isLE)
      = ls.mergeSort fun a b => (compare a b).isLE := by
    refine List.Perm.eq_of_pairwise ?_ (ascending_mergeSort ks) (ascending_mergeSort ls)
      ((List.mergeSort_perm ks _).trans (h.trans (List.mergeSort_perm ls _).symm))
    intro a b _ _ hab hba
    exact Std.LawfulEqOrd.eq_of_compare (Std.OrientedCmp.isLE_antisymm hab hba)
  unfold ofKeys
  congr 2

end Tally

end PipelineProfile
