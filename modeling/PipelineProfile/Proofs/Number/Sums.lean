import Mathlib.Algebra.GroupWithZero.Nat
import Mathlib.Algebra.Order.BigOperators.Group.List
import Mathlib.Algebra.Order.Group.Nat
import PipelineProfile.Number.Register

/-!
# Sums of counts

What is needed about sums of natural numbers besides the lemmas on `List.sum`.  Leaving out what
adds nothing does not change a sum, and of two sums that compare term by term the terms are equal
if the sums are (`sum_map_eq_iff`).  A sum of counts by class counts the members of the classes
(`sum_map_countP`), and a sum lies between the greatest of its terms and that many times the
greatest (`foldl_max_le_sum`, `sum_le_length_mul_foldl_max`).

A register adds up modulo its bound (`Register.sum_eq_mod`).  So it does not matter in which order
or in which parts the numbers are added, and a sum that fits is the one that `List.sum` gives.
-/

namespace PipelineProfile

lemma sum_map_ite {α : Type} (p : α → Prop) [DecidablePred p] (l : List α) :
    (l.map fun a => if p a then 1 else 0).sum = l.countP p := by
  induction l with
  | nil => rfl
  | cons a l ih =>
    rw [List.map_cons, List.sum_cons, ih, List.countP_cons, Nat.add_comm]
    simp only [decide_eq_true_eq]

/-- What adds nothing to a sum may be left out. -/
lemma sum_map_filter {α : Type} {p : α → Bool} {f : α → Nat} {l : List α}
    (h : ∀ a ∈ l, p a = false → f a = 0) : ((l.filter p).map f).sum = (l.map f).sum := by
  have hrest : ((l.filter fun a => ¬p a).map f).sum = 0 := by
    rw [List.sum_eq_zero_iff_forall_eq_nat, List.forall_mem_map]
    intro a ha
    obtain ⟨hmem, hp⟩ := List.mem_filter.mp ha
    exact h a hmem (by simpa using hp)
  rw [← List.sum_map_filter_add_sum_map_filter_not (fun a => p a) f l, hrest, Nat.add_zero]
  simp only [Bool.decide_eq_true]

/-! ## Comparing term by term -/

/-- If every term is at most its counterpart, the sums are equal only if all terms are. -/
lemma sum_map_eq_iff {α : Type} {f g : α → Nat} {l : List α} (h : ∀ a ∈ l, f a ≤ g a) :
    (l.map f).sum = (l.map g).sum ↔ ∀ a ∈ l, f a = g a := by
  induction l with
  | nil => simp
  | cons a l ih =>
    have ha := h a (List.mem_cons_self ..)
    have htail : ∀ b ∈ l, f b ≤ g b := fun b hb => h b (List.mem_cons_of_mem a hb)
    have hl := List.sum_le_sum htail
    rw [List.map_cons, List.map_cons, List.sum_cons, List.sum_cons, List.forall_mem_cons,
      ← ih htail]
    constructor
    · intro heq
      omega
    · rintro ⟨heq, hsum⟩
      rw [heq, hsum]

/-! ## Counts by class -/

lemma countP_mem_cons {α κ : Type} [DecidableEq κ] (f : α → κ) {k : κ} {ks : List κ}
    (hk : k ∉ ks) (l : List α) :
    (l.countP fun a => f a ∈ k :: ks) =
      (l.countP fun a => f a = k) + l.countP fun a => f a ∈ ks := by
  induction l with
  | nil => rfl
  | cons a l ih =>
    simp only [List.countP_cons, List.mem_cons, decide_eq_true_eq] at ih ⊢
    by_cases ha : f a = k
    · -- What is in the class `k` is in none of the others.
      simp only [ha, hk, if_true, if_false, true_or]
      omega
    · simp only [ha, if_false, false_or]
      omega

/-- The counts of some classes together count what is in one of them. -/
lemma sum_map_countP {α κ : Type} [DecidableEq κ] (f : α → κ) {ks : List κ}
    (hks : ks.Nodup) (l : List α) :
    (ks.map fun k => l.countP fun a => f a = k).sum = l.countP fun a => f a ∈ ks := by
  induction ks with
  | nil => simp
  | cons k ks ih =>
    obtain ⟨hk, hnodup⟩ := List.nodup_cons.mp hks
    rw [List.map_cons, List.sum_cons, ih hnodup, countP_mem_cons f hk]

/-- The counts of all classes together count everything. -/
lemma sum_map_countP_eq_length {α κ : Type} [DecidableEq κ] (f : α → κ) {ks : List κ}
    (hks : ks.Nodup) (hall : ∀ k, k ∈ ks) (l : List α) :
    (ks.map fun k => l.countP fun a => f a = k).sum = l.length := by
  rw [sum_map_countP f hks, List.countP_eq_length]
  intro a _
  exact decide_eq_true (hall (f a))

/-! ## Counts by position -/

/-- What is counted in a list is counted at its positions. -/
lemma countP_range_getElem? {α : Type} (p : α → Bool) (l : List α) :
    (List.range l.length).countP (fun i => l[i]?.any p) = l.countP p := by
  induction l with
  | nil => rfl
  | cons a l ih =>
    rw [List.length_cons, List.range_succ_eq_map, List.countP_cons, List.countP_map,
      List.countP_cons, ← ih]
    rfl

/-! ## The greatest count -/

lemma foldl_max_eq_getD (ns : List Nat) : ns.foldl max 0 = ns.max?.getD 0 := by
  rw [List.foldl_max, Nat.zero_max]

lemma le_foldl_max {n : Nat} {ns : List Nat} (h : n ∈ ns) : n ≤ ns.foldl max 0 := by
  rw [foldl_max_eq_getD]
  exact List.le_max?_getD_of_mem h

lemma foldl_max_append (ms ns : List Nat) :
    (ms ++ ns).foldl max 0 = max (ms.foldl max 0) (ns.foldl max 0) := by
  have h : ns.foldl max (max (ms.foldl max 0) 0) = max (ms.foldl max 0) (ns.foldl max 0) :=
    List.foldl_assoc
  rwa [Nat.max_zero, ← List.foldl_append] at h

/-- The greatest count is at most the sum. -/
lemma foldl_max_le_sum (ns : List Nat) : ns.foldl max 0 ≤ ns.sum := by
  rw [foldl_max_eq_getD]
  cases h : ns.max? with
  | none => exact Nat.zero_le _
  | some m => exact List.le_sum_of_mem (List.max?_mem h)

/-- The sum is at most as many times the greatest count as there are counts. -/
lemma sum_le_length_mul_foldl_max (ns : List Nat) : ns.sum ≤ ns.length * ns.foldl max 0 := by
  rw [foldl_max_eq_getD, Nat.mul_comm]
  cases h : ns.max? with
  | none =>
    rw [List.max?_eq_none_iff.mp h]
    exact Nat.le_refl _
  | some m => exact List.sum_le_max_mul_length_of_max?_eq_some_nat h

/-! ## Sums in a register -/

namespace Register

lemma foldl_add_mod (m : Nat) (ns : List Nat) :
    ns.foldl add (m % Numeral.bound) = (m + ns.sum) % Numeral.bound := by
  induction ns generalizing m with
  | nil => rfl
  | cons n ns ih =>
    rw [List.foldl_cons, add, Nat.mod_add_mod, ih, List.sum_cons, Nat.add_assoc]

/-- A register keeps the remainder of a sum. -/
lemma sum_eq_mod (ns : List Nat) : sum ns = ns.sum % Numeral.bound := by
  have h := foldl_add_mod 0 ns
  rwa [Nat.zero_mod, Nat.zero_add] at h

/-- A sum that fits is kept. -/
lemma sum_eq_of_lt {ns : List Nat} (h : ns.sum < Numeral.bound) : sum ns = ns.sum := by
  rw [sum_eq_mod, Nat.mod_eq_of_lt h]

lemma sum_le (ns : List Nat) : sum ns ≤ ns.sum := by
  rw [sum_eq_mod]
  exact Nat.mod_le ..

lemma sum_append (ms ns : List Nat) : sum (ms ++ ns) = add (sum ms) (sum ns) := by
  rw [add, sum_eq_mod, sum_eq_mod, sum_eq_mod, List.sum_append, ← Nat.add_mod]

/-- The order of the numbers does not matter. -/
lemma sum_perm {ms ns : List Nat} (h : ms.Perm ns) : sum ms = sum ns := by
  rw [sum_eq_mod, sum_eq_mod, h.sum_nat]

end Register

end PipelineProfile
