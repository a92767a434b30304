import Mathlib.Data.List.Pairwise
import PipelineProfile.Proofs.Tally.Entries

/-!
# Tallies of given counts

`Tally.ofPairs` takes counts that are given key by key and keeps the last one of each key.  In
terms of the list, a pair is kept if no later pair has its key (`lastBy`), and the entries of the
tally are these pairs in the order of their keys (`entries_ofPairs_perm`).

Counts are given once more when the keys of a tally are renamed (`Tally.rename`), and then two
keys may get the same name.  `Tally.Raises` describes renamings that replace some keys by larger
ones, different keys by different ones.  Under such a renaming a count is lost exactly if the
larger key has a count of its own, because that one comes later: the total of the renamed tally
falls short by the counts that are shadowed in this way (`total_rename_add_shadowed`).
-/

namespace PipelineProfile

/-! ## The last element of each key -/

section LastBy

variable {α κ : Type} [DecidableEq κ]

/-- The elements of a list behind which no other has the same key. -/
def lastBy (key : α → κ) (l : List α) : List α := l.pwFilter fun a b => key a ≠ key b

lemma lastBy_cons (key : α → κ) (a : α) (l : List α) :
    lastBy key (a :: l) = if key a ∈ l.map key then lastBy key l else a :: lastBy key l := by
  have hiff : (∀ b ∈ lastBy key l, key a ≠ key b) ↔ key a ∉ l.map key := by
    rw [lastBy, List.forall_mem_pwFilter, List.mem_map]
    · constructor
      · rintro h ⟨b, hb, hkey⟩
        exact h b hb hkey.symm
      · exact fun h b hb hkey => h ⟨b, hb, hkey.symm⟩
    · -- If two keys differ, a third one differs from one of them.
      intro x y z hne
      by_cases hxy : key x = key y
      · exact .inr fun hyz => hne (hxy.trans hyz)
      · exact .inl hxy
  by_cases h : key a ∈ l.map key
  · rw [if_pos h]
    exact List.pwFilter_cons_of_neg fun hall => hiff.mp hall h
  · rw [if_neg h]
    exact List.pwFilter_cons_of_pos (hiff.mpr h)

/-- Every key is kept once. -/
lemma mem_map_lastBy {key : α → κ} {l : List α} {k : κ} :
    k ∈ (lastBy key l).map key ↔ k ∈ l.map key := by
  induction l with
  | nil => rfl
  | cons a l ih =>
    rw [lastBy_cons, List.map_cons, List.mem_cons]
    split
    · next ha =>
      rw [ih]
      refine ⟨.inr, ?_⟩
      rintro (rfl | hk)
      · exact ha
      · exact hk
    · rw [List.map_cons, List.mem_cons, ih]

lemma lastBy_map {β : Type} (key : α → κ) (f : β → α) (l : List β) :
    lastBy key (l.map f) = (lastBy (fun b => key (f b)) l).map f :=
  List.pwFilter_map f l

lemma lastBy_eq_self {key : α → κ} {l : List α} (h : (l.map key).Nodup) : lastBy key l = l :=
  List.pwFilter_eq_self.mpr (List.pairwise_map.mp h)

end LastBy

namespace Tally

variable {κ : Type} [Ord κ] [Std.TransOrd κ]

/-! ## Renaming keys -/

/-- The counts of a tally under other keys. -/
def rename (r : κ → κ) (t : Tally κ) : Tally κ := ofPairs (t.entries.map fun e => (r e.1, e.2))

/-- A renaming leaves some keys alone and raises the others to larger ones, each to one of its
own that is left alone. -/
structure Raises (r : κ → κ) : Prop where
  isLE : ∀ k, (compare k (r k)).isLE
  idem : ∀ k, r (r k) = r k
  inj : ∀ {k l}, r k ≠ k → r l ≠ l → r k = r l → k = l

lemma Raises.ne_of_lt {r : κ → κ} (h : Raises r) {k l : κ} (hlt : compare k l = .lt) : r l ≠ k := by
  intro heq
  have hle := h.isLE l
  rw [heq, Std.OrientedCmp.gt_of_lt hlt] at hle
  cases hle

variable [Std.LawfulEqOrd κ] [DecidableEq κ]

/-! ## Given counts -/

/-- Giving some counts to a tally keeps the last one of each key, and what the tally has under
other keys. -/
lemma entries_foldl_insert_perm (es : List (κ × Nat)) (t : Tally κ) :
    (es.foldl (fun t e => t.insert e.1 e.2) t).entries.Perm
      (lastBy Prod.fst es ++ t.entries.filter fun e => e.1 ∉ es.map Prod.fst) := by
  induction es generalizing t with
  | nil => simp [lastBy]
  | cons e es ih =>
    refine (ih (t.insert e.1 e.2)).trans ?_
    have hinsert := (entries_insert_perm t e.1 e.2).filter fun f => f.1 ∉ es.map Prod.fst
    have hfilter : ((t.entries.filter fun f => f.1 ≠ e.1).filter fun f => f.1 ∉ es.map Prod.fst) =
        t.entries.filter fun f => f.1 ∉ (e :: es).map Prod.fst := by
      rw [List.filter_filter]
      refine List.filter_congr fun f _ => ?_
      rw [Bool.eq_iff_iff]
      simp [and_comm]
    rw [lastBy_cons]
    by_cases he : e.1 ∈ es.map Prod.fst
    · -- A later count replaces the one that is given first.
      rw [List.filter_cons_of_neg (by simpa using he), hfilter] at hinsert
      rw [if_pos he]
      exact hinsert.append_left _
    · rw [List.filter_cons_of_pos (by simpa using he), hfilter] at hinsert
      rw [if_neg he]
      exact (hinsert.append_left _).trans List.perm_middle

/-- The entries of given counts are the last count of each key. -/
lemma entries_ofPairs_perm (es : List (κ × Nat)) :
    (ofPairs es).entries.Perm (lastBy Prod.fst es) := by
  have h := entries_foldl_insert_perm es empty
  rwa [empty, List.filter_nil, List.append_nil] at h

lemma mem_keys_ofPairs {es : List (κ × Nat)} {k : κ} :
    k ∈ (ofPairs es).keys ↔ k ∈ es.map Prod.fst := by
  rw [keys, ((entries_ofPairs_perm es).map Prod.fst).mem_iff, mem_map_lastBy]

/-- Giving the entries of a tally in some order gives the tally. -/
lemma ofPairs_eq_of_perm {es : List (κ × Nat)} {t : Tally κ} (h : es.Perm t.entries) :
    ofPairs es = t := by
  have hnodup : (es.map Prod.fst).Nodup := ((h.map Prod.fst).nodup_iff).mpr t.nodup_keys
  have hperm : (ofPairs es).entries.Perm t.entries := by
    have hkept := entries_ofPairs_perm es
    rw [lastBy_eq_self hnodup] at hkept
    exact hkept.trans h
  have hentries : (ofPairs es).entries = t.entries := by
    refine hperm.eq_of_pairwise (fun a b _ _ hab hba => ?_) (ofPairs es).ascending t.ascending
    rw [Std.OrientedCmp.gt_of_lt hab] at hba
    cases hba
  generalize ofPairs es = u at hentries
  obtain ⟨us, hus⟩ := u
  obtain rfl : us = t.entries := hentries
  rfl

/-! ## What renaming loses -/

variable {r : κ → κ}

/-- Whether a key gives way to one of the keys of the tally. -/
def isShadowed (r : κ → κ) (keys : List κ) (k : κ) : Bool := r k ≠ k && r k ∈ keys

/-- Of some ascending entries, those are lost whose key gives way. -/
lemma Raises.lastBy_eq_filter (h : Raises r) {es : List (κ × Nat)}
    (hasc : es.Pairwise fun a b => compare a.1 b.1 = .lt) :
    lastBy (fun e => r e.1) es = es.filter fun e => !isShadowed r (es.map Prod.fst) e.1 := by
  induction es with
  | nil => rfl
  | cons e es ih =>
    obtain ⟨he, hes⟩ := List.pairwise_cons.mp hasc
    -- No later key is raised to the first one, so later entries give way as they did.
    have htail : (es.filter fun f => !isShadowed r ((e :: es).map Prod.fst) f.1) =
        es.filter fun f => !isShadowed r (es.map Prod.fst) f.1 := by
      refine List.filter_congr fun f hf => ?_
      have hne : r f.1 ≠ e.1 := h.ne_of_lt (he f hf)
      rw [Bool.eq_iff_iff]
      simp [isShadowed, hne]
    have hhead : r e.1 ∈ es.map (fun f => r f.1) ↔
        isShadowed r ((e :: es).map Prod.fst) e.1 = true := by
      simp only [isShadowed, Bool.and_eq_true, decide_eq_true_eq, List.map_cons, List.mem_cons,
        List.mem_map]
      constructor
      · rintro ⟨f, hf, hkey⟩
        have hne : r e.1 ≠ e.1 := fun heq => h.ne_of_lt (he f hf) (hkey.trans heq)
        have hfix : r f.1 = f.1 := by
          by_contra hraised
          exact ne_of_compare_lt (he f hf) (h.inj hne hraised hkey.symm)
        exact ⟨hne, .inr ⟨f, hf, hfix.symm.trans hkey⟩⟩
      · rintro ⟨hne, heq | ⟨f, hf, hkey⟩⟩
        · exact absurd heq hne
        · exact ⟨f, hf, by rw [hkey, h.idem]⟩
    rw [lastBy_cons, ih hes]
    by_cases hs : isShadowed r ((e :: es).map Prod.fst) e.1 = true
    · rw [if_pos (hhead.mpr hs), List.filter_cons_of_neg (by rw [hs]; decide), htail]
    · rw [if_neg fun hmem => hs (hhead.mp hmem),
        List.filter_cons_of_pos (by rw [Bool.eq_false_of_not_eq_true hs]; decide), htail]

/-- Renaming takes from the total the counts of the keys that give way. -/
lemma Raises.total_rename_add_shadowed (h : Raises r) (t : Tally κ) :
    (t.rename r).total + ((t.entries.filter fun e => isShadowed r t.keys e.1).map Prod.snd).sum =
      t.total := by
  have hkept := ((entries_ofPairs_perm (t.entries.map fun e => (r e.1, e.2))).map Prod.snd)
  rw [lastBy_map, h.lastBy_eq_filter t.ascending, List.map_map] at hkept
  have hsplit := (List.filter_append_perm (fun e => isShadowed r t.keys e.1) t.entries).map
    Prod.snd
  rw [List.map_append] at hsplit
  rw [total, total, ← hsplit.sum_nat, List.sum_append, Nat.add_comm, rename, hkept.sum_nat]
  rfl

end Tally

end PipelineProfile
