import PipelineProfile.Proofs.Stall.Conservation
import PipelineProfile.Proofs.Tally.Entries

/-!
# From how many sources on rename is full

While instructions wait in rename to be replayed, a blocked decode is put down to that, and rename
counts as full from a set number of pending sources on.  This module says what happens to the finer
causes of blocked decodes when that number is raised.

For one sample nothing else is asked of the number, so either its cause stays as it is, or rename
was full and now has room (`makesRoom_ofProbe`).  For a list of samples this means that some of the
counts of the two labels for a full rename move to the labels for a rename with room
(`exists_count_moved`).  The main result is `stallDetail_makesRoom`.
-/

namespace PipelineProfile

namespace DecodeBlockedCause

/-- The second cause is the first, or it is the first but that rename has room. -/
def MakesRoom (c c' : DecodeBlockedCause) : Prop :=
  c' = c ∨ ∃ progress, c = pendingReplay progress true ∧ c' = pendingReplay progress false

variable {lanes lanes' : Nat}

/-- Only the first rule asks for the number of lanes. -/
lemma ofProbe_eq_getD (lanes : Nat) (p : StallProbe) : ofProbe lanes p =
    (pendingReplay? lanes p).getD (((rules 0).tail.findSome? fun rule => rule p).getD other) := by
  have hrules : rules lanes = pendingReplay? lanes :: (rules 0).tail := rfl
  rw [ofProbe, hrules, List.findSome?_cons]
  cases pendingReplay? lanes p with
  | some c => rfl
  | none => rfl

/-- Raising the number of lanes can only make room. -/
lemma makesRoom_ofProbe (h : lanes ≤ lanes') (p : StallProbe) :
    (ofProbe lanes p).MakesRoom (ofProbe lanes' p) := by
  by_cases hpending : ∃ r, p.rename = some r ∧ r.pending = true
  · obtain ⟨r, hrename, hr⟩ := hpending
    have hcause : ∀ n, ofProbe n p =
        pendingReplay (r.fire && 0 < r.selected) (n ≤ r.sources) := fun n => by
      rw [ofProbe_eq_getD, pendingReplay?, hrename, Option.bind_some, if_pos hr, Option.getD_some]
    by_cases hfull : lanes ≤ r.sources ∧ ¬ lanes' ≤ r.sources
    · refine .inr ⟨r.fire && 0 < r.selected, ?_, ?_⟩
      · rw [hcause, decide_eq_true hfull.1]
      · rw [hcause, decide_eq_false hfull.2]
    · -- Rename is full for both numbers or for neither.
      have hsame : lanes' ≤ r.sources ↔ lanes ≤ r.sources := by omega
      exact .inl (by simp only [hcause, hsame])
  · have hnone : ∀ n, pendingReplay? n p = none := fun n => by
      rw [pendingReplay?, Option.bind_eq_none_iff]
      intro r hrename
      exact if_neg fun hr => hpending ⟨r, hrename, hr⟩
    exact .inl (by rw [ofProbe_eq_getD, ofProbe_eq_getD, hnone, hnone])

/-- Making room shows in the labels of one kind of replay, with progress or without. -/
lemma MakesRoom.label {c c' : DecodeBlockedCause} (h : c.MakesRoom c') (progress : Bool) :
    c'.label = c.label ∨
      c.label = (pendingReplay progress true).label ∧
        c'.label = (pendingReplay progress false).label ∨
      (c.label ≠ (pendingReplay progress true).label ∧
        c.label ≠ (pendingReplay progress false).label ∧
        c'.label ≠ (pendingReplay progress true).label ∧
        c'.label ≠ (pendingReplay progress false).label) := by
  obtain rfl | ⟨other, rfl, rfl⟩ := h
  · exact .inl rfl
  · revert progress other
    decide

/-- Making room does not show in the labels of other causes. -/
lemma MakesRoom.label_eq_iff {c c' : DecodeBlockedCause} (h : c.MakesRoom c') {label : String}
    (hlabel : ∀ progress full, label ≠ (pendingReplay progress full).label) :
    c'.label = label ↔ c.label = label := by
  obtain rfl | ⟨progress, rfl, rfl⟩ := h
  · exact Iff.rfl
  · exact ⟨fun heq => absurd heq.symm (hlabel _ _), fun heq => absurd heq.symm (hlabel _ _)⟩

end DecodeBlockedCause

/-! ## Counts that move -/

/-- Between two tallies some of the count of one key moves to another. -/
def Tally.Moves {κ : Type} [Ord κ] [DecidableEq κ] (t t' : Tally κ) (k l : κ) : Prop :=
  ∃ n, t'.count k + n = t.count k ∧ t'.count l = t.count l + n

/-- If what occurs under one key is the same as before or is one key in the place of another, the
count of the one grows by what the count of the other loses. -/
lemma exists_count_moved {α κ : Type} [DecidableEq κ] {f g : α → κ} {k l : κ} (hkl : k ≠ l)
    (hmoved : ∀ x, g x = f x ∨ f x = k ∧ g x = l ∨
      (f x ≠ k ∧ f x ≠ l ∧ g x ≠ k ∧ g x ≠ l)) (xs : List α) :
    ∃ n, (xs.map g).count k + n = (xs.map f).count k ∧
      (xs.map g).count l = (xs.map f).count l + n := by
  induction xs with
  | nil => exact ⟨0, rfl, rfl⟩
  | cons x xs ih =>
    obtain ⟨n, hk, hl⟩ := ih
    simp only [List.map_cons, List.count_cons, beq_iff_eq]
    obtain hsame | ⟨hf, hg⟩ | ⟨hfk, hfl, hgk, hgl⟩ := hmoved x
    · refine ⟨n, ?_, ?_⟩
      · rw [hsame]
        omega
      · rw [hsame]
        omega
    · refine ⟨n + 1, ?_, ?_⟩
      · rw [hf, hg, if_pos rfl, if_neg hkl.symm]
        omega
      · rw [hf, hg, if_pos rfl, if_neg hkl]
        omega
    · refine ⟨n, ?_, ?_⟩
      · rw [if_neg hfk, if_neg hgk]
        exact hk
      · rw [if_neg hfl, if_neg hgl]
        exact hl

/-- Of the finer causes of blocked decodes some that had rename full now have room in it. -/
structure StallDetail.MakesRoom (d d' : StallDetail) : Prop where
  total : d'.total = d.total
  progress : d.detail.Moves d'.detail "pending_replay_progress_full"
    "pending_replay_progress_has_room"
  wait : d.detail.Moves d'.detail "pending_replay_wait_full" "pending_replay_wait_has_room"
  others : ∀ label, label ∉ ["pending_replay_progress_full", "pending_replay_progress_has_room",
    "pending_replay_wait_full", "pending_replay_wait_has_room"] →
    d'.detail.count? label = d.detail.count? label

namespace Trace

variable {lanes lanes' : Nat}

lemma detailLabels_decodeBlocked (lanes : Nat) (t : Trace) :
    t.detailLabels lanes .decodeBlocked =
      (t.stallsIn .decodeBlocked).map fun s => (DecodeBlockedCause.ofProbe lanes s.probe).label :=
  congrFun List.filterMap_eq_map _

/-- Raising the number of lanes moves counts from a full rename to one with room. -/
lemma moves_stallDetail (h : lanes ≤ lanes') (t : Trace) (progress : Bool) :
    (t.stallDetail lanes .decodeBlocked none).detail.Moves
      (t.stallDetail lanes' .decodeBlocked none).detail
      (DecodeBlockedCause.pendingReplay progress true).label
      (DecodeBlockedCause.pendingReplay progress false).label := by
  have hne : (DecodeBlockedCause.pendingReplay progress true).label ≠
      (DecodeBlockedCause.pendingReplay progress false).label := by
    revert progress
    decide
  simp only [Tally.Moves, count_stallDetail, detailLabels_decodeBlocked]
  exact exists_count_moved hne
    (fun s => (DecodeBlockedCause.makesRoom_ofProbe h s.probe).label progress) _

lemma count?_stallDetail_eq (h : lanes ≤ lanes') (t : Trace) {label : String}
    (hlabel : ∀ progress full, label ≠ (DecodeBlockedCause.pendingReplay progress full).label) :
    (t.stallDetail lanes' .decodeBlocked none).detail.count? label =
      (t.stallDetail lanes .decodeBlocked none).detail.count? label := by
  have hcount : (t.detailLabels lanes' .decodeBlocked).count label =
      (t.detailLabels lanes .decodeBlocked).count label := by
    simp only [detailLabels_decodeBlocked, List.count, List.countP_map]
    refine List.countP_congr fun s _ => ?_
    have hmakes := DecodeBlockedCause.makesRoom_ofProbe h s.probe
    simpa using hmakes.label_eq_iff hlabel
  have hmem : label ∈ t.detailLabels lanes' .decodeBlocked ↔
      label ∈ t.detailLabels lanes .decodeBlocked := by
    rw [← List.count_pos_iff, hcount, List.count_pos_iff]
  rw [detail_stallDetail, detail_stallDetail, Tally.count?_ofKeys, Tally.count?_ofKeys, hcount]
  simp only [hmem]

/-- Raising the number of lanes makes room in rename, and nothing else. -/
lemma stallDetail_makesRoom (h : lanes ≤ lanes') (summary : Option StallDetail) (t : Trace) :
    (t.stallDetail lanes .decodeBlocked summary).MakesRoom
      (t.stallDetail lanes' .decodeBlocked summary) := by
  cases summary with
  | some d => exact ⟨rfl, ⟨0, rfl, rfl⟩, ⟨0, rfl, rfl⟩, fun _ _ => rfl⟩
  | none =>
    refine ⟨?_, moves_stallDetail h t true, moves_stallDetail h t false, fun label hlabel => ?_⟩
    · simp only [stallDetail_none, detailLabels_decodeBlocked, List.isEmpty_map, List.length_map]
      split <;> rfl
    · have hfour : ∀ progress full, (DecodeBlockedCause.pendingReplay progress full).label ∈
          ["pending_replay_progress_full", "pending_replay_progress_has_room",
            "pending_replay_wait_full", "pending_replay_wait_has_room"] := by decide
      exact count?_stallDetail_eq h t fun progress full heq => hlabel (heq ▸ hfour progress full)

end Trace

end PipelineProfile
