import Mathlib.Data.List.Infix
import PipelineProfile.Text.Search

/-!
# What a search finds

A fixed text is taken off the front by `List.isPrefixOf?`, which does not look past a character
that the text lacks (`isPrefixOf?_append`).  A search finds the earliest suffix on which its reader
succeeds (`firstMatch_eq_some_iff`), so it passes over a text in which the reader never does
(`firstMatch_append`), and an occurrence of a text is what the library calls an infix
(`occursIn_iff_isInfix`).  It does not reach across characters that are not in the text
(`occursIn_of_append_append`).
-/

namespace PipelineProfile.Text

/-! ## Fixed texts -/

lemma isPrefixOf?_self_append (p r : List Char) : p.isPrefixOf? (p ++ r) = some r :=
  List.isPrefixOf?_eq_some_iff_append_eq.mpr rfl

/-- A fixed text ends before a character that it lacks. -/
lemma isPrefixOf?_append {p r : List Char} (hr : ∀ c ∈ r.head?, c ∉ p) (s : List Char) :
    p.isPrefixOf? (s ++ r) = (p.isPrefixOf? s).map (· ++ r) := by
  induction p generalizing s with
  | nil => rfl
  | cons a p ih =>
    cases s with
    | nil =>
      cases r with
      | nil => rfl
      | cons c r =>
        have hne : a ≠ c := fun h => hr c rfl (h ▸ List.mem_cons_self ..)
        simp [List.isPrefixOf?, hne]
    | cons b s =>
      simp only [List.cons_append, List.isPrefixOf?]
      split
      · exact ih (fun c hc hmem => hr c hc (List.mem_cons_of_mem a hmem)) s
      · rfl

lemma isPrefixOf?_append_cons {p : List Char} {c : Char} (hc : c ∉ p) (s r : List Char) :
    p.isPrefixOf? (s ++ c :: r) = (p.isPrefixOf? s).map (· ++ c :: r) :=
  isPrefixOf?_append (fun _ h => Option.some.inj h ▸ hc) s

/-! ## The leftmost match -/

/-- A leftmost match is a suffix the reader accepts, with every longer suffix refused. -/
theorem firstMatch_eq_some_iff {α : Type} {read : List Char → Option α} {s : List Char} {a : α} :
    firstMatch read s = some a ↔
      ∃ p r, s = p ++ r ∧ read r = some a ∧
        ∀ q t, s = q ++ t → q.length < p.length → read t = none := by
  induction s with
  | nil =>
    constructor
    · intro h
      exact ⟨[], [], rfl, h, fun q t _ hq => absurd hq (by simp)⟩
    · rintro ⟨p, r, hs, hr, -⟩
      obtain ⟨rfl, rfl⟩ := List.append_eq_nil_iff.mp hs.symm
      exact hr
  | cons c s ih =>
    constructor
    · intro h
      rw [firstMatch] at h
      cases hc : read (c :: s) with
      | some b =>
        rw [hc] at h
        exact ⟨[], c :: s, rfl, by rw [hc]; exact h, fun q t _ hq => absurd hq (by simp)⟩
      | none =>
        rw [hc] at h
        obtain ⟨p, r, rfl, hr, hmin⟩ := ih.mp h
        refine ⟨c :: p, r, rfl, hr, fun q t hq hlen => ?_⟩
        cases q with
        | nil => rw [← show c :: (p ++ r) = t from hq]; exact hc
        | cons d q =>
          have hq' : p ++ r = q ++ t := by simpa using (List.cons.inj hq).2
          exact hmin q t hq' (by simpa using hlen)
    · rintro ⟨p, r, hs, hr, hmin⟩
      cases p with
      | nil =>
        have hs' : c :: s = r := hs
        rw [firstMatch, hs', hr]; rfl
      | cons d p =>
        have hnone : read (c :: s) = none := hmin [] (c :: s) rfl (by simp)
        have hs' : s = p ++ r := (List.cons.inj hs).2
        rw [firstMatch, hnone]
        refine ih.mpr ⟨p, r, hs', hr, fun q t hq hlen => ?_⟩
        exact hmin (c :: q) t (by rw [hq]; rfl) (by simpa using hlen)

/-- There is no match exactly when the reader refuses every suffix. -/
theorem firstMatch_eq_none_iff {α : Type} {read : List Char → Option α} {s : List Char} :
    firstMatch read s = none ↔ ∀ p r, s = p ++ r → read r = none := by
  induction s with
  | nil =>
    constructor
    · intro h p r hs
      obtain ⟨rfl, rfl⟩ := List.append_eq_nil_iff.mp hs.symm
      exact h
    · intro h
      exact h [] [] rfl
  | cons c s ih =>
    rw [firstMatch, Option.or_eq_none_iff, ih]
    constructor
    · rintro ⟨h, hs⟩ p r heq
      cases p with
      | nil => rw [← show c :: s = r from heq]; exact h
      | cons d p => exact hs p r (List.cons.inj heq).2
    · intro h
      exact ⟨h [] _ rfl, fun p r heq => h (c :: p) r (by rw [heq]; rfl)⟩

/-- The search passes over a text if the reader refuses at every place of it. -/
theorem firstMatch_append {α : Type} {read : List Char → Option α} {p s : List Char}
    (h : ∀ v, v <:+ p → v ≠ [] → read (v ++ s) = none) :
    firstMatch read (p ++ s) = firstMatch read s := by
  induction p with
  | nil => rfl
  | cons c p ih =>
    have hread : read (c :: p ++ s) = none := h _ List.suffix_rfl (List.cons_ne_nil c p)
    rw [List.cons_append] at hread ⊢
    rw [firstMatch, hread, Option.none_or]
    exact ih fun v hv => h v (hv.trans (List.suffix_cons c p))

/-! ## Occurrences -/

/-- A text occurs in another exactly when the other is some text before it, it, and some text
after it. -/
theorem occursIn_iff {needle s : List Char} :
    occursIn needle s = true ↔ ∃ p r, s = p ++ needle ++ r := by
  rw [occursIn, ← Bool.not_eq_false, ← Bool.not_eq_true, Option.isSome_iff_ne_none, ne_eq,
    Decidable.not_not, firstMatch_eq_none_iff]
  constructor
  · intro h
    refine Classical.byContradiction fun hno => h fun p r hs => ?_
    cases hr : needle.isPrefixOf? r with
    | none => rfl
    | some t =>
      refine absurd ⟨p, t, ?_⟩ hno
      rw [hs, ← List.append_eq_of_isPrefixOf?_eq_some hr, List.append_assoc]
  · rintro ⟨p, r, rfl⟩ h
    have hnone := h p (needle ++ r) (by rw [List.append_assoc])
    rw [isPrefixOf?_self_append] at hnone
    cases hnone

theorem occursIn_iff_isInfix {needle s : List Char} : occursIn needle s = true ↔ needle <:+: s := by
  rw [occursIn_iff]
  constructor
  · rintro ⟨p, r, hs⟩
    exact ⟨p, r, hs.symm⟩
  · rintro ⟨p, r, hs⟩
    exact ⟨p, r, hs.symm⟩

/-- An occurrence does not reach across a character that the needle lacks. -/
theorem occursIn_of_append_cons {needle a b : List Char} {c : Char} (hc : c ∉ needle)
    (h : occursIn needle (a ++ c :: b) = true) :
    occursIn needle a = true ∨ occursIn needle b = true := by
  have hprefix : ∀ t, t <+: c :: b → c ∉ t → t = [] := by
    intro t ht hct
    obtain rfl | ⟨t', rfl, -⟩ := List.prefix_cons_iff.mp ht
    · rfl
    · exact absurd (List.mem_cons_self ..) hct
  simp only [occursIn_iff_isInfix] at h ⊢
  obtain hin | hin | ⟨t, u, rfl, htail, hhead⟩ := List.infix_append_iff.mp h
  · exact .inl hin
  · obtain hhead | hin := List.infix_cons_iff.mp hin
    · obtain rfl := hprefix needle hhead hc
      exact .inl List.nil_infix
    · exact .inr hin
  · obtain rfl := hprefix u hhead fun hu => hc (List.mem_append_right t hu)
    rw [List.append_nil]
    exact .inl htail.isInfix

/-- An occurrence does not reach across a run of characters that the needle lacks. -/
theorem occursIn_of_append_append {needle a d b : List Char} (hd : d ≠ [])
    (hneedle : ∀ c ∈ d, c ∉ needle) (h : occursIn needle (a ++ d ++ b) = true) :
    occursIn needle a = true ∨ occursIn needle b = true := by
  induction d generalizing a with
  | nil => exact absurd rfl hd
  | cons c d ih =>
    have hc : c ∉ needle := hneedle c (List.mem_cons_self ..)
    have hrest : ∀ x ∈ d, x ∉ needle := fun x hx => hneedle x (List.mem_cons_of_mem c hx)
    rw [List.append_assoc, List.cons_append] at h
    obtain ha | hdb := occursIn_of_append_cons hc h
    · exact .inl ha
    · cases d with
      | nil => exact .inr hdb
      | cons x d =>
        obtain hnil | hb := ih (List.cons_ne_nil x d) hrest (a := []) hdb
        · -- What occurs in nothing occurs everywhere.
          obtain rfl := List.infix_nil.mp (occursIn_iff_isInfix.mp hnil)
          exact .inl (occursIn_iff_isInfix.mpr List.nil_infix)
        · exact .inr hb

end PipelineProfile.Text
