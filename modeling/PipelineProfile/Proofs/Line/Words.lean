import Mathlib.Data.List.SplitBy
import Mathlib.Data.List.TakeWhile
import PipelineProfile.Proofs.Line.Context

/-!
# Words and gaps

A text is a sequence of words with gaps of blanks before, between and behind them.  What holds of
every text is proved word by word with `words_induction`: it has to hold of a gap, and of a gap, a
word and the rest of the text if it holds of the rest.

The reader of facts goes along a text in the same way.  A gap has no facts
(`occurrences_gap`).  A word adds the fact that it is, if it is one, to those of the text behind it
(`occurrences_word`).  The span of that fact is its value and what `spanBehind` takes of the text
behind it, which is everything up to the blank before the next word that is a fact
(`spanBehind_gap`, `spanBehind_word`).
-/

namespace PipelineProfile

namespace Text

/-- Nothing but blanks, and maybe not even those. -/
def IsGap (g : List Char) : Prop := ∀ c ∈ g, isBlank c = true

/-- At least one character, and no blank. -/
structure IsWord (w : List Char) : Prop where
  ne_nil : w ≠ []
  not_isBlank : ∀ c ∈ w, isBlank c = false

/-- A word before the text ends there. -/
def EndsWord (t : List Char) : Prop := ∀ c ∈ t.head?, isBlank c = true

lemma isGap_nil : IsGap [] := fun _ hc => absurd hc List.not_mem_nil

lemma isGap_singleton {c : Char} (hc : isBlank c = true) : IsGap [c] := by
  intro d hd
  rwa [List.mem_singleton.mp hd]

lemma IsGap.endsWord {g : List Char} (hg : IsGap g) : EndsWord g :=
  fun c hc => hg c (List.mem_of_mem_head? hc)

lemma IsWord.head?_not_isBlank {w : List Char} (hw : IsWord w) (t : List Char) :
    ∀ c ∈ (w ++ t).head?, isBlank c = false := by
  obtain ⟨c, w, rfl⟩ := List.exists_cons_of_ne_nil hw.ne_nil
  intro d hd
  obtain rfl : c = d := by simpa using hd
  exact hw.not_isBlank c (List.mem_cons_self ..)

/-- A word behind a text that ends a word has a gap before it. -/
lemma EndsWord.ne_nil {g w t : List Char} (h : EndsWord (g ++ (w ++ t))) (hw : IsWord w) :
    g ≠ [] := by
  rintro rfl
  obtain ⟨c, w, rfl⟩ := List.exists_cons_of_ne_nil hw.ne_nil
  have hblank : isBlank c = true := h c rfl
  rw [hw.not_isBlank c (List.mem_cons_self ..)] at hblank
  cases hblank

lemma EndsWord.takeWhile_eq_nil {t : List Char} (ht : EndsWord t) :
    (t.takeWhile fun c => !isBlank c) = [] := by
  cases t with
  | nil => rfl
  | cons c t => rw [List.takeWhile_cons_of_neg (by simp [ht c rfl])]

/-- A word is all there is up to the next blank. -/
lemma IsWord.takeWhile_append {w t : List Char} (hw : IsWord w) (ht : EndsWord t) :
    ((w ++ t).takeWhile fun c => !isBlank c) = w := by
  rw [List.takeWhile_append_of_pos fun c hc => by simp [hw.not_isBlank c hc], ht.takeWhile_eq_nil,
    List.append_nil]

lemma IsWord.dropWhile_append {w t : List Char} (hw : IsWord w) (ht : EndsWord t) :
    ((w ++ t).dropWhile fun c => !isBlank c) = t := by
  have hsplit := List.takeWhile_append_dropWhile (p := fun c => !isBlank c) (l := w ++ t)
  rw [hw.takeWhile_append ht] at hsplit
  exact List.append_cancel_left hsplit

lemma endsWord_dropWhile (s : List Char) : EndsWord (s.dropWhile fun c => !isBlank c) := by
  intro c hc
  have hhead := List.head?_dropWhile_not (fun c => !isBlank c) s
  rw [Option.mem_def.mp hc] at hhead
  simpa using hhead

/-- What holds of every gap, and of every gap, word and text behind it if of that text, holds of
every text. -/
theorem words_induction {motive : List Char → Prop} (s : List Char)
    (gap : ∀ g, IsGap g → motive g)
    (word : ∀ g w t, IsGap g → IsWord w → EndsWord t → motive t → motive (g ++ (w ++ t))) :
    motive s := by
  induction hn : s.length using Nat.strongRecOn generalizing s with
  | ind n ih =>
    have hsplit : s.takeWhile isBlank ++ s.dropWhile isBlank = s := List.takeWhile_append_dropWhile
    have hgap : IsGap (s.takeWhile isBlank) := fun c hc => List.mem_takeWhile_imp hc
    generalize s.takeWhile isBlank = g at hsplit hgap
    cases hrest : s.dropWhile isBlank with
    | nil =>
      rw [hrest, List.append_nil] at hsplit
      rw [← hsplit]
      exact gap g hgap
    | cons c r =>
      have hc : isBlank c = false := by
        have hhead := List.head?_dropWhile_not isBlank s
        rw [hrest] at hhead
        exact hhead
      let w := (c :: r).takeWhile fun c => !isBlank c
      let t := (c :: r).dropWhile fun c => !isBlank c
      have hcut : w ++ t = c :: r := List.takeWhile_append_dropWhile
      have hw : IsWord w := by
        constructor
        · simp [w, hc]
        · intro d hd
          simpa using List.mem_takeWhile_imp hd
      have ht : EndsWord t := endsWord_dropWhile (c :: r)
      have hlength : t.length < n := by
        have hpos : 0 < w.length := List.length_pos_iff.mpr hw.ne_nil
        rw [← hn, ← hsplit, hrest, ← hcut, List.length_append, List.length_append]
        omega
      rw [← hsplit, hrest, ← hcut]
      exact word g w t hgap hw ht (ih t.length hlength t rfl)

end Text

open Text

namespace Facts

/-! ## Runs -/

/-- A longest run of blanks, or of other characters, is a run of its own. -/
lemma runs_append_run {r t : List Char} {blank : Bool} (hne : r ≠ [])
    (hr : ∀ c ∈ r, isBlank c = blank) (ht : ∀ c ∈ t.head?, isBlank c = !blank) :
    runs (r ++ t) = r :: runs t := by
  have hcut : ∀ c ∈ r.getLast?, ∀ d ∈ t.head?, (isBlank c == isBlank d) = false := by
    intro c hc d hd
    rw [hr c (List.mem_of_getLast? hc), ht d hd]
    cases blank <;> rfl
  calc
    runs (r ++ t) = runs r ++ runs t := List.splitBy_append hcut
    _ = r :: runs t := by rw [runs_eq_singleton hne hr, List.singleton_append]

lemma runs_gap {g : List Char} (hg : IsGap g) (hne : g ≠ []) : runs g = [g] :=
  runs_eq_singleton hne hg

lemma runs_word {w t : List Char} (hw : IsWord w) (ht : EndsWord t) : runs (w ++ t) = w :: runs t :=
  runs_append_run hw.ne_nil hw.not_isBlank ht

lemma runs_gap_word {g w t : List Char} (hg : IsGap g) (hne : g ≠ []) (hw : IsWord w)
    (ht : EndsWord t) : runs (g ++ (w ++ t)) = g :: w :: runs t := by
  rw [runs_append_run hne hg (hw.head?_not_isBlank t), runs_word hw ht]

/-! ## Facts along a text -/

/-- What a span has of the text behind its value. -/
def spanBehind (t : List Char) : List Char := spanOf (runs t)

/-- The fact that a word is, if it is one, given the text behind it. -/
def factOfWord? (w t : List Char) : Option Fact :=
  (splitWord? w).map fun fact =>
    { key := String.ofList fact.1
      value := String.ofList fact.2
      span := String.ofList (fact.2 ++ spanBehind t) }

lemma ofRuns_cons (w t : List Char) :
    ofRuns (w :: runs t) = (factOfWord? w t).toList ++ ofRuns (runs t) := by
  rw [ofRuns, factOfWord?]
  cases splitWord? w with
  | none => rfl
  | some fact => rfl

/-- A gap has no facts. -/
lemma occurrences_gap {g : List Char} (hg : IsGap g) : (read g).occurrences = [] := by
  by_cases hne : g = []
  · rw [hne]
    rfl
  · rw [read, runs_gap hg hne, ofRuns, splitWord?_of_blank hg]
    rfl

/-- A word adds the fact that it is to those of the text behind it. -/
lemma occurrences_word {g w t : List Char} (hg : IsGap g) (hw : IsWord w) (ht : EndsWord t) :
    (read (g ++ (w ++ t))).occurrences = (factOfWord? w t).toList ++ (read t).occurrences := by
  by_cases hne : g = []
  · rw [hne, List.nil_append, read, runs_word hw ht, ofRuns_cons, read]
  · rw [read, runs_gap_word hg hne hw ht, ofRuns, splitWord?_of_blank hg, read]
    exact ofRuns_cons w t

/-- Every fact of a text is one of its words. -/
lemma exists_word_of_mem_occurrences {s : List Char} {x : Fact} (hx : x ∈ (read s).occurrences) :
    ∃ w t, factOfWord? w t = some x := by
  induction s using words_induction with
  | gap g hg =>
    rw [occurrences_gap hg] at hx
    cases hx
  | word g w t hg hw ht ih =>
    rw [occurrences_word hg hw ht, List.mem_append, Option.mem_toList] at hx
    obtain hword | hrest := hx
    · exact ⟨w, t, hword⟩
    · exact ih hrest

/-- A span goes on to the end of the text if no fact comes. -/
lemma spanBehind_gap {g : List Char} (hg : IsGap g) : spanBehind g = g := by
  by_cases hne : g = []
  · rw [hne]
    rfl
  · rw [spanBehind, runs_gap hg hne, spanOf]

/-- A span ends at the blank before the next fact, and goes over other words. -/
lemma spanBehind_word {g w t : List Char} (hg : IsGap g) (hne : g ≠ []) (hw : IsWord w)
    (ht : EndsWord t) : spanBehind (g ++ (w ++ t)) =
      if (splitWord? w).isSome then g.dropLast else g ++ (w ++ spanBehind t) := by
  rw [spanBehind, runs_gap_word hg hne hw ht, spanOf, List.append_assoc, spanBehind]

end Facts

end PipelineProfile
