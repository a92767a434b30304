import PipelineProfile.Proofs.Line.Grammar

/-!
# Texts without the words of one key

Two texts that have the same words, but for the words that are facts with a certain key, give every
other key the same value (`get?_eq_of_wordsBut_eq`).  In particular deleting the words of one key
(`without`) takes away that key and leaves all others as they are (`get?_of_words_eq`).  Where the
blanks of the texts are and how many there are makes no difference, and neither does the number or
the place of the words that are left out.

Both follow from reading a key off the words of a text, one by one: its value is that of the last
word that is a fact with the key (`get?_read`).
-/

namespace PipelineProfile

open Text

/-! ## The words of a text -/

/-- The words of a text, in their order: what is left between its blanks. -/
def Text.words (s : List Char) : List (List Char) :=
  (s.splitOnP isBlank).filter fun piece => !piece.isEmpty

namespace Text

lemma words_cons_blank {c : Char} (hc : isBlank c = true) (s : List Char) :
    words (c :: s) = words s := by
  rw [words, List.splitOnP_cons_eq_if_modifyHead, if_pos hc]
  rfl

lemma words_gap_append {g : List Char} (hg : IsGap g) (s : List Char) :
    words (g ++ s) = words s := by
  induction g with
  | nil => rfl
  | cons c g ih =>
    rw [List.cons_append, words_cons_blank (hg c (List.mem_cons_self ..))]
    exact ih fun d hd => hg d (List.mem_cons_of_mem c hd)

/-- A gap has no words. -/
lemma words_gap {g : List Char} (hg : IsGap g) : words g = [] := by
  have h := words_gap_append hg []
  rwa [List.append_nil] at h

lemma words_word_append {w t : List Char} (hw : IsWord w) (ht : EndsWord t) :
    words (w ++ t) = w :: words t := by
  have hsingle : words w = [w] := by
    rw [words, List.splitOnP_eq_singleton hw.not_isBlank]
    simp [hw.ne_nil]
  cases t with
  | nil => rw [List.append_nil, hsingle, words_gap isGap_nil]
  | cons c t =>
    have hc : isBlank c = true := ht c rfl
    rw [words, List.splitOnP_append_cons w t hc, List.filter_append, words_cons_blank hc, ← words,
      ← words, hsingle, List.singleton_append]

lemma isWord_of_mem_words {s w : List Char} (hw : w ∈ words s) : IsWord w := by
  induction s using words_induction with
  | gap g hg =>
    rw [words_gap hg] at hw
    cases hw
  | word g v t hg hv ht ih =>
    rw [words_gap_append hg, words_word_append hv ht, List.mem_cons] at hw
    obtain rfl | hw := hw
    · exact hv
    · exact ih hw

/-- The words, each behind a blank. -/
def unwords (ws : List (List Char)) : List Char := ws.flatMap fun w => ' ' :: w

lemma endsWord_unwords (ws : List (List Char)) : EndsWord (unwords ws) := by
  intro c hc
  cases ws with
  | nil => cases hc
  | cons w ws =>
    obtain rfl : ' ' = c := Option.some.inj hc
    exact isBlank_space

lemma words_unwords {ws : List (List Char)} (h : ∀ w ∈ ws, IsWord w) :
    words (unwords ws) = ws := by
  induction ws with
  | nil => exact words_gap isGap_nil
  | cons w ws ih =>
    obtain ⟨hw, hws⟩ := List.forall_mem_cons.mp h
    rw [unwords, List.flatMap_cons, List.cons_append, words_cons_blank isBlank_space, ← unwords,
      words_word_append hw (endsWord_unwords ws), ih hws]

end Text

namespace Facts

/-- The value of a word that is a fact with the given key. -/
def valueUnder? (key : String) (word : List Char) : Option String :=
  (Grammar.keyValue? word).bind fun fact =>
    if String.ofList fact.1 = key then some (String.ofList fact.2) else none

/-- The words of a text but for those that are facts with the given key. -/
def wordsBut (key : String) (s : List Char) : List (List Char) :=
  (words s).filter fun word => (valueUnder? key word).isNone

/-- The text with the words that are facts with the given key deleted. -/
def without (key : String) (s : List Char) : List Char := unwords (wordsBut key s)

lemma words_without (key : String) (s : List Char) : words (without key s) = wordsBut key s :=
  words_unwords fun _ hw => isWord_of_mem_words (List.mem_filter.mp hw).1

/-! ## Looking a key up among the words -/

lemma get?_gap {g : List Char} (hg : IsGap g) (key : String) : (read g).get? key = none := by
  rw [get?, last?, occurrences_gap hg]
  rfl

lemma get?_word {g w t : List Char} (hg : IsGap g) (hw : IsWord w) (ht : EndsWord t)
    (key : String) :
    (read (g ++ (w ++ t))).get? key = ((read t).get? key).or (valueUnder? key w) := by
  have hword : ((factOfWord? w t).toList.reverse.find? fun x => x.key = key).map Fact.value =
      valueUnder? key w := by
    rw [factOfWord?, valueUnder?, Grammar.keyValue?_eq_splitWord?]
    cases splitWord? w with
    | none => rfl
    | some fact =>
      by_cases hkey : String.ofList fact.1 = key
      · simp [hkey]
      · simp [hkey]
  rw [get?, last?, occurrences_word hg hw ht, List.reverse_append, List.find?_append, Option.map_or,
    hword]
  rfl

/-- The value of a key is that of the last word that is a fact with the key. -/
theorem get?_read (s : List Char) (key : String) :
    (read s).get? key = ((words s).filterMap (valueUnder? key)).getLast? := by
  induction s using words_induction with
  | gap g hg => rw [get?_gap hg, words_gap hg, List.filterMap_nil, List.getLast?_nil]
  | word g w t hg hw ht ih =>
    rw [get?_word hg hw ht, words_gap_append hg, words_word_append hw ht, ih,
      ← List.singleton_append, List.filterMap_append, List.getLast?_append]
    cases hvalue : valueUnder? key w with
    | none => simp [hvalue]
    | some value => simp [hvalue]

/-! ## Leaving the words of a key out -/

section LeftOut

variable {key : String} {s t : List Char}

/-- A word is a fact with one key only. -/
lemma valueUnder?_eq_none {other : String} (hne : other ≠ key) {word : List Char}
    (h : (valueUnder? key word).isNone = false) : valueUnder? other word = none := by
  unfold valueUnder? at h ⊢
  cases hfact : Grammar.keyValue? word with
  | none => rfl
  | some fact =>
    by_cases hkey : String.ofList fact.1 = key
    · simp [hkey, Ne.symm hne]
    · simp [hfact, hkey] at h

lemma filterMap_wordsBut_of_ne {other : String} (hne : other ≠ key) (s : List Char) :
    (wordsBut key s).filterMap (valueUnder? other) = (words s).filterMap (valueUnder? other) := by
  rw [wordsBut, List.filterMap_filter]
  refine List.filterMap_congr fun word _ => ?_
  split
  · rfl
  · next hkept => rw [valueUnder?_eq_none hne (Bool.not_eq_true _ ▸ hkept)]

lemma filterMap_wordsBut (key : String) (s : List Char) :
    (wordsBut key s).filterMap (valueUnder? key) = [] := by
  rw [List.filterMap_eq_nil_iff]
  intro word hword
  simpa using (List.mem_filter.mp hword).2

/-- What a text says under other keys is told by its words without those of one key. -/
theorem get?_eq_of_wordsBut_eq (h : wordsBut key s = wordsBut key t) {other : String}
    (hne : other ≠ key) : (read s).get? other = (read t).get? other := by
  rw [get?_read, get?_read, ← filterMap_wordsBut_of_ne hne s, h, filterMap_wordsBut_of_ne hne t]

/-- Deleting the words of a key takes that key away and leaves the others as they are. -/
theorem get?_of_words_eq (h : words t = wordsBut key s) :
    (read t).get? key = none ∧ ∀ other ≠ key, (read t).get? other = (read s).get? other := by
  constructor
  · rw [get?_read, h, filterMap_wordsBut, List.getLast?_nil]
  · intro other hne
    rw [get?_read, get?_read, h, filterMap_wordsBut_of_ne hne s]

end LeftOut

end Facts

end PipelineProfile
