import PipelineProfile.Proofs.Line.Words

/-!
# Facts as matches of a pattern

The facts of a text are what a search for a pattern finds.  The pattern is a key, an equals sign,
and then as many characters as there are up to the next blank, but at least one.  It has to stand at
the beginning of the text or behind a blank, and that one blank belongs to the match.  The search
goes from left to right, takes the leftmost match, and goes on behind it (`search`).

`searchAll_eq` shows that this search and `Facts.read`, which cuts the text into words first, find
the same facts with the same spans.  The reason is that a match reaches exactly to the end of a word
(`ahead?_word`), so that the next one cannot begin inside that word (`next?_word`), and needs no
more than the last blank of a gap (`next?_gap_word`).
-/

namespace PipelineProfile.Facts

open Text

/-! ## The pattern -/

/-- A match of the pattern in a text. -/
structure Match where
  /-- What stands before the match. -/
  before : List Char
  key : List Char
  value : List Char
  /-- What follows the match. -/
  rest : List Char

/-- The match in a longer text, with `s` before it. -/
def Match.prepend (s : List Char) (m : Match) : Match := { m with before := s ++ m.before }

/-- The fact of a match, given what stands between it and the next one. -/
def Match.fact (m : Match) (behind : List Char) : Fact where
  key := String.ofList m.key
  value := String.ofList m.value
  span := String.ofList (m.value ++ behind)

/-- A key, an equals sign and a value at the beginning of a text. -/
def ahead? (s : List Char) : Option Match :=
  match s.takeWhile isKeyChar, s.dropWhile isKeyChar with
  | k :: key, '=' :: c :: rest =>
    if isKeyStart k && !isBlank c then
      some
        { before := []
          key := k :: key
          value := (c :: rest).takeWhile fun d => !isBlank d
          rest := (c :: rest).dropWhile fun d => !isBlank d }
    else none
  | _, _ => none

/-- The leftmost match of a text that begins with a blank. -/
def next? : List Char → Option Match
  | [] => none
  | c :: s => (if isBlank c then ahead? s else none).or ((next? s).map (Match.prepend [c]))

lemma length_rest_of_ahead? {s : List Char} {m : Match} (h : ahead? s = some m) :
    m.rest.length ≤ s.length := by
  have hdrop : (s.dropWhile isKeyChar).length ≤ s.length := List.length_dropWhile_le ..
  unfold ahead? at h
  split at h
  · next k key c rest _ hrest =>
    rw [hrest, List.length_cons] at hdrop
    split at h
    · obtain rfl := Option.some.inj h
      have hvalue : ((c :: rest).dropWhile fun d => !isBlank d).length ≤ (c :: rest).length :=
        List.length_dropWhile_le ..
      exact Nat.le_trans hvalue (Nat.le_trans (Nat.le_succ _) hdrop)
    · cases h
  · cases h

lemma length_rest_of_next? {s : List Char} {m : Match} (h : next? s = some m) :
    m.rest.length < s.length := by
  induction s generalizing m with
  | nil => cases h
  | cons c s ih =>
    rw [next?, Option.or_eq_some_iff] at h
    rw [List.length_cons, Nat.lt_succ_iff]
    obtain hahead | ⟨-, hnext⟩ := h
    · split at hahead
      · exact length_rest_of_ahead? hahead
      · cases hahead
    · obtain ⟨m', hm', rfl⟩ := Option.map_eq_some_iff.mp hnext
      have hlater : m'.rest.length < s.length := ih hm'
      exact Nat.le_of_lt hlater

/-- The matches of a text behind another match: what stands before the first one, and the facts. -/
def search (s : List Char) : List Char × List Fact :=
  match _h : next? s with
  | none => (s, [])
  | some m =>
    let found := search m.rest
    (m.before, m.fact found.1 :: found.2)
termination_by s.length
decreasing_by exact length_rest_of_next? _h

/-- The facts that the search finds in a whole text.  Only the first one may stand at the very
beginning, without a blank before it. -/
def searchAll (s : List Char) : List Fact :=
  match ahead? s with
  | none => (search s).2
  | some m =>
    let found := search m.rest
    m.fact found.1 :: found.2

lemma search_of_none {s : List Char} (h : next? s = none) : search s = (s, []) := by
  rw [search]
  split
  · rfl
  · next m hm => rw [h] at hm; cases hm

lemma search_of_some {s : List Char} {m : Match} (h : next? s = some m) :
    search s = (m.before, m.fact (search m.rest).1 :: (search m.rest).2) := by
  rw [search]
  split
  · next hm => rw [h] at hm; cases hm
  · next m' hm =>
    obtain rfl := Option.some.inj (h.symm.trans hm)
    rfl

/-- A search passes over a text in which no match begins. -/
lemma search_append {p t : List Char} (h : next? (p ++ t) = (next? t).map (Match.prepend p)) :
    search (p ++ t) = (p ++ (search t).1, (search t).2) := by
  cases hnext : next? t with
  | none =>
    rw [hnext] at h
    rw [search_of_none h, search_of_none hnext]
  | some m =>
    rw [hnext] at h
    rw [search_of_some h, search_of_some hnext]
    rfl

/-! ## Where matches are -/

lemma takeWhile_isKeyChar_of_endsWord {t : List Char} (ht : EndsWord t) :
    t.takeWhile isKeyChar = [] := by
  cases t with
  | nil => rfl
  | cons c t => rw [List.takeWhile_cons_of_neg (by simp [isKeyChar_of_isBlank (ht c rfl)])]

lemma dropWhile_isKeyChar_of_endsWord {t : List Char} (ht : EndsWord t) :
    t.dropWhile isKeyChar = t := by
  cases t with
  | nil => rfl
  | cons c t => rw [List.dropWhile_cons_of_neg (by simp [isKeyChar_of_isBlank (ht c rfl)])]

lemma ahead?_of_endsWord {t : List Char} (ht : EndsWord t) : ahead? t = none := by
  rw [ahead?, takeWhile_isKeyChar_of_endsWord ht]

/-- At the beginning of a word there is a match exactly if the word is a fact, and it reaches to the
end of the word. -/
lemma ahead?_word {w t : List Char} (hw : IsWord w) (ht : EndsWord t) :
    ahead? (w ++ t) = (splitWord? w).map fun f => ⟨[], f.1, f.2, t⟩ := by
  have htake : (w ++ t).takeWhile isKeyChar = w.takeWhile isKeyChar := by
    rw [List.takeWhile_append, takeWhile_isKeyChar_of_endsWord ht, List.append_nil]
    split
    · next hall => exact ((List.takeWhile_prefix isKeyChar).eq_of_length hall).symm
    · rfl
  have hdrop : (w ++ t).dropWhile isKeyChar = w.dropWhile isKeyChar ++ t := by
    rw [List.dropWhile_append, dropWhile_isKeyChar_of_endsWord ht]
    split
    · next hnil => rw [List.isEmpty_iff.mp hnil, List.nil_append]
    · rfl
  have hmem : ∀ c ∈ w.dropWhile isKeyChar, isBlank c = false := fun c hc =>
    hw.not_isBlank c ((List.dropWhile_sublist isKeyChar).subset hc)
  rw [ahead?, splitWord?, htake, hdrop]
  cases w.takeWhile isKeyChar with
  | nil => rfl
  | cons k key =>
    rcases hrest : w.dropWhile isKeyChar with _ | ⟨c, _ | ⟨v, value⟩⟩
    · -- The text behind the word does not begin with an equals sign.
      cases t with
      | nil => rfl
      | cons c t =>
        have hne : c ≠ '=' := by
          rintro rfl
          exact absurd (ht '=' rfl) (by decide)
        simp [hne]
    · by_cases hc : c = '='
      · subst hc
        cases t with
        | nil => rfl
        | cons d t => simp [ht d rfl]
      · simp [hc]
    · by_cases hc : c = '='
      · subst hc
        have hv : isBlank v = false := hmem v (by simp [hrest])
        have hvalue : IsWord (v :: value) :=
          ⟨List.cons_ne_nil v value, fun d hd => hmem d (by simp [hrest, List.mem_cons.mp hd])⟩
        have htaken := hvalue.takeWhile_append ht
        have hleft := hvalue.dropWhile_append ht
        simp only [List.cons_append] at htaken hleft
        simp only [List.cons_append, htaken, hleft, hv, Bool.not_false, Bool.and_true]
        split
        · rfl
        · rfl
      · simp [hc]

/-- No match begins inside a word. -/
lemma next?_word {w : List Char} (hw : ∀ c ∈ w, isBlank c = false) (t : List Char) :
    next? (w ++ t) = (next? t).map (Match.prepend w) := by
  induction w with
  | nil =>
    rw [List.nil_append]
    cases next? t with
    | none => rfl
    | some m => rfl
  | cons c w ih =>
    have hc : isBlank c = false := hw c (List.mem_cons_self ..)
    rw [List.cons_append, next?, hc, ih fun d hd => hw d (List.mem_cons_of_mem c hd)]
    cases next? t with
    | none => rfl
    | some m => rfl

lemma next?_gap {g : List Char} (hg : IsGap g) : next? g = none := by
  induction g with
  | nil => rfl
  | cons c g ih =>
    have hrest : IsGap g := fun d hd => hg d (List.mem_cons_of_mem c hd)
    rw [next?, ahead?_of_endsWord hrest.endsWord, ite_self, ih hrest]
    rfl

/-- Behind a gap the next match is the word there, with the last blank of the gap, or else the next
one behind that word. -/
lemma next?_gap_word {g w t : List Char} (hg : IsGap g) (hne : g ≠ []) (hw : IsWord w)
    (ht : EndsWord t) : next? (g ++ (w ++ t)) =
      ((splitWord? w).map fun f => ⟨g.dropLast, f.1, f.2, t⟩).or
        ((next? t).map (Match.prepend (g ++ w))) := by
  induction g with
  | nil => exact absurd rfl hne
  | cons c g ih =>
    have hc : isBlank c = true := hg c (List.mem_cons_self ..)
    have hrest : IsGap g := fun d hd => hg d (List.mem_cons_of_mem c hd)
    rw [List.cons_append, next?, hc, if_pos rfl]
    by_cases hnil : g = []
    · subst hnil
      rw [List.nil_append, ahead?_word hw ht, next?_word hw.not_isBlank, Option.map_map]
      rfl
    · have hahead : ahead? (g ++ (w ++ t)) = none := by
        obtain ⟨d, g', rfl⟩ := List.exists_cons_of_ne_nil hnil
        refine ahead?_of_endsWord fun e he => ?_
        obtain rfl : d = e := by simpa using he
        exact hrest d (List.mem_cons_self ..)
      rw [hahead, ih hrest hnil, Option.map_or, Option.map_map, Option.map_map,
        List.dropLast_cons_of_ne_nil hnil]
      rfl

/-! ## The search finds what is read -/

/-- Behind a match the search finds the facts that are read, and stops for the first of them where
the span of the match ends. -/
lemma search_eq {s : List Char} (hs : EndsWord s) :
    search s = (spanBehind s, (read s).occurrences) := by
  induction s using words_induction with
  | gap g hg => rw [search_of_none (next?_gap hg), spanBehind_gap hg, occurrences_gap hg]
  | word g w t hg hw ht ih =>
    have hne : g ≠ [] := hs.ne_nil hw
    have hrest : search t = (spanBehind t, (read t).occurrences) := ih ht
    have hnext := next?_gap_word hg hne hw ht
    rw [spanBehind_word hg hne hw ht, occurrences_word hg hw ht, factOfWord?]
    cases hfact : splitWord? w with
    | some fact =>
      rw [hfact] at hnext
      rw [search_of_some hnext, hrest]
      rfl
    | none =>
      rw [hfact, ← List.append_assoc] at hnext
      rw [← List.append_assoc, search_append hnext, hrest, List.append_assoc]
      rfl

/-- The search for the pattern finds the facts that are read. -/
theorem searchAll_eq (s : List Char) : searchAll s = (read s).occurrences := by
  induction s using words_induction with
  | gap g hg =>
    rw [searchAll, ahead?_of_endsWord hg.endsWord, search_eq hg.endsWord]
  | word g w t hg hw ht _ =>
    by_cases hne : g = []
    · subst hne
      have hread := occurrences_word hg hw ht
      rw [List.nil_append, factOfWord?] at hread
      rw [List.nil_append, searchAll, ahead?_word hw ht, hread]
      cases splitWord? w with
      | some fact =>
        rw [Option.map_some]
        dsimp only
        rw [search_eq ht]
        rfl
      | none =>
        rw [Option.map_none]
        dsimp only
        rw [search_append (next?_word hw.not_isBlank t), search_eq ht]
        rfl
    · have hends : EndsWord (g ++ (w ++ t)) := by
        obtain ⟨c, g', rfl⟩ := List.exists_cons_of_ne_nil hne
        intro d hd
        obtain rfl : c = d := by simpa using hd
        exact hg c (List.mem_cons_self ..)
      rw [searchAll, ahead?_of_endsWord hends, search_eq hends]

end PipelineProfile.Facts
