import PipelineProfile.Proofs.Line.Facts
import PipelineProfile.Proofs.Line.Pattern

/-!
# The grammar of facts

What the facts of a text are, told by positions and without a reader.  A word begins at a position
if there is a character other than a blank there, and nothing or a blank before it
(`Grammar.wordBegins`); it goes on to the next blank.  A word is a fact if what stands before its
first equals sign is a key and something stands behind it (`Grammar.keyValue?`).  The span of a fact
goes from its value up to the blank directly before the next fact of any key, or to the end of the
text (`Grammar.spanEnd`).

The main result is `read_followsGrammar`: reading a text gives the facts of the grammar, in their
order.  Of these the list of facts that count keeps every key once, in the order in which the keys
first come, with the value and the span that it has where it comes last, and all look-ups read that
list.
-/

namespace PipelineProfile.Facts

open Text

/-! ## The grammar -/

namespace Grammar

/-- Whether the text is a key. -/
def isKey : List Char → Bool
  | [] => false
  | c :: cs => isKeyStart c && cs.all isKeyChar

/-- What stands before the first equals sign of a word and what stands behind it, if the one is a
key and the other is not empty. -/
def keyValue? (word : List Char) : Option (List Char × List Char) :=
  let key := word.takeWhile fun c => c ≠ '='
  let value := (word.dropWhile fun c => c ≠ '=').tail
  if isKey key && !value.isEmpty then some (key, value) else none

/-- Whether a word begins at a position. -/
def wordBegins (s : List Char) (i : Nat) : Bool :=
  s[i]?.any (fun c => !isBlank c) && (i = 0 || s[i - 1]?.any isBlank)

/-- All characters from a position up to the next blank. -/
def wordAt (s : List Char) (i : Nat) : List Char := (s.drop i).takeWhile fun c => !isBlank c

/-- The positions at which words begin that are facts. -/
def factStarts (s : List Char) : List Nat :=
  (List.range s.length).filter fun i => wordBegins s i && (keyValue? (wordAt s i)).isSome

/-- The position of the blank before the next fact, or the end of the text if there is no next
fact. -/
def endBefore (length : Nat) : Option Nat → Nat
  | some next => next - 1
  | none => length

/-- Where the span of the fact at a position ends. -/
def spanEnd (s : List Char) (i : Nat) : Nat :=
  endBefore s.length ((factStarts s).find? fun j => i < j)

/-- The fact at a position. -/
def factAt? (s : List Char) (i : Nat) : Option Fact :=
  (keyValue? (wordAt s i)).map fun fact =>
    { key := String.ofList fact.1
      value := String.ofList fact.2
      span := String.ofList ((s.take (spanEnd s i)).drop (i + fact.1.length + 1)) }

/-- The facts of a text, in their order. -/
def facts (s : List Char) : List Fact := (factStarts s).filterMap (factAt? s)

end Grammar

/-- What it means that some facts are those of a text. -/
structure FollowsGrammar (s : List Char) (f : Facts) : Prop where
  /-- They are the facts of the grammar. -/
  occurrences : f.occurrences = Grammar.facts s
  /-- They are also what a search for the pattern finds. -/
  pattern : f.occurrences = searchAll s
  /-- Every key is listed once, where it comes first. -/
  keys : f.toList.map Fact.key = ((Grammar.facts s).map Fact.key).eraseDups
  /-- Value and span are those that the key has where it comes last. -/
  last : ∀ x ∈ f.toList, ∃ before after,
    Grammar.facts s = before ++ x :: after ∧ x.key ∉ after.map Fact.key
  /-- All look-ups read the list. -/
  lookup : ∀ key, f.last? key = f.toList.find? fun x => x.key = key
  /-- A span begins with its value. -/
  span : ∀ x ∈ f.occurrences, x.value.toList <+: x.span.toList

namespace Grammar

/-! ## Words that are facts -/

lemma takeWhile_isKeyChar_of_not_all {k : List Char} (hk : k.all isKeyChar = false)
    (r : List Char) : ∃ c ∈ k, ∃ t, (k ++ r).dropWhile isKeyChar = c :: t := by
  induction k with
  | nil => cases hk
  | cons c k ih =>
    by_cases hc : isKeyChar c = true
    · have hrest : k.all isKeyChar = false := by simpa [hc] using hk
      obtain ⟨d, hd, t, ht⟩ := ih hrest
      exact ⟨d, List.mem_cons_of_mem c hd, t, by simpa [hc] using ht⟩
    · exact ⟨c, List.mem_cons_self .., k ++ r, by simp [hc]⟩

/-- The reader of words, which takes the longest possible key, decides as the grammar does. -/
lemma keyValue?_eq_splitWord? (word : List Char) : keyValue? word = splitWord? word := by
  have hsplit : (word.takeWhile fun c => c ≠ '=') ++ (word.dropWhile fun c => c ≠ '=') = word :=
    List.takeWhile_append_dropWhile
  have hkey : ∀ c ∈ word.takeWhile (fun c => c ≠ '='), c ≠ '=' := by
    intro c hc
    simpa using List.mem_takeWhile_imp hc
  have hhead := List.head?_dropWhile_not (fun c => decide (c ≠ '=')) word
  rw [keyValue?]
  generalize (word.takeWhile fun c => c ≠ '=') = key at hsplit hkey
  generalize (word.dropWhile fun c => c ≠ '=') = rest at hsplit hhead
  subst hsplit
  by_cases hall : key.all isKeyChar = true
  · have hnot : rest.takeWhile isKeyChar = [] ∧ rest.dropWhile isKeyChar = rest := by
      cases rest with
      | nil => exact ⟨rfl, rfl⟩
      | cons c rest =>
        obtain rfl : c = '=' := by simpa using hhead
        exact ⟨rfl, rfl⟩
    have hchars : ∀ c ∈ key, isKeyChar c = true := List.all_eq_true.mp hall
    rw [splitWord?, List.takeWhile_append_of_pos hchars, List.dropWhile_append_of_pos hchars,
      hnot.1, hnot.2, List.append_nil]
    cases key with
    | nil => simp [isKey]
    | cons k key =>
      have htail : key.all isKeyChar = true := by simpa using (by simpa using hall : _ ∧ _).2
      rcases rest with _ | ⟨c, _ | ⟨v, value⟩⟩
      · simp
      · by_cases hc : c = '='
        · simp [hc]
        · simp
      · obtain rfl : c = '=' := by simpa using hhead
        simp [isKey, htail]
  · have hnone : isKey key = false := by
      cases key with
      | nil => rfl
      | cons k key =>
        have hnotall : ¬ ((isKeyChar k && key.all isKeyChar) = true) := hall
        rw [isKey, Bool.eq_false_iff]
        intro h
        obtain ⟨hk, hrest⟩ := Bool.and_eq_true_iff.mp h
        exact hnotall (by rw [isKeyChar, hk, hrest]; rfl)
    obtain ⟨c, hc, t, ht⟩ := takeWhile_isKeyChar_of_not_all (Bool.eq_false_iff.mpr hall) rest
    rw [hnone, splitWord?, ht]
    have hne : c ≠ '=' := hkey c hc
    cases (key ++ rest).takeWhile isKeyChar with
    | nil => simp
    | cons k ks => cases t <;> simp [hne]

lemma eq_append_of_keyValue? {word key value : List Char} (h : keyValue? word = some (key, value)) :
    word = key ++ '=' :: value := by
  have hsplit : (word.takeWhile fun c => c ≠ '=') ++ (word.dropWhile fun c => c ≠ '=') = word :=
    List.takeWhile_append_dropWhile
  have hhead := List.head?_dropWhile_not (fun c => decide (c ≠ '=')) word
  rw [keyValue?] at h
  generalize (word.takeWhile fun c => c ≠ '=') = before at hsplit h
  generalize (word.dropWhile fun c => c ≠ '=') = rest at hsplit hhead h
  split at h
  · next hfact =>
    obtain ⟨rfl, rfl⟩ := Prod.mk.inj (Option.some.inj h)
    cases rest with
    | nil => simp at hfact
    | cons c rest =>
      obtain rfl : c = '=' := by simpa using hhead
      exact hsplit.symm
  · cases h

/-! ## Positions

A word with a gap before it and some text behind it: the positions in front of that text are those
below `(g ++ w).length`, and in the text they are counted from there. -/

section Positions

variable {g w t : List Char}

lemma wordBegins_lt (hg : IsGap g) (hw : IsWord w) {i : Nat} (hi : i < (g ++ w).length) :
    wordBegins (g ++ w ++ t) i = decide (i = g.length) := by
  have hblank : ∀ j, j < g.length → ∃ c, (g ++ w ++ t)[j]? = some c ∧ isBlank c = true := by
    intro j hj
    refine ⟨g[j], ?_, hg _ (List.getElem_mem hj)⟩
    rw [List.append_assoc, List.getElem?_append_left hj, List.getElem?_eq_getElem hj]
  have hink : ∀ j, g.length ≤ j → j < (g ++ w).length →
      ∃ c, (g ++ w ++ t)[j]? = some c ∧ isBlank c = false := by
    intro j hle hj
    have hj' : j - g.length < w.length := by
      rw [List.length_append] at hj
      omega
    refine ⟨w[j - g.length], ?_, hw.not_isBlank _ (List.getElem_mem hj')⟩
    rw [List.getElem?_append_left hj, List.getElem?_append_right hle, List.getElem?_eq_getElem hj']
  rw [wordBegins]
  obtain hlt | heq | hgt := Nat.lt_trichotomy i g.length
  · obtain ⟨c, hc, hcblank⟩ := hblank i hlt
    have hne : i ≠ g.length := by omega
    rw [hc]
    simp [hcblank, hne]
  · subst heq
    obtain ⟨c, hc, hcblank⟩ := hink g.length (Nat.le_refl _) hi
    rw [hc]
    by_cases hzero : g.length = 0
    · simp [hcblank, hzero]
    · obtain ⟨d, hd, hdblank⟩ := hblank (g.length - 1) (by omega)
      rw [hd]
      simp [hcblank, hdblank]
  · -- Before a later character of the word there is another one.
    obtain ⟨d, hd, hdblank⟩ := hink (i - 1) (by omega) (by omega)
    have hne : i ≠ g.length := by omega
    have hpos : i ≠ 0 := by omega
    rw [hd]
    simp [hdblank, hne, hpos]

lemma wordBegins_add (ht : EndsWord t) (p : List Char) (hw : IsWord w) (j : Nat) :
    wordBegins (p ++ w ++ t) ((p ++ w).length + j) = wordBegins t j := by
  have hpos : 0 < w.length := List.length_pos_iff.mpr hw.ne_nil
  have hshift : ∀ k, (p ++ w ++ t)[(p ++ w).length + k]? = t[k]? := by
    intro k
    rw [List.getElem?_append_right (Nat.le_add_right ..), Nat.add_sub_cancel_left]
  cases j with
  | zero =>
    -- The text behind a word does not begin with a word.
    have hnot : (t[0]?).any (fun c => !isBlank c) = false := by
      cases t with
      | nil => rfl
      | cons c t => simp [ht c rfl]
    rw [wordBegins, wordBegins, hshift, hnot, Bool.false_and, Bool.false_and]
  | succ j =>
    have hprev : (p ++ w).length + (j + 1) - 1 = (p ++ w).length + j := rfl
    rw [wordBegins, wordBegins, hshift, hprev, hshift]
    simp

lemma wordAt_gap (hw : IsWord w) (ht : EndsWord t) (g : List Char) :
    wordAt (g ++ w ++ t) g.length = w := by
  rw [wordAt, List.append_assoc, List.drop_left, hw.takeWhile_append ht]

lemma wordAt_add (p t : List Char) (j : Nat) : wordAt (p ++ t) (p.length + j) = wordAt t j := by
  rw [wordAt, List.drop_length_add_append, wordAt]

lemma factStarts_gap (hg : IsGap g) : factStarts g = [] := by
  rw [factStarts, List.filter_eq_nil_iff]
  intro i hi
  have hlt : i < g.length := List.mem_range.mp hi
  simp [wordBegins, List.getElem?_eq_getElem hlt, hg _ (List.getElem_mem hlt)]

lemma factStarts_word (hg : IsGap g) (hw : IsWord w) (ht : EndsWord t) :
    factStarts (g ++ w ++ t) =
      (if (splitWord? w).isSome then [g.length] else []) ++
        (factStarts t).map ((g ++ w).length + ·) := by
  have hpos : 0 < w.length := List.length_pos_iff.mpr hw.ne_nil
  have hfront : ((List.range (g ++ w).length).filter fun i =>
      wordBegins (g ++ w ++ t) i && (keyValue? (wordAt (g ++ w ++ t) i)).isSome) =
        if (splitWord? w).isSome then [g.length] else [] := by
    have hcongr : ∀ i ∈ List.range (g ++ w).length,
        (wordBegins (g ++ w ++ t) i && (keyValue? (wordAt (g ++ w ++ t) i)).isSome) =
          (decide (i = g.length) && (splitWord? w).isSome) := by
      intro i hi
      rw [wordBegins_lt hg hw (List.mem_range.mp hi)]
      by_cases heq : i = g.length
      · rw [heq, wordAt_gap hw ht, keyValue?_eq_splitWord?]
      · simp [heq]
    rw [List.filter_congr hcongr]
    have hmem : g.length ∈ List.range (g ++ w).length := by
      rw [List.mem_range, List.length_append]
      omega
    have hone : (List.range (g ++ w).length).filter (fun i => decide (i = g.length)) =
        [g.length] := by
      rw [List.filter_eq, List.nodup_range.count, if_pos hmem]
      rfl
    cases hfact : (splitWord? w).isSome with
    | true => simpa using hone
    | false => simp
  have hback : ((List.range t.length).filter fun j =>
      wordBegins (g ++ w ++ t) ((g ++ w).length + j) &&
        (keyValue? (wordAt (g ++ w ++ t) ((g ++ w).length + j))).isSome) = factStarts t := by
    rw [factStarts]
    refine List.filter_congr fun j _ => ?_
    rw [wordBegins_add ht g hw, wordAt_add]
  rw [factStarts, List.length_append, List.range_add, List.filter_append, hfront, List.filter_map]
  congr 1
  congr 1

/-! ## Spans -/

lemma endBefore_add {n length : Nat} {next : Option Nat} (h : ∀ k ∈ next, 1 ≤ k) :
    endBefore (n + length) (next.map (n + ·)) = n + endBefore length next := by
  cases next with
  | none => rfl
  | some k =>
    have hpos : 1 ≤ k := h k rfl
    exact Nat.add_sub_assoc hpos n

/-- Behind a word no fact begins at once. -/
lemma pos_of_mem_factStarts (ht : EndsWord t) {k : Nat} (hk : k ∈ factStarts t) : 1 ≤ k := by
  obtain ⟨-, hfact⟩ := List.mem_filter.mp hk
  have hbegins : wordBegins t k = true := (Bool.and_eq_true_iff.mp hfact).1
  refine Nat.one_le_iff_ne_zero.mpr fun hzero => ?_
  subst hzero
  cases t with
  | nil => cases hbegins
  | cons c t => simp [wordBegins, ht c rfl] at hbegins

lemma pos_of_mem_head? (ht : EndsWord t) : ∀ k ∈ (factStarts t).head?, 1 ≤ k :=
  fun _ hk => pos_of_mem_factStarts ht (List.mem_of_mem_head? hk)

/-- The span of the fact that a word is ends before the first fact behind the word. -/
lemma spanEnd_gap (hg : IsGap g) (hw : IsWord w) (ht : EndsWord t) :
    spanEnd (g ++ w ++ t) g.length =
      (g ++ w).length + endBefore t.length (factStarts t).head? := by
  have hpos : 0 < w.length := List.length_pos_iff.mpr hw.ne_nil
  have hfront : (if (splitWord? w).isSome then [g.length] else []).find?
      (fun j => decide (g.length < j)) = none := by
    cases (splitWord? w).isSome with
    | true => simp
    | false => rfl
  have hall : ((fun j => decide (g.length < j)) ∘ fun k => (g ++ w).length + k) =
      fun _ => true := by
    funext k
    rw [Function.comp_apply, decide_eq_true_eq, List.length_append]
    omega
  have hnext : (factStarts (g ++ w ++ t)).find? (fun j => decide (g.length < j)) =
      (factStarts t).head?.map ((g ++ w).length + ·) := by
    rw [factStarts_word hg hw ht, List.find?_append, hfront, Option.none_or, List.find?_map, hall]
    cases factStarts t with
    | nil => rfl
    | cons k ks => rfl
  rw [spanEnd, hnext, List.length_append, endBefore_add (pos_of_mem_head? ht)]

/-- Facts behind a word have the spans that they have without the word. -/
lemma spanEnd_add (hg : IsGap g) (hw : IsWord w) (ht : EndsWord t) (j : Nat) :
    spanEnd (g ++ w ++ t) ((g ++ w).length + j) = (g ++ w).length + spanEnd t j := by
  have hfront : (if (splitWord? w).isSome then [g.length] else []).find?
      (fun k => decide ((g ++ w).length + j < k)) = none := by
    have hnot : ¬ (g ++ w).length + j < g.length := by
      rw [List.length_append]
      omega
    cases (splitWord? w).isSome with
    | true => simp only [if_true, List.find?_cons, hnot, decide_false, List.find?_nil]
    | false => rfl
  have hshift : ((fun k => decide ((g ++ w).length + j < k)) ∘ fun k => (g ++ w).length + k) =
      fun k => decide (j < k) := by
    funext k
    exact decide_eq_decide.mpr Nat.add_lt_add_iff_left
  have hnext : (factStarts (g ++ w ++ t)).find? (fun k => decide ((g ++ w).length + j < k)) =
      ((factStarts t).find? fun k => j < k).map ((g ++ w).length + ·) := by
    rw [factStarts_word hg hw ht, List.find?_append, hfront, Option.none_or, List.find?_map, hshift]
  have hpos : ∀ k ∈ (factStarts t).find? fun k => decide (j < k), 1 ≤ k := fun k hk =>
    pos_of_mem_factStarts ht (List.mem_of_find?_eq_some hk)
  rw [spanEnd, hnext, List.length_append, endBefore_add hpos, spanEnd]

end Positions

/-- What a span has of the text behind its value is that text up to its end. -/
lemma take_endBefore {t : List Char} (ht : EndsWord t) :
    t.take (endBefore t.length (factStarts t).head?) = spanBehind t := by
  induction t using words_induction with
  | gap g hg =>
    rw [factStarts_gap hg, spanBehind_gap hg]
    exact List.take_length
  | word g w t hg hw ht' ih =>
    have hne : g ≠ [] := ht.ne_nil hw
    have hstarts := factStarts_word hg hw ht'
    rw [spanBehind_word hg hne hw ht', ← List.append_assoc, hstarts]
    cases hfact : (splitWord? w).isSome with
    | true =>
      have hle : g.length - 1 ≤ g.length := Nat.sub_le ..
      simp only [if_true, List.singleton_append, List.head?_cons, endBefore]
      rw [List.append_assoc, List.take_append_of_le_length hle, List.dropLast_eq_take]
    | false =>
      simp only [Bool.false_eq_true, if_false, List.nil_append, List.head?_map]
      rw [List.length_append, endBefore_add (pos_of_mem_head? ht'), List.take_length_add_append,
        ih ht', List.append_assoc]

/-! ## The facts along a text -/

lemma facts_gap {g : List Char} (hg : IsGap g) : facts g = [] := by
  rw [facts, factStarts_gap hg, List.filterMap_nil]

section Word

variable {g w t : List Char}

lemma factAt?_gap (hg : IsGap g) (hw : IsWord w) (ht : EndsWord t) :
    factAt? (g ++ w ++ t) g.length = factOfWord? w t := by
  rw [factAt?, wordAt_gap hw ht, spanEnd_gap hg hw ht, List.take_length_add_append,
    take_endBefore ht, factOfWord?, keyValue?_eq_splitWord?]
  cases hfact : splitWord? w with
  | none => rfl
  | some fact =>
    obtain ⟨key, value⟩ := fact
    have hword : w = key ++ '=' :: value := eq_append_of_keyValue? (by
      rw [keyValue?_eq_splitWord?, hfact])
    have hspan : (g ++ w ++ spanBehind t).drop (g.length + key.length + 1) =
        value ++ spanBehind t := by
      have hlength : (g ++ key ++ ['=']).length = g.length + key.length + 1 := by
        rw [List.length_append, List.length_append]
        rfl
      have hcut : g ++ w ++ spanBehind t = (g ++ key ++ ['=']) ++ (value ++ spanBehind t) := by
        rw [hword]
        simp
      rw [hcut, ← hlength, List.drop_left]
    rw [Option.map_some, Option.map_some, hspan]

lemma factAt?_add (hg : IsGap g) (hw : IsWord w) (ht : EndsWord t) (j : Nat) :
    factAt? (g ++ w ++ t) ((g ++ w).length + j) = factAt? t j := by
  rw [factAt?, wordAt_add, spanEnd_add hg hw ht, List.take_length_add_append, factAt?]
  congr 1
  funext fact
  have hsum : (g ++ w).length + j + fact.1.length + 1 =
      (g ++ w).length + (j + fact.1.length + 1) := by omega
  rw [hsum, List.drop_length_add_append]

/-- A word adds the fact that it is to those of the text behind it. -/
lemma facts_word (hg : IsGap g) (hw : IsWord w) (ht : EndsWord t) :
    facts (g ++ (w ++ t)) = (factOfWord? w t).toList ++ facts t := by
  have hback : ((factStarts t).map ((g ++ w).length + ·)).filterMap (factAt? (g ++ w ++ t)) =
      facts t := by
    rw [List.filterMap_map, facts]
    exact List.filterMap_congr fun j _ => factAt?_add hg hw ht j
  have hfront : (if (splitWord? w).isSome then [g.length] else []).filterMap
      (factAt? (g ++ w ++ t)) = (factOfWord? w t).toList := by
    have hat := factAt?_gap hg hw ht
    cases hfact : splitWord? w with
    | none =>
      rw [factOfWord?, hfact]
      rfl
    | some fact =>
      rw [factOfWord?, hfact] at hat
      rw [factOfWord?, hfact, Option.isSome_some, if_pos rfl, List.filterMap_cons, hat]
      rfl
  rw [← List.append_assoc, facts, factStarts_word hg hw ht, List.filterMap_append, hfront, hback]

end Word

/-- Reading a text gives the facts of the grammar. -/
theorem occurrences_eq_facts (s : List Char) : (read s).occurrences = facts s := by
  induction s using words_induction with
  | gap g hg => rw [occurrences_gap hg, facts_gap hg]
  | word g w t hg hw ht ih => rw [occurrences_word hg hw ht, facts_word hg hw ht, ih]

end Grammar

/-! ## The facts that count -/

/-- The fact that counts is the last one with its key. -/
lemma exists_append_of_last? {f : Facts} {key : String} {x : Fact} (h : f.last? key = some x) :
    ∃ before after, f.occurrences = before ++ x :: after ∧ x.key ∉ after.map Fact.key := by
  have hkey : x.key = key := key_of_last? h
  obtain ⟨-, later, earlier, hsplit, hlater⟩ := List.find?_eq_some_iff_append.mp h
  refine ⟨earlier.reverse, later.reverse, ?_, ?_⟩
  · rw [← List.reverse_reverse f.occurrences, hsplit]
    simp
  · rintro hmem
    obtain ⟨y, hy, hykey⟩ := List.mem_map.mp hmem
    have hnot := hlater y (List.mem_reverse.mp hy)
    rw [hykey, hkey] at hnot
    simp at hnot

lemma last?_eq_find?_toList (f : Facts) (key : String) :
    f.last? key = f.toList.find? fun x => x.key = key := by
  cases hlast : f.last? key with
  | none =>
    symm
    rw [List.find?_eq_none]
    intro x hx hkey
    obtain ⟨key', -, hx'⟩ := List.mem_filterMap.mp hx
    have hkeys : key' = key := (key_of_last? hx').symm.trans (by simpa using hkey)
    rw [hkeys, hlast] at hx'
    cases hx'
  | some x =>
    have hkey : x.key = key := key_of_last? hlast
    have hgiven : key ∈ f.occurrences.map Fact.key := by
      rw [← isSome_last?_iff, hlast]
      rfl
    have hx : x ∈ f.toList := by
      rw [toList, List.mem_filterMap]
      exact ⟨key, List.mem_eraseDups.mpr hgiven, hlast⟩
    -- The list has no other fact with the key.
    have hunique : ∀ y ∈ f.toList, y.key = key → y = x := by
      intro y hy hykey
      obtain ⟨key', -, hy'⟩ := List.mem_filterMap.mp hy
      have hkeys : key' = key := (key_of_last? hy').symm.trans hykey
      rw [hkeys, hlast] at hy'
      exact (Option.some.inj hy').symm
    cases hfind : f.toList.find? fun y => y.key = key with
    | none =>
      have hnot := List.find?_eq_none.mp hfind x hx
      simp [hkey] at hnot
    | some y =>
      have hykey : y.key = key := by simpa using List.find?_some hfind
      rw [hunique y (List.mem_of_find?_eq_some hfind) hykey]

lemma value_prefix_span {s : List Char} {x : Fact} (hx : x ∈ (read s).occurrences) :
    x.value.toList <+: x.span.toList := by
  obtain ⟨w, t, hword⟩ := exists_word_of_mem_occurrences hx
  obtain ⟨fact, -, rfl⟩ := Option.map_eq_some_iff.mp hword
  simp

/-- Reading a text gives its facts as the grammar tells them. -/
theorem read_followsGrammar (s : List Char) : FollowsGrammar s (read s) := by
  have hfacts : (read s).occurrences = Grammar.facts s := Grammar.occurrences_eq_facts s
  constructor
  case occurrences => exact hfacts
  case pattern => exact (searchAll_eq s).symm
  case keys => rw [← hfacts, map_key_toList]
  case last =>
    intro x hx
    obtain ⟨key, -, hlast⟩ := List.mem_filterMap.mp hx
    rw [← hfacts]
    exact exists_append_of_last? hlast
  case lookup => exact last?_eq_find?_toList (read s)
  case span => exact fun x hx => value_prefix_span hx

end PipelineProfile.Facts
