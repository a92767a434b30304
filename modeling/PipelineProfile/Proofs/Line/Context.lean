import Mathlib.Data.List.SplitBy
import PipelineProfile.Event

/-!
# The text around a fact

A fact keeps its span, the text from its value up to the next fact.  The spans are there for the
vocabularies of flush lines, which look at nothing but the lowercase letters of a text.  So an event
stays the same if of each span only the letters are kept (`ofTagged?_plain`).

Blanks at the end of a line show in no key and no value.  They may show in the last span, but they
are not letters (`plain_read_append_blanks`).  So no event depends on them, which is the main
result, `ofTagged?_read_append_blanks`.
-/

namespace PipelineProfile

/-! ## Facts without their spans -/

/-- The fact with the letters of its span instead of the span. -/
def Fact.plain (x : Fact) : Fact := { x with span := String.ofList (letters x.span.toList) }

/-- The facts with the letters of their spans instead of the spans. -/
def Facts.plain (f : Facts) : Facts := ⟨f.occurrences.map Fact.plain⟩

namespace Facts

variable (f : Facts) (key : String)

lemma last?_plain : f.plain.last? key = (f.last? key).map Fact.plain := by
  rw [last?, plain, ← List.map_reverse, List.find?_map]
  rfl

@[simp] lemma get?_plain : f.plain.get? key = f.get? key := by
  rw [get?, last?_plain, Option.map_map]
  rfl

@[simp] lemma span?_plain : f.plain.span? key =
    (f.span? key).map fun s => String.ofList (letters s.toList) := by
  rw [span?, last?_plain, Option.map_map, span?, Option.map_map]
  rfl

@[simp] lemma num?_plain : f.plain.num? key = f.num? key := by rw [num?, get?_plain, num?]

@[simp] lemma numD_plain (n : Nat) : f.plain.numD key n = f.numD key n := by
  rw [numD, num?_plain, numD]

@[simp] lemma flag?_plain : f.plain.flag? key = f.flag? key := by rw [flag?, num?_plain, flag?]

@[simp] lemma slots?_plain : f.plain.slots? key = f.slots? key := by
  rw [slots?, get?_plain, slots?]

@[simp] lemma completeSlots?_plain (n : Nat) :
    f.plain.completeSlots? key n = f.completeSlots? key n := by
  rw [completeSlots?, get?_plain, completeSlots?]

lemma toList_plain : f.plain.toList = f.toList.map Fact.plain := by
  have hkeys : f.plain.occurrences.map Fact.key = f.occurrences.map Fact.key := by
    rw [plain, List.map_map]
    rfl
  rw [toList, hkeys, toList, List.map_filterMap]
  exact List.filterMap_congr fun key _ => f.last?_plain key

@[simp] lemma numbered_plain (stem : String) (bound : Nat) :
    f.plain.numbered stem bound = f.numbered stem bound := by
  rw [numbered, toList_plain, List.filterMap_map]
  rfl

lemma rank?_plain (what : String) (i : Nat) : f.plain.rank? what i = f.rank? what i := by
  simp only [rank?, num?_plain, numD_plain]

lemma ranksFrom_plain (what : String) (fuel i : Nat) :
    f.plain.ranksFrom what fuel i = f.ranksFrom what fuel i := by
  induction fuel generalizing i with
  | zero => rfl
  | succ fuel ih => simp only [ranksFrom, rank?_plain, ih]

@[simp] lemma ranked_plain (what : String) : f.plain.ranked what = f.ranked what := by
  rw [ranked, ranksFrom_plain, plain, List.length_map, ranked]

end Facts

lemma letters_letters (s : List Char) : letters (letters s) = letters s := by
  simp only [letters, List.filter_filter, Bool.and_self]

@[simp] lemma Vocabulary.read_letters {α : Type} (v : Vocabulary α) (word : String)
    (context : Option String) :
    v.read word (context.map fun s => String.ofList (letters s.toList)) = v.read word context := by
  unfold read
  cases v.all.find? fun a => v.label a = word with
  | some a => rfl
  | none =>
    cases context with
    | none => rfl
    | some s =>
      simp only [Option.map_some, Option.toList_some, List.findSome?_cons, String.toList_ofList,
        letters_letters]

@[simp] lemma StallDetail.counts_plain (totalKey : String) (f : Facts) :
    counts totalKey f.plain = counts totalKey f := by
  rw [counts, Facts.toList_plain, List.filter_map, List.map_map]
  rfl

@[simp] lemma Flush.ofFacts_plain (f : Facts) : ofFacts f.plain = ofFacts f := by
  simp only [ofFacts, reasonOf, Facts.get?_plain, Facts.span?_plain, Facts.num?_plain,
    Facts.numD_plain, Vocabulary.read_letters]

/-- An event depends on no more of the spans than their letters. -/
lemma Event.ofTagged?_plain (tag : Tag) (f : Facts) : ofTagged? tag f.plain = ofTagged? tag f := by
  cases tag with
  | flush => rw [ofTagged?, Flush.ofFacts_plain, ofTagged?]
  | flushPenalty => simp [ofTagged?, FlushPenalty.ofFacts, Flush.reasonOf]
  | _ =>
    -- The other lines are read without their spans.
    simp [ofTagged?, PredictCounters.ofFacts, PredictionCounts.ofFacts, Commit.ofFacts?,
      StallSample.ofFacts, StallSignals.ofFacts, StallSignals.handshake?, StallProbe.ofFacts,
      StallProbe.group?, CommitSummary.ofFacts, ControlCounts.ofFacts, Hotspot.ofFacts,
      CategoryTotals.ofFacts, StallDetail.ofFacts, StallDetail.otherOfFacts, FetchQueue.ofFacts,
      FlushEffects.ofFacts]

/-! ## Blanks at the end of a line -/

namespace Text

/-- A text ends in a longest run of characters of a kind. -/
lemma exists_eq_append_of_all (p : Char → Bool) (s : List Char) :
    ∃ t g, s = t ++ g ∧ (∀ c ∈ g, p c = true) ∧ ∀ c ∈ t.getLast?, p c = false := by
  induction s using List.reverseRecOn with
  | nil => exact ⟨[], [], rfl, by simp, by simp⟩
  | append_singleton s c ih =>
    cases hc : p c with
    | true =>
      obtain ⟨t, g, rfl, hg, ht⟩ := ih
      refine ⟨t, g ++ [c], List.append_assoc .., ?_, ht⟩
      simpa [or_imp, forall_and, hc] using hg
    | false => exact ⟨s ++ [c], [], (List.append_nil _).symm, by simp, by simpa using hc⟩

/-- No blank is among the characters of a key, or has its number between theirs. -/
lemma toNat_of_isBlank {c : Char} (h : isBlank c = true) : c.toNat ≤ 32 ∨ 133 ≤ c.toNat := by
  simp only [isBlank, blankRanges, List.any_cons, List.any_nil, Bool.or_eq_true, Bool.and_eq_true,
    decide_eq_true_eq, Bool.or_false] at h
  omega

end Text

open Text

lemma isLower_of_isBlank {c : Char} (h : isBlank c = true) : c.isLower = false := by
  have hblank := toNat_of_isBlank h
  rw [Bool.eq_false_iff]
  intro hlower
  have hbounds : 97 ≤ c.toNat ∧ c.toNat ≤ 122 := (Bool.and_eq_true_iff.mp hlower).imp
    of_decide_eq_true of_decide_eq_true
  omega

namespace Facts

lemma isKeyChar_of_isBlank {c : Char} (h : isBlank c = true) : isKeyChar c = false := by
  have hblank := toNat_of_isBlank h
  rw [Bool.eq_false_iff]
  intro hkey
  simp only [isKeyChar, isKeyStart, Bool.or_eq_true, decide_eq_true_eq] at hkey
  obtain ((((halpha | rfl) | hdigit) | rfl) | rfl) | rfl := hkey
  · obtain hupper | hlower := Bool.or_eq_true_iff.mp halpha
    · have hbounds : 65 ≤ c.toNat ∧ c.toNat ≤ 90 := of_decide_eq_true hupper
      omega
    · rw [isLower_of_isBlank h] at hlower
      cases hlower
  · exact absurd h (by decide)
  · have hbounds : 48 ≤ c.toNat ∧ c.toNat ≤ 57 := (Bool.and_eq_true_iff.mp hdigit).imp
      of_decide_eq_true of_decide_eq_true
    omega
  · exact absurd h (by decide)
  · exact absurd h (by decide)
  · exact absurd h (by decide)

/-- Blanks alone, and other characters alone, are one run. -/
lemma runs_eq_singleton {r : List Char} {blank : Bool} (hne : r ≠ [])
    (hr : ∀ c ∈ r, isBlank c = blank) : runs r = [r] := by
  apply List.splitBy_of_isChain hne
  apply List.Pairwise.isChain
  apply List.pairwise_of_forall_mem_list
  intro c hc d hd
  rw [hr c hc, hr d hd]
  exact beq_self_eq_true blank

variable {g : List Char} (hg : ∀ c ∈ g, isBlank c = true)

include hg

lemma letters_eq_nil_of_blank : letters g = [] := by
  rw [letters, List.filter_eq_nil_iff]
  intro c hc
  rw [isLower_of_isBlank (hg c hc)]
  exact Bool.false_ne_true

lemma splitWord?_of_blank : splitWord? g = none := by
  cases g with
  | nil => rfl
  | cons c g =>
    have hc : isKeyChar c = false := isKeyChar_of_isBlank (hg c (List.mem_cons_self ..))
    rw [splitWord?, List.takeWhile_cons, if_neg (by rw [hc]; exact Bool.false_ne_true)]

/-- A last run of blanks adds no letter to a span. -/
lemma letters_spanOf_concat (rs : List (List Char)) :
    letters (spanOf (rs ++ [g])) = letters (spanOf rs) := by
  have hletters : g.filter Char.isLower = [] := letters_eq_nil_of_blank hg
  fun_induction spanOf rs with
  | case1 gap word rest hfact => rw [List.cons_append, List.cons_append, spanOf, if_pos hfact]
  | case2 gap word rest hfact ih =>
    rw [List.cons_append, List.cons_append, spanOf, if_neg hfact]
    simp only [letters, List.filter_append] at ih ⊢
    rw [ih]
  | case3 gap =>
    have hnot : ¬ (splitWord? g).isSome = true := by
      rw [splitWord?_of_blank hg]
      exact Bool.false_ne_true
    rw [List.singleton_append, spanOf, if_neg hnot]
    simp only [letters, spanOf, List.append_nil, List.filter_append, hletters]
  | case4 => exact hletters

lemma plain_ofRuns_concat (rs : List (List Char)) :
    (ofRuns (rs ++ [g])).map Fact.plain = (ofRuns rs).map Fact.plain := by
  induction rs with
  | nil => simp only [List.nil_append, ofRuns, splitWord?_of_blank hg]
  | cons word rs ih =>
    rw [List.cons_append, ofRuns, ofRuns]
    cases splitWord? word with
    | none => exact ih
    | some fact =>
      have hspan := letters_spanOf_concat hg rs
      simp only [letters] at hspan
      simp only [List.map_cons, ih, Fact.plain, letters, String.toList_ofList, List.filter_append,
        hspan]

/-- The runs of a text with blanks behind its last word. -/
lemma runs_append {s : List Char} (hs : ∀ c ∈ s.getLast?, isBlank c = false) (hne : g ≠ []) :
    runs (s ++ g) = runs s ++ [g] := by
  rw [← runs_eq_singleton hne hg]
  apply List.splitBy_append
  intro c hc d hd
  rw [hs c hc, hg d (List.mem_of_mem_head? hd)]
  rfl

/-- Blanks at the end of a text show in nothing but the spans, and there not as letters. -/
lemma plain_read_append_blanks (s : List Char) : (read (s ++ g)).plain = (read s).plain := by
  have hlast : ∀ {t g : List Char}, (∀ c ∈ t.getLast?, isBlank c = false) →
      (∀ c ∈ g, isBlank c = true) → (read (t ++ g)).plain = (read t).plain := by
    intro t g ht hg
    by_cases hne : g = []
    · rw [hne, List.append_nil]
    · rw [plain, plain, read, read, runs_append hg ht hne, plain_ofRuns_concat hg]
  obtain ⟨t, g', rfl, hg', ht⟩ := exists_eq_append_of_all isBlank s
  have hall : ∀ c ∈ g' ++ g, isBlank c = true := by
    intro c hc
    obtain hc | hc := List.mem_append.mp hc
    · exact hg' c hc
    · exact hg c hc
  rw [List.append_assoc, hlast ht hall, hlast ht hg']

end Facts

/-- No event depends on blanks at the end of its line. -/
lemma Event.ofTagged?_read_append_blanks (tag : Tag) (s : List Char) {g : List Char}
    (hg : ∀ c ∈ g, isBlank c = true) :
    ofTagged? tag (Facts.read (s ++ g)) = ofTagged? tag (Facts.read s) := by
  rw [← ofTagged?_plain, Facts.plain_read_append_blanks hg, ofTagged?_plain]

end PipelineProfile
