import PipelineProfile.Proofs.Line.Grammar
import PipelineProfile.Proofs.Line.TagSearch
import PipelineProfile.Proofs.Number.Spelling
import PipelineProfile.Proofs.Stall.OtherLabels

/-!
# Written lines

A line that is written to be read: a tag behind other text, and behind the tag some keys with
numbers.  `Facts.Written` says how the keys and numbers may stand there, with any blanks before,
between and behind them and with any spelling of the numbers, and `Line.Written` adds the tag.

Such a line is read as its tag with the facts behind it (`Line.read_of_written`), and these are the
keys and the numbers that were written, in the order in which they were (`keyCounts_of_written`).
If no key is written twice, all of them count (`map_toList_perm_of_written`), and each is found
with its number (`num?_of_written`).
-/

namespace PipelineProfile

open Text

namespace Facts

/-- A text with the given keys and numbers, and nothing else. -/
inductive Written : List (String × Nat) → List Char → Prop
  | nil {gap : List Char} (hgap : IsGap gap) : Written [] gap
  | cons {gap value rest : List Char} {key : String} {n : Nat} {fs : List (String × Nat)}
      (hgap : IsGap gap) (hkey : Grammar.isKey key.toList = true) (hn : n < Numeral.bound)
      (hvalue : Numeral.Spells n value) (hrest : EndsWord rest) (hfs : Written fs rest) :
      Written ((key, n) :: fs) (gap ++ ((key.toList ++ '=' :: value) ++ rest))

/-- A key with the number that is given under it. -/
def keyCount (x : Fact) : String × Nat := (x.key, x.count)

/-- A key whose characters are given, with its number and behind some spaces. -/
lemma written_ofList (spaces : Nat) (key : String) {letters : List Char} {n : Nat}
    {value rest : List Char} {fs : List (String × Nat)} (hletters : key = String.ofList letters)
    (hkey : Grammar.isKey letters = true) (hn : n < Numeral.bound)
    (hvalue : Numeral.Spells n value) (hrest : EndsWord rest) (hfs : Written fs rest) :
    Written ((key, n) :: fs)
      (List.replicate spaces ' ' ++ ((letters ++ '=' :: value) ++ rest)) := by
  have hgap : IsGap (List.replicate spaces ' ') := by
    intro c hc
    rw [List.eq_of_mem_replicate hc]
    decide
  have hchars : letters = key.toList := by rw [hletters, String.toList_ofList]
  rw [hchars] at hkey ⊢
  exact .cons hgap hkey hn hvalue hrest hfs

/-! ## Reading the facts -/

section Word

variable {key value : List Char}

lemma isKeyChar_of_isKey (hkey : Grammar.isKey key = true) : ∀ c ∈ key, isKeyChar c = true := by
  obtain _ | ⟨k, ks⟩ := key
  · cases hkey
  · obtain ⟨hk, hks⟩ := Bool.and_eq_true_iff.mp hkey
    intro c hc
    obtain rfl | hc := List.mem_cons.mp hc
    · rw [isKeyChar, hk]
      rfl
    · exact List.all_eq_true.mp hks c hc

lemma not_isBlank_of_isKeyChar {c : Char} (h : isKeyChar c = true) : isBlank c = false := by
  by_contra hblank
  rw [isKeyChar_of_isBlank (Bool.eq_true_of_not_eq_false hblank)] at h
  cases h

lemma isWord_fact (hkey : Grammar.isKey key = true) (hvalue : IsWord value) :
    IsWord (key ++ '=' :: value) := by
  constructor
  · simp
  · intro c hc
    rw [List.mem_append, List.mem_cons] at hc
    obtain hc | rfl | hc := hc
    · exact not_isBlank_of_isKeyChar (isKeyChar_of_isKey hkey c hc)
    · decide
    · exact hvalue.not_isBlank c hc

lemma splitWord?_fact (hkey : Grammar.isKey key = true) (hvalue : value ≠ []) :
    splitWord? (key ++ '=' :: value) = some (key, value) := by
  have hchars := isKeyChar_of_isKey hkey
  have heq : isKeyChar '=' = false := by decide
  obtain ⟨v, vs, rfl⟩ := List.exists_cons_of_ne_nil hvalue
  rw [splitWord?, List.takeWhile_append_of_pos hchars, List.dropWhile_append_of_pos hchars,
    List.takeWhile_cons_of_neg (by simp [heq]), List.dropWhile_cons_of_neg (by simp [heq]),
    List.append_nil]
  obtain _ | ⟨k, ks⟩ := key
  · cases hkey
  · exact if_pos (Bool.and_eq_true_iff.mp hkey).1

end Word

variable {fs : List (String × Nat)} {text : List Char}

/-- What was written is what is read. -/
theorem keyCounts_of_written (h : Written fs text) :
    (read text).occurrences.map keyCount = fs := by
  induction h with
  | nil hgap =>
    rw [occurrences_gap hgap]
    rfl
  | cons hgap hkey hn hvalue hrest hfs ih =>
    have hword := isWord_fact hkey hvalue.isWord
    rw [occurrences_word hgap hword hrest, factOfWord?, splitWord?_fact hkey hvalue.isWord.ne_nil,
      List.map_append, ih]
    simp [keyCount, Fact.count, Numeral.value_of_spells hn hvalue]

/-! ## Keys that are given once -/

section Nodup

variable {f : Facts} (hnodup : (f.occurrences.map Fact.key).Nodup)

include hnodup

lemma last?_of_mem {x : Fact} (hx : x ∈ f.occurrences) : f.last? x.key = some x := by
  obtain ⟨y, hy⟩ := Option.isSome_iff_exists.mp (isSome_last?_iff.mpr (List.mem_map_of_mem hx))
  have hmem : y ∈ f.occurrences := List.mem_reverse.mp (List.mem_of_find?_eq_some hy)
  have hsame : y = x := List.inj_on_of_nodup_map hnodup hmem hx (key_of_last? hy)
  rw [hy, hsame]

lemma toList_perm_occurrences : f.toList.Perm f.occurrences := by
  have hlist : f.toList.Nodup := .of_map _ f.nodup_keys_toList
  refine (List.perm_ext_iff_of_nodup hlist (.of_map _ hnodup)).mpr fun x => ?_
  constructor
  · intro hx
    obtain ⟨key, -, hlast⟩ := List.mem_filterMap.mp hx
    exact List.mem_reverse.mp (List.mem_of_find?_eq_some hlast)
  · intro hx
    exact List.mem_filterMap.mpr
      ⟨x.key, List.mem_eraseDups.mpr (List.mem_map_of_mem hx), last?_of_mem hnodup hx⟩

end Nodup

lemma isKey_of_written (h : Written fs text) : ∀ e ∈ fs, Grammar.isKey e.1.toList = true := by
  induction h with
  | nil hgap => simp
  | cons hgap hkey hn hvalue hrest hfs ih => exact List.forall_mem_cons.mpr ⟨hkey, ih⟩

lemma map_key_of_written (h : Written fs text) :
    (read text).occurrences.map Fact.key = fs.map Prod.fst := by
  rw [← keyCounts_of_written h, List.map_map]
  rfl

/-- All facts count. -/
theorem map_toList_perm_of_written (h : Written fs text) (hnodup : (fs.map Prod.fst).Nodup) :
    ((read text).toList.map keyCount).Perm fs := by
  rw [← map_key_of_written h] at hnodup
  have hperm := (toList_perm_occurrences hnodup).map keyCount
  rwa [keyCounts_of_written h] at hperm

/-- Every key is found with its number. -/
theorem num?_of_written (h : Written fs text) (hnodup : (fs.map Prod.fst).Nodup) {key : String}
    {n : Nat} (hmem : (key, n) ∈ fs) : (read text).num? key = some n := by
  rw [← map_key_of_written h] at hnodup
  rw [← keyCounts_of_written h] at hmem
  obtain ⟨x, hx, heq⟩ := List.mem_map.mp hmem
  obtain ⟨rfl, rfl⟩ := Prod.mk.inj heq
  rw [num?, get?, last?_of_mem hnodup hx]
  rfl

end Facts

/-! ## Lines -/

namespace Line

/-- The text is none of the four plain lines. -/
structure IsNotPlain (text : String) : Prop where
  runStats : firstMatch runStats? text.toList = none
  timeout : firstMatch timeout? text.toList = none
  selfTime : firstMatch selfTime? text.toList = none
  hostTime : firstMatch hostTime? text.toList = none

/-- A line with a tag, behind any text without a tag, and with the given keys and numbers. -/
structure Written (tag : Tag) (fs : List (String × Nat)) (text : String) : Prop where
  isNotPlain : IsNotPlain text
  tagged : ∃ noise pad body,
    text.toList = noise ++ '[' :: (tag.name.toList ++ (pad ++ ']' :: body)) ∧
      Tag.find? noise = none ∧ IsGap pad ∧ Facts.Written fs body

/-- Whether the characters have one of the four plain lines among them. -/
def hasPlain (s : List Char) : Bool :=
  (firstMatch runStats? s).isSome || (firstMatch timeout? s).isSome ||
    (firstMatch selfTime? s).isSome || (firstMatch hostTime? s).isSome

/-- A line whose characters are given. -/
lemma written_ofList (noise pad : List Char) (tag : Tag) {letters body : List Char}
    {fs : List (String × Nat)} (hletters : tag.name = String.ofList letters)
    (hnoise : Tag.find? noise = none) (hpad : pad.all isBlank = true)
    (hbody : Facts.Written fs body)
    (hplain : hasPlain (noise ++ '[' :: (letters ++ (pad ++ ']' :: body))) = false) :
    Written tag fs (String.ofList (noise ++ '[' :: (letters ++ (pad ++ ']' :: body)))) := by
  have hchars : letters = tag.name.toList := by rw [hletters, String.toList_ofList]
  simp only [hasPlain, Bool.or_eq_false_iff, Option.isSome_eq_false_iff,
    Option.isNone_iff_eq_none] at hplain
  obtain ⟨⟨⟨hrun, htimeout⟩, hself⟩, hhost⟩ := hplain
  constructor
  · rw [← String.toList_ofList (l := _ ++ _)] at hrun htimeout hself hhost
    exact ⟨hrun, htimeout, hself, hhost⟩
  · refine ⟨noise, pad, body, ?_, hnoise, List.all_eq_true.mp hpad, hbody⟩
    rw [String.toList_ofList, hchars]

/-- A written line is read as its tag and the facts behind it. -/
theorem read_of_written {tag : Tag} {fs : List (String × Nat)} {text : String}
    (h : Written tag fs text) :
    ∃ body, read text = .tagged tag (Facts.read body) ∧ Facts.Written fs body := by
  obtain ⟨⟨hrun, htimeout, hself, hhost⟩, noise, pad, body, htext, hnoise, hpad, hbody⟩ := h
  have hfind : Tag.find? text.toList = some (tag, body) := by
    rw [htext]
    exact Tag.find?_append_bracketed hnoise tag hpad body
  refine ⟨body, ?_, hbody⟩
  simp only [read, hrun, htimeout, hself, hhost, hfind]

end Line

/-- The last line with a tag has the given keys and numbers. -/
def LastWritten (tag : Tag) (fs : List (String × Nat)) (lines : List String) : Prop :=
  ∃ before text after, lines = before ++ text :: after ∧ Line.Written tag fs text ∧
    linesOf (.tagged tag) after = []

/-- A line that is written with another tag does not matter. -/
lemma linesOf_cons_of_written {tag other : Tag} {fs : List (String × Nat)} {text : String}
    (h : Line.Written other fs text) (hne : other ≠ tag) (lines : List String) :
    linesOf (.tagged tag) (text :: lines) = linesOf (.tagged tag) lines := by
  obtain ⟨body, hread, -⟩ := Line.read_of_written h
  refine List.filter_cons_of_neg ?_
  rw [LineKind.matchesText, hread]
  simpa [Line.kind?] using hne

/-- The last facts behind the tag are those that were written. -/
lemma getLast?_factsOf_of_written {tag : Tag} {fs : List (String × Nat)} {lines : List String}
    (h : LastWritten tag fs lines) :
    ∃ body, (factsOf tag lines).getLast? = some (Facts.read body) ∧ Facts.Written fs body := by
  obtain ⟨before, text, after, rfl, htext, hafter⟩ := h
  obtain ⟨body, hread, hbody⟩ := Line.read_of_written htext
  have hfacts : (Line.read text).facts? tag = some (Facts.read body) :=
    Line.facts?_eq_some_iff.mpr hread
  refine ⟨body, ?_, hbody⟩
  have hnil : after.filterMap (fun text => (Line.read text).facts? tag) = [] :=
    factsOf_eq_nil_iff.mpr hafter
  rw [factsOf, List.filterMap_append, List.filterMap_cons, hfacts, hnil]
  simp

end PipelineProfile
