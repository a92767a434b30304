import Mathlib.Data.List.TakeWhile
import PipelineProfile.Proofs.Line.Returns
import PipelineProfile.Proofs.Line.Words

/-!
# Tags behind other text

A tag is found behind any text that has no tag itself (`find?_append_bracketed`).  At the place of
the tag there is no other one: the name is all there is up to the first blank or closing bracket,
and different tags have different names (`eq_of_after?`).  And the text before it does not grow into
a tag together with what follows, because a tag has no opening bracket but its first character
(`read?_append_bracket`).
-/

namespace PipelineProfile

open Text

namespace Tag

/-- Whether a character may stand in the name of a tag. -/
def isNameChar (c : Char) : Bool := !isBlank c && c ≠ ']'

lemma isNameChar_of_mem_name {t : Tag} : ∀ c ∈ t.name.toList, isNameChar c = true := by
  have hall : t.name.toList.all isNameChar = true := by cases t <;> decide
  exact List.all_eq_true.mp hall

lemma bracket_not_mem_name (t : Tag) : '[' ∉ t.name.toList := by cases t <;> decide

/-! ## The tag at a place -/

variable {pad : List Char}

/-- Behind blanks there is the closing bracket. -/
lemma dropWhile_pad (hpad : IsGap pad) (r : List Char) :
    (pad ++ ']' :: r).dropWhile isBlank = ']' :: r := by
  rw [List.dropWhile_append_of_pos hpad]
  rfl

/-- A name is all there is up to the blanks and the closing bracket behind it. -/
lemma takeWhile_closed {p : Char → Bool} (hblank : ∀ c, isBlank c = true → p c = false)
    (hclosing : p ']' = false) {name : List Char} (hname : ∀ c ∈ name, p c = true)
    (hpad : IsGap pad) (r : List Char) : (name ++ (pad ++ ']' :: r)).takeWhile p = name := by
  have hbehind : (pad ++ ']' :: r).takeWhile p = [] := by
    cases pad with
    | nil => exact List.takeWhile_cons_of_neg (by simp [hclosing])
    | cons c pad =>
      have hc : isBlank c = true := hpad c (List.mem_cons_self ..)
      exact List.takeWhile_cons_of_neg (by simp [hblank c hc])
  rw [List.takeWhile_append_of_pos hname, hbehind, List.append_nil]

lemma takeWhile_name (t : Tag) (hpad : IsGap pad) (r : List Char) :
    (t.name.toList ++ (pad ++ ']' :: r)).takeWhile isNameChar = t.name.toList :=
  takeWhile_closed (fun c hc => by simp [isNameChar, hc]) rfl isNameChar_of_mem_name hpad r

lemma after?_bracketed (t : Tag) (hpad : IsGap pad) (r : List Char) :
    t.after? (t.name.toList ++ (pad ++ ']' :: r)) = some r := by
  rw [after?, isPrefixOf?_self_append, Option.bind_some, dropWhile_pad hpad]
  rfl

/-- What the reader of a tag takes is the name of the tag and blanks. -/
lemma exists_pad_of_after? {t : Tag} {s r : List Char} (h : t.after? s = some r) :
    ∃ pad, IsGap pad ∧ s = t.name.toList ++ (pad ++ ']' :: r) := by
  obtain ⟨v, hv, hclose⟩ := Option.bind_eq_some_iff.mp h
  have hdrop : v.dropWhile isBlank = ']' :: r :=
    (List.append_eq_of_isPrefixOf?_eq_some hclose).symm
  have hsplit : v.takeWhile isBlank ++ ']' :: r = v := by
    rw [← hdrop]
    exact List.takeWhile_append_dropWhile
  refine ⟨v.takeWhile isBlank, fun c hc => List.mem_takeWhile_imp hc, ?_⟩
  rw [hsplit]
  exact (List.append_eq_of_isPrefixOf?_eq_some hv).symm

/-- What stands behind an opening bracket is the name of one tag at most. -/
lemma eq_of_after? {t u : Tag} (hpad : IsGap pad) {r r' : List Char}
    (h : u.after? (t.name.toList ++ (pad ++ ']' :: r)) = some r') : u = t := by
  obtain ⟨pad', hpad', hsplit⟩ := exists_pad_of_after? h
  have hname := congrArg (List.takeWhile isNameChar) hsplit
  rw [takeWhile_name t hpad, takeWhile_name u hpad'] at hname
  exact (name_injective (String.toList_inj.mp hname)).symm

lemma read?_bracketed (t : Tag) (hpad : IsGap pad) (r : List Char) :
    read? ('[' :: (t.name.toList ++ (pad ++ ']' :: r))) = some (t, r) := by
  let s := t.name.toList ++ (pad ++ ']' :: r)
  have hafter : t.after? s = some r := after?_bracketed t hpad r
  cases hfound : all.findSome? fun u => (u.after? s).map fun r => (u, r) with
  | none =>
    have hnone := List.findSome?_eq_none_iff.mp hfound t (mem_all t)
    rw [hafter] at hnone
    cases hnone
  | some found =>
    obtain ⟨u, -, hu⟩ := List.exists_of_findSome?_eq_some hfound
    obtain ⟨r', hr', rfl⟩ := Option.map_eq_some_iff.mp hu
    obtain rfl : u = t := eq_of_after? hpad hr'
    have hsame : r' = r := Option.some.inj (hr'.symm.trans hafter)
    rw [hsame] at hfound
    exact hfound

/-! ## The text before the tag -/

lemma after?_append_bracket (t : Tag) (s r : List Char) :
    t.after? (s ++ '[' :: r) = (t.after? s).map (· ++ '[' :: r) := by
  rw [after?, after?, isPrefixOf?_append_cons t.bracket_not_mem_name]
  cases t.name.toList.isPrefixOf? s with
  | none => rfl
  | some v =>
    simp only [Option.map_some, Option.bind_some, List.dropWhile_append]
    cases v.dropWhile isBlank with
    | nil => rfl
    | cons c v => exact isPrefixOf?_append_cons (by decide) (c :: v) r

/-- Whether a tag stands at the beginning of a text does not depend on a bracket behind it. -/
lemma read?_append_bracket {s : List Char} (hs : s ≠ []) (r : List Char) :
    read? (s ++ '[' :: r) = (read? s).map fun found => (found.1, found.2 ++ '[' :: r) := by
  obtain ⟨c, s, rfl⟩ := List.exists_cons_of_ne_nil hs
  exact read?_cons_append (fun t s => after?_append_bracket t s r) c s

/-- A tag is found behind every text without a tag. -/
theorem find?_append_bracketed {p : List Char} (hp : find? p = none) (t : Tag) (hpad : IsGap pad)
    (r : List Char) :
    find? (p ++ '[' :: (t.name.toList ++ (pad ++ ']' :: r))) = some (t, r) := by
  induction p with
  | nil => rw [List.nil_append, find?, firstMatch, read?_bracketed t hpad r, Option.some_or]
  | cons c p ih =>
    obtain ⟨hread, hrest⟩ := Option.or_eq_none_iff.mp hp
    have hnone : read? (c :: p ++ '[' :: (t.name.toList ++ (pad ++ ']' :: r))) = none := by
      rw [read?_append_bracket (List.cons_ne_nil c p), hread]
      rfl
    rw [List.cons_append] at hnone ⊢
    rw [find?, firstMatch, hnone, Option.none_or]
    exact ih hrest

end Tag

end PipelineProfile
