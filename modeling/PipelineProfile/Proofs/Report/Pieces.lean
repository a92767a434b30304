import PipelineProfile.Proofs.Text.Braces
import PipelineProfile.Report.Template

/-!
# Filling a template piece by piece

Filling a template replaces one placeholder after the other in the whole text.  A value that is put
in early is searched for the later placeholders as well, and it may become a part of one together
with the text around it.  Neither can happen if no value has braces: then filling a template is the
same as filling each of its pieces (`fill_join`).

A template is given by its pieces, which are placeholders and texts without braces (`Piece`).
Replacing one placeholder turns some pieces into texts and leaves the others alone
(`replaceAll_sources`), because an occurrence of a placeholder begins with a brace, and the only
braces are in the marks.
-/

namespace PipelineProfile

open Text

/-! ## Replacing -/

namespace Text

lemma replaceFrom_skip (old new t s : List Char) :
    replaceFrom old new t.length (t ++ s) = replaceFrom old new 0 s := by
  induction t with
  | nil => rfl
  | cons c t ih => exact ih

/-- An occurrence at the front is replaced. -/
lemma replaceAll_append_self {old : List Char} (hold : old ≠ []) (new s : List Char) :
    replaceAll old new (old ++ s) = new ++ replaceAll old new s := by
  obtain ⟨c, t, rfl⟩ := List.exists_cons_of_ne_nil hold
  have hfound : (c :: t).isPrefixOf (c :: (t ++ s)) = true :=
    List.isPrefixOf_iff_prefix.mpr (List.prefix_append (c :: t) s)
  rw [List.cons_append, replaceAll, replaceFrom, if_pos hfound]
  exact congrArg (new ++ ·) (replaceFrom_skip (c :: t) new t s)

lemma replaceAll_cons_of_not_isPrefixOf {old : List Char} {c : Char} {s : List Char}
    (h : old.isPrefixOf (c :: s) = false) (new : List Char) :
    replaceAll old new (c :: s) = c :: replaceAll old new s := by
  rw [replaceAll, replaceFrom, h]
  rfl

/-- Where the first character of what is replaced does not occur, nothing is. -/
lemma replaceAll_append_of_not_mem {a : Char} {t : List Char} (ht : a ∉ t) (old new s : List Char) :
    replaceAll (a :: old) new (t ++ s) = t ++ replaceAll (a :: old) new s := by
  induction t with
  | nil => rfl
  | cons c t ih =>
    rw [List.mem_cons, not_or] at ht
    have hnot : (a :: old).isPrefixOf (c :: (t ++ s)) = false := by
      rw [List.isPrefixOf, beq_false_of_ne ht.1, Bool.false_and]
    rw [List.cons_append, replaceAll_cons_of_not_isPrefixOf hnot, ih ht.2, List.cons_append]

lemma BraceFree.not_mem {s : String} (h : BraceFree s) : '{' ∉ s.toList := by
  intro hmem
  have hbrace : isBrace '{' = false := braceFree_iff.mp h '{' hmem
  cases hbrace

end Text

/-! ## Marks -/

namespace Placeholder

variable {p q : Placeholder}

lemma mark_ne_nil (p : Placeholder) : p.mark ≠ [] := List.cons_ne_nil _ _

/-- A mark is left alone when another one is replaced. -/
lemma replaceAll_mark_of_ne (hne : p ≠ q) (new s : List Char) :
    replaceAll p.mark new (q.mark ++ s) = q.mark ++ replaceAll p.mark new s := by
  have hfirst : p.mark.isPrefixOf (q.mark ++ s) = false := by
    cases p <;> cases q <;> first | exact absurd rfl hne | rfl
  -- The second brace of a mark has no brace behind it.
  have hsecond : p.mark.isPrefixOf ('{' :: (q.name.toList ++ ['}', '}'] ++ s)) = false := by
    cases q <;> rfl
  have hname : '{' ∉ q.name.toList ++ ['}', '}'] := by cases q <;> decide
  have hmark : q.mark ++ s = '{' :: '{' :: (q.name.toList ++ ['}', '}'] ++ s) := rfl
  rw [hmark] at hfirst ⊢
  rw [replaceAll_cons_of_not_isPrefixOf hfirst, replaceAll_cons_of_not_isPrefixOf hsecond]
  exact congrArg ('{' :: '{' :: ·) (replaceAll_append_of_not_mem hname _ new s)

end Placeholder

/-! ## Pieces -/

namespace Template

/-- A piece of a template. -/
inductive Piece where
  | literal (text : String) (braceFree : BraceFree text)
  | placeholder (p : Placeholder)

namespace Piece

/-- A piece as it stands in the template. -/
def source : Piece → String
  | literal text _ => text
  | placeholder p => String.ofList p.mark

/-- A piece as it stands in the filled template. -/
def filled (value : Placeholder → String) : Piece → String
  | literal text _ => text
  | placeholder p => value p

/-- A piece after one placeholder has been replaced. -/
def put (p : Placeholder) (new : String) (hnew : BraceFree new) : Piece → Piece
  | literal text h => literal text h
  | placeholder q => if q = p then literal new hnew else placeholder q

lemma toList_source_literal {text : String} (h : BraceFree text) :
    (literal text h).source.toList = text.toList := rfl

lemma toList_source_placeholder (p : Placeholder) : (placeholder p).source.toList = p.mark :=
  String.toList_ofList

end Piece

/-- The text of some pieces. -/
def sources (pieces : List Piece) : List Char := pieces.flatMap fun x => x.source.toList

lemma sources_cons (x : Piece) (pieces : List Piece) :
    sources (x :: pieces) = x.source.toList ++ sources pieces := List.flatMap_cons

/-- Replacing a placeholder in a text replaces it in each piece. -/
lemma replaceAll_sources (p : Placeholder) {new : String} (hnew : BraceFree new)
    (pieces : List Piece) :
    replaceAll p.mark new.toList (sources pieces) =
      sources (pieces.map (Piece.put p new hnew)) := by
  induction pieces with
  | nil => rfl
  | cons x pieces ih =>
    rw [List.map_cons, sources_cons, sources_cons, ← ih]
    cases x with
    | literal text h => exact replaceAll_append_of_not_mem h.not_mem _ _ _
    | placeholder q =>
      rw [Piece.toList_source_placeholder, Piece.put]
      by_cases hq : q = p
      · rw [if_pos hq, hq, replaceAll_append_self p.mark_ne_nil, Piece.toList_source_literal]
      · rw [if_neg hq, Piece.toList_source_placeholder,
          Placeholder.replaceAll_mark_of_ne (Ne.symm hq)]

/-- A template is filled piece by piece if the values have no braces. -/
theorem fill_join {value : Placeholder → String} (hvalue : ∀ p, BraceFree (value p))
    (pieces : List Piece) :
    fill value (String.join (pieces.map Piece.source)) =
      String.join (pieces.map (Piece.filled value)) := by
  have hsources : (String.join (pieces.map Piece.source)).toList = sources pieces := by
    rw [String.toList_join, List.flatMap_map, sources]
  have hfilled : ∀ x : Piece,
      (((x.put .generatedAt _ (hvalue .generatedAt)).put .profileDir _ (hvalue .profileDir)).put
        .benchmarkSections _ (hvalue .benchmarkSections)).source = x.filled value := by
    intro x
    cases x with
    | literal text h => rfl
    | placeholder p => cases p <;> rfl
  rw [fill, hsources, Placeholder.all, List.foldl_cons, List.foldl_cons, List.foldl_cons,
    List.foldl_nil, replaceAll_sources .generatedAt (hvalue .generatedAt),
    replaceAll_sources .profileDir (hvalue .profileDir),
    replaceAll_sources .benchmarkSections (hvalue .benchmarkSections), ← String.toList_inj,
    String.toList_ofList, String.toList_join, sources]
  simp only [List.flatMap_map, hfilled]

/-- A filled template has no braces if the values have none. -/
lemma braceFree_join_filled {value : Placeholder → String} (hvalue : ∀ p, BraceFree (value p))
    (pieces : List Piece) : BraceFree (String.join (pieces.map (Piece.filled value))) := by
  rw [braceFree_iff, String.toList_join]
  intro c hc
  obtain ⟨text, htext, hmem⟩ := List.mem_flatMap.mp hc
  obtain ⟨x, -, rfl⟩ := List.mem_map.mp htext
  cases x with
  | literal text h => exact braceFree_iff.mp h c hmem
  | placeholder p => exact braceFree_iff.mp (hvalue p) c hmem

end Template

end PipelineProfile
