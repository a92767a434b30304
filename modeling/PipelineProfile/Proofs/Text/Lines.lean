import Mathlib.Data.List.DropRight
import PipelineProfile.Proofs.Text.Replacement
import PipelineProfile.Text.Lines

/-!
# The lines of bytes and of their text

The bytes of a trace are cut into lines first, and each line is decoded on its own.  A reader who
decodes all the bytes and cuts the text sees the same lines (`lines_areLinesOfText`), whatever the
bytes are.  Two facts are behind this: a line feed settles the text before it, so what is decoded
before it and after it does not depend on the other side, and no damage is read as a line feed, so
that the text has line feeds only where the bytes have them (`newline_mem_of_readsAs`).

Both ways of cutting go from one mark to the next, and so do the proofs (`cutInduction`).  The lines
of the text are described by the library alone: they are cut by `List.splitOn`, and the carriage
returns are taken off by `List.rdropWhile`.
-/

namespace PipelineProfile.Text

open Utf8

/-! ## Cutting -/

section Cutting

variable {α : Type} [DecidableEq α] {mark : α} {p : List α}

/-- A list is a piece without the mark, or such a piece with its mark before another list. -/
@[elab_as_elim]
theorem cutInduction (mark : α) {motive : List α → Prop} (last : ∀ p, mark ∉ p → motive p)
    (cut : ∀ p s, mark ∉ p → motive s → motive (p ++ mark :: s)) (s : List α) : motive s := by
  induction h : s.length using Nat.strong_induction_on generalizing s with
  | h n ih =>
    by_cases hmem : mark ∈ s
    · obtain ⟨p, s, rfl, hp⟩ := List.eq_append_cons_of_mem hmem
      refine cut p s hp (ih s.length ?_ s rfl)
      rw [← h, List.length_append, List.length_cons]
      omega
    · exact last s hmem

lemma splitLines_append_mark (h : mark ∉ p) (s : List α) :
    splitLines mark (p ++ mark :: s) = p :: splitLines mark s := by
  have hne : s.splitOn mark ≠ [] := List.splitOn_ne_nil mark s
  unfold splitLines
  dsimp only
  rw [List.splitOn_append_cons_self_of_not_mem h, List.getLast?_cons_of_ne_nil hne,
    List.dropLast_cons_of_ne_nil hne]
  split <;> rfl

lemma splitLines_of_not_mem (h : mark ∉ p) :
    splitLines mark p = if p = [] then [] else [p] := by
  unfold splitLines
  dsimp only
  rw [List.splitOn_eq_singleton h]
  simp

lemma not_mem_of_mem_splitLines {s : List α} (h : p ∈ splitLines mark s) : mark ∉ p := by
  induction s using cutInduction mark with
  | last q hq =>
    rw [splitLines_of_not_mem hq] at h
    split at h
    · cases h
    · rwa [List.mem_singleton.mp h]
  | cut q s hq ih =>
    rw [splitLines_append_mark hq] at h
    obtain rfl | h := List.mem_cons.mp h
    · exact hq
    · exact ih h

/-- One line for each mark, and one more for what stands behind the last mark. -/
lemma length_splitLines (mark : α) (s : List α) :
    (splitLines mark s).length =
      s.count mark + if s = [] ∨ s.getLast? = some mark then 0 else 1 := by
  induction s using cutInduction mark with
  | last p hp =>
    rw [splitLines_of_not_mem hp, List.count_eq_zero.mpr hp, Nat.zero_add]
    by_cases hnil : p = []
    · rw [if_pos hnil, if_pos (.inl hnil)]
      rfl
    · have hlast : ¬ (p = [] ∨ p.getLast? = some mark) :=
        not_or.mpr ⟨hnil, fun h => hp (List.mem_of_getLast? h)⟩
      rw [if_neg hnil, if_neg hlast]
      rfl
  | cut p s hp ih =>
    have hend : (p ++ mark :: s = [] ∨ (p ++ mark :: s).getLast? = some mark) ↔
        (s = [] ∨ s.getLast? = some mark) := by
      by_cases hnil : s = []
      · simp [hnil]
      · simp [hnil, List.getLast?_cons_of_ne_nil]
    rw [splitLines_append_mark hp, List.length_cons, ih, List.count_append, List.count_cons_self,
      List.count_eq_zero.mpr hp, if_congr hend rfl rfl]
    omega

end Cutting

/-! ## Line feeds in the text -/

namespace Utf8

/-- No damage is read as a line feed. -/
lemma newline_mem_of_readsAs {bytes : List UInt8} {text : List Char} (h : ReadsAs bytes text)
    (hmem : '\n' ∈ text) : newline ∈ bytes := by
  have hreplacement : '\n' ≠ replacement := by decide
  induction h with
  | nil => cases hmem
  | char c h ih =>
    obtain rfl | hmem := List.mem_cons.mp hmem
    · exact List.mem_append_left _ (by decide)
    · exact List.mem_append_right _ (ih hmem)
  | cut hpart hmax h ih =>
    exact List.mem_append_right _ (ih (List.mem_of_ne_of_mem hreplacement hmem))
  | stray hb h ih => exact List.mem_cons_of_mem _ (ih (List.mem_of_ne_of_mem hreplacement hmem))

lemma newline_not_mem_decode {bytes : List UInt8} (h : newline ∉ bytes) : '\n' ∉ decode bytes :=
  fun hmem => h (newline_mem_of_readsAs (readsAs_iff.mpr rfl) hmem)

lemma decode_append_newline (before after : List UInt8) :
    decode (before ++ newline :: after) = decode before ++ '\n' :: decode after := by
  have hlead : Expect.lead.Proper := trivial
  exact decodeFrom_newline hlead before after

/-- Cutting the text gives the texts of the pieces. -/
lemma splitLines_decode (bytes : List UInt8) :
    splitLines '\n' (decode bytes) = (splitLines newline bytes).map decode := by
  induction bytes using cutInduction newline with
  | last line hline =>
    rw [splitLines_of_not_mem hline, splitLines_of_not_mem (newline_not_mem_decode hline)]
    simp only [decode_eq_nil_iff]
    split <;> rfl
  | cut line bytes hline ih =>
    rw [decode_append_newline, splitLines_append_mark hline,
      splitLines_append_mark (newline_not_mem_decode hline), ih]
    rfl

end Utf8

/-! ## The lines of a text -/

/-- The lines of a text: what stands between its line feeds, without the carriage returns at the
end, and nothing behind the last line feed if nothing stands there. -/
def linesOfText (text : List Char) : List String :=
  let pieces := text.splitOn '\n'
  (if pieces.getLast? = some [] then pieces.dropLast else pieces).map fun piece =>
    String.ofList (piece.rdropWhile fun c => c = '\r')

/-- Without line feeds, a line loses its carriage returns. -/
lemma stripLineEnd_eq_rdropWhile {line : List Char} (h : '\n' ∉ line) :
    stripLineEnd line = line.rdropWhile fun c => c = '\r' := by
  have hdrop : ∀ s : List Char, '\n' ∉ s →
      s.dropWhile (fun c => c = '\r' || c = '\n') = s.dropWhile fun c => c = '\r' := by
    intro s hs
    induction s with
    | nil => rfl
    | cons c s ih =>
      rw [List.mem_cons, not_or] at hs
      have hc : (c = '\r' || c = '\n') = decide (c = '\r') := by simp [Ne.symm hs.1]
      rw [List.dropWhile_cons, List.dropWhile_cons, hc, ih hs.2]
  rw [stripLineEnd, hdrop _ fun hmem => h (List.mem_reverse.mp hmem), List.rdropWhile]

lemma linesOfText_eq (text : List Char) :
    linesOfText text =
      (splitLines '\n' text).map fun line => String.ofList (stripLineEnd line) := by
  have hpieces : linesOfText text = (splitLines '\n' text).map fun piece =>
      String.ofList (piece.rdropWhile fun c => c = '\r') := rfl
  rw [hpieces]
  refine List.map_congr_left fun line hline => ?_
  rw [stripLineEnd_eq_rdropWhile (not_mem_of_mem_splitLines hline)]

/-! ## The lines of bytes -/

/-- The first line of a file is what stands before the first line feed. -/
lemma lines_append_newline {line : List UInt8} (h : newline ∉ line) (bytes : List UInt8) :
    lines (line ++ newline :: bytes) =
      String.ofList (stripLineEnd (decode line)) :: lines bytes := by
  rw [lines, splitLines_append_mark h, List.map_cons]
  rfl

/-- No line reaches over a line feed. -/
lemma lines_append (before after : List UInt8) :
    lines (before ++ newline :: after) = lines (before ++ [newline]) ++ lines after := by
  induction before using cutInduction newline with
  | last line hline =>
    rw [lines_append_newline hline, lines_append_newline hline]
    rfl
  | cut line before hline ih =>
    rw [List.append_assoc, List.append_assoc, List.cons_append, List.cons_append,
      lines_append_newline hline, lines_append_newline hline, ih]
    rfl

lemma lines_eq_linesOfText (bytes : List UInt8) : lines bytes = linesOfText (decode bytes) := by
  rw [linesOfText_eq, splitLines_decode, List.map_map, lines]
  rfl

/-- **The lines of the bytes are the lines of their text.**  All bytes, damaged or not, have exactly
one text, and their lines are the lines of that text.  What stands up to a line feed and what stands
behind it have the lines that they have on their own, and there are as many lines as line feeds,
with one more for what stands behind the last one. -/
theorem lines_areLinesOfText (bytes : List UInt8) :
    (∀ text, ReadsAs bytes text ↔ text = decode bytes) ∧
      lines bytes = linesOfText (decode bytes) ∧
      (∀ before after, bytes = before ++ newline :: after →
        lines bytes = lines (before ++ [newline]) ++ lines after) ∧
      (lines bytes).length =
        bytes.count newline + if bytes = [] ∨ bytes.getLast? = some newline then 0 else 1 := by
  refine ⟨fun text => readsAs_iff, lines_eq_linesOfText bytes, ?_, ?_⟩
  · rintro before after rfl
    exact lines_append before after
  · rw [lines, List.length_map, length_splitLines]

/-- A character that is cut by a line feed. -/
example : lines [0x61, 0xE2, 0x82, 0x0A, 0xAC, 0x62, 0x0D] = ["a\uFFFD", "\uFFFDb"] := by decide

end PipelineProfile.Text
