/-!
# Searching in text

The readers of a trace line look for a fixed text or a small shape at the leftmost place where
it occurs. `firstMatch` tries a reader at every position from the left, `occursIn` asks whether a
text occurs at all, and `replaceAll` puts a new text in the place of every occurrence, from left to
right and without overlap.
-/

namespace PipelineProfile.Text

/-- The result of `read` at the leftmost position of the text where it has one. The position
after the last character counts. -/
def firstMatch {α : Type} (read : List Char → Option α) : List Char → Option α
  | [] => read []
  | c :: s => (read (c :: s)).or (firstMatch read s)

/-- Whether `needle` occurs somewhere in `s`. -/
def occursIn (needle s : List Char) : Bool := (firstMatch needle.isPrefixOf? s).isSome

/-- Replace every occurrence of `old` by `new`, from left to right; `skip` characters of an
occurrence that has been replaced are still to be passed over. -/
def replaceFrom (old new : List Char) : Nat → List Char → List Char
  | _, [] => []
  | skip + 1, _ :: s => replaceFrom old new skip s
  | 0, c :: s =>
    if old.isPrefixOf (c :: s) then new ++ replaceFrom old new (old.length - 1) s
    else c :: replaceFrom old new 0 s

/-- Replace every occurrence of the non-empty text `old` by `new`, from left to right. -/
def replaceAll (old new s : List Char) : List Char := replaceFrom old new 0 s

end PipelineProfile.Text
