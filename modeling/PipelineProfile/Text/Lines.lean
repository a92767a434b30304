import PipelineProfile.Text.Utf8

/-!
# The lines of a trace

A trace is cut into lines at the line feeds of its bytes, and each line is decoded on its own.
A line loses the carriage returns at its end, so both customary line endings read alike, and a
last line without an ending counts as a line unless it is empty.

The cut is made before decoding. It could as well be made after it: a line feed is never part
of a longer character (`Utf8.decodeFrom_newline`).
-/

namespace PipelineProfile.Text

/-- Cut after every occurrence of `mark`: the pieces of `List.splitOn`, without the last one if that
is empty. -/
def splitLines {α : Type} [DecidableEq α] (mark : α) (s : List α) : List (List α) :=
  let pieces := s.splitOn mark
  if pieces.getLast? = some [] then pieces.dropLast else pieces

/-- A line without the line breaks at its end. -/
def stripLineEnd (line : List Char) : List Char :=
  (line.reverse.dropWhile fun c => c = '\r' || c = '\n').reverse

/-- The lines of a file, decoded and without their ends. -/
def lines (bytes : List UInt8) : List String :=
  (splitLines Utf8.newline bytes).map fun line => String.ofList (stripLineEnd (Utf8.decode line))

end PipelineProfile.Text
