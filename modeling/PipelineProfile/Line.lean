import PipelineProfile.Line.Facts
import PipelineProfile.Line.Tag
import PipelineProfile.Number.Decimal
import PipelineProfile.Text.DecimalDigit

/-!
# Trace lines

A line of a trace is one of four plain lines the simulator prints about the run as a whole, or
a tagged line with facts, or nothing of interest. The plain lines are recognized anywhere in the
text and come before the tag in rank, and among each other they rank in the order in which
`Line.read` tries them: the final statistics, the timeout, the time the benchmark measured
itself, and the time the host measured.

Each plain line is a fixed wording with numbers in it and blanks between the parts. Reading one
is deterministic: digits are never followed by more digits in the wording, so each number takes
all the digits there are.
-/

namespace PipelineProfile

/-- The final statistics of a run. -/
structure RunStats where
  ipc : Float
  cpi : Float
  cycles : Nat
  commits : Nat

/-- What a line of a trace says. -/
inductive Line where
  /-- The final statistics. -/
  | runStats (stats : RunStats)
  /-- The run was stopped after so many cycles. -/
  | timeout (cycles : Nat)
  /-- The time the benchmark measured, in milliseconds. -/
  | selfTime (ms : Float)
  /-- The time the host measured, in microseconds. -/
  | hostTime (us : Nat)
  /-- A tag and the facts behind it. -/
  | tagged (tag : Tag) (facts : Facts)
  | untagged

namespace Line

/-! ## Parts of the plain lines -/

/-- What follows `wording` in a text that begins with it. -/
def expect? (wording : String) (s : List Char) : Option (List Char) :=
  wording.toList.isPrefixOf? s

/-- What follows the blanks at the beginning of a text, of which there may be none. -/
def skipBlanks (s : List Char) : List Char := s.dropWhile Text.isBlank

/-- What follows the blanks at the beginning of a text, of which there must be one. -/
def skipBlanks? (s : List Char) : Option (List Char) :=
  match s with
  | c :: rest => if Text.isBlank c then some (skipBlanks rest) else none
  | [] => none

/-- The count at the beginning of a text, with what follows it. All decimal digits belong to the
count, and it has no value if they are not all ASCII digits. -/
def count? (s : List Char) : Option (Nat × List Char) :=
  match s.takeWhile Text.isDecimalDigit with
  | [] => none
  | digits => some (Numeral.value digits, s.dropWhile Text.isDecimalDigit)

/-- The decimal fraction at the beginning of a text, with what follows it. -/
def fraction? (s : List Char) : Option (Decimal.Literal × List Char) :=
  let whole := s.takeWhile Char.isDigit
  let rest := s.dropWhile Char.isDigit
  -- A point belongs to the fraction only if a digit follows it.
  let places := match rest with
    | '.' :: behind => behind.takeWhile Char.isDigit
    | _ => []
  let rest := if places.isEmpty then rest else rest.drop (places.length + 1)
  if whole.isEmpty then none
  else (Numeral.digits? 10 (whole ++ places)).map fun n => (⟨n, places.length⟩, rest)

/-! ## The plain lines -/

/-- The final statistics at the beginning of a text. -/
def runStats? (s : List Char) : Option RunStats := do
  let s ← expect? "IPC=" s
  let (ipc, s) ← fraction? s
  let s ← skipBlanks? s
  let s ← expect? "CPI=" s
  let (cpi, s) ← fraction? s
  let s ← skipBlanks? s
  let s ← expect? "cycles=" s
  let (cycles, s) ← count? s
  let s ← skipBlanks? s
  let s ← expect? "commits=" s
  let (commits, _) ← count? s
  return { ipc := ipc.toFloat, cpi := cpi.toFloat, cycles, commits }

/-- The notice of a timeout at the beginning of a text. -/
def timeout? (s : List Char) : Option Nat := do
  let s ← expect? "TIMEOUT after " s
  let (cycles, s) ← count? s
  let _ ← expect? " cycles" s
  return cycles

/-- The time measured by the benchmark at the beginning of a text. -/
def selfTime? (s : List Char) : Option Float := do
  let s ← expect? "Total time (ms)" s
  let s ← expect? ":" (skipBlanks s)
  let (ms, _) ← fraction? (skipBlanks s)
  return ms.toFloat

/-- The time measured by the host at the beginning of a text. -/
def hostTime? (s : List Char) : Option Nat := do
  let s ← expect? "host time spent" s
  let s ← expect? "=" (skipBlanks s)
  let (us, s) ← count? (skipBlanks s)
  let _ ← expect? "us" (skipBlanks s)
  return us

/-! ## Reading a line -/

/-- What a line of a trace says. -/
def read (text : String) : Line :=
  let s := text.toList
  match Text.firstMatch runStats? s with
  | some stats => .runStats stats
  | none =>
    match Text.firstMatch timeout? s with
    | some cycles => .timeout cycles
    | none =>
      match Text.firstMatch selfTime? s with
      | some ms => .selfTime ms
      | none =>
        match Text.firstMatch hostTime? s with
        | some us => .hostTime us
        | none =>
          match Tag.find? s with
          | some (tag, rest) => .tagged tag (Facts.read rest)
          | none => .untagged

end Line

end PipelineProfile
