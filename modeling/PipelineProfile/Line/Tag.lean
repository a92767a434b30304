import PipelineProfile.Text.Blank
import PipelineProfile.Text.Search

/-!
# Tags

A trace line announces its kind with a tag: a name in square brackets, possibly padded with
blanks before the closing one, such as `[flush ]`. `Tag.find?` looks for the first tag anywhere
on the line, so noise before it does no harm, and it passes over brackets around anything else.

No name followed by a closing bracket begins like another, so at one place of a line there is at
most one tag.
-/

namespace PipelineProfile

/-- The kinds of tagged lines. The first six report one event each, the others total a run. -/
inductive Tag where
  | flush
  | flushPenalty
  | branchResolve
  | predictor
  | commit
  | stall
  | commitSummary
  | controlSummary
  | hotPcSummary
  | hotInstSummary
  | stallSummary
  | frontendEmptySummary
  | decodeBlockedSummary
  | robBackpressureSummary
  | otherSummary
  | otherAuxSummary
  | fetchQueueSummary
  | flushSummary
  deriving DecidableEq, Repr

namespace Tag

/-- The name between the brackets. -/
def name : Tag → String
  | flush => "flush"
  | flushPenalty => "flushp"
  | branchResolve => "bru"
  | predictor => "pred"
  | commit => "commit"
  | stall => "stall"
  | commitSummary => "commitm"
  | controlSummary => "controlm"
  | hotPcSummary => "hotpcm"
  | hotInstSummary => "hotinstm"
  | stallSummary => "stallm"
  | frontendEmptySummary => "stallm2"
  | decodeBlockedSummary => "stallm3"
  | robBackpressureSummary => "stallm4"
  | otherSummary => "stallm5"
  | otherAuxSummary => "stallm6"
  | fetchQueueSummary => "ifum"
  | flushSummary => "flushm"

/-- Every tag. -/
def all : List Tag :=
  [flush, flushPenalty, branchResolve, predictor, commit, stall, commitSummary, controlSummary,
    hotPcSummary, hotInstSummary, stallSummary, frontendEmptySummary, decodeBlockedSummary,
    robBackpressureSummary, otherSummary, otherAuxSummary, fetchQueueSummary, flushSummary]

theorem mem_all (t : Tag) : t ∈ all := by cases t <;> decide

/-- Different tags have different names. -/
theorem name_injective {t u : Tag} (h : t.name = u.name) : t = u := by
  revert h; cases t <;> cases u <;> decide

/-- The tag with the given name. -/
def ofName? (s : String) : Option Tag := all.find? fun t => t.name = s

/-- A tag as it is written, without padding. -/
def bracketed (t : Tag) : String := "[" ++ t.name ++ "]"

/-- What follows the tag `t` in the text behind its opening bracket. -/
def after? (t : Tag) (s : List Char) : Option (List Char) :=
  (t.name.toList.isPrefixOf? s).bind fun r => [']'].isPrefixOf? (r.dropWhile Text.isBlank)

/-- The tag at the beginning of a text, with what follows it. -/
def read? : List Char → Option (Tag × List Char)
  | '[' :: s => all.findSome? fun t => (t.after? s).map fun r => (t, r)
  | _ => none

/-- The first tag of a line, with what follows it. -/
def find? (line : List Char) : Option (Tag × List Char) := Text.firstMatch read? line

end Tag

end PipelineProfile
