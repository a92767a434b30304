import PipelineProfile.Text.Search

/-!
# The vocabularies of flush lines

A flush line names its reason, its source and the kind of control transfer that was mispredicted
with words of small closed vocabularies. Other text that the simulator prints at the same time
can damage such a word, so reading one is forgiving. A word of the vocabulary means itself. Of
anything else only the lowercase letters are looked at, first of the word and then of the text
around it, and an ordered list of rules says what those letters are taken for. If no rule
applies, the word has the vocabulary's fallback meaning.

The rules of `FlushReason` come before one another for a reason: an exception that mentions a
branch is still an exception.
-/

namespace PipelineProfile

/-! ## Reading with a vocabulary -/

/-- The lowercase ASCII letters of a text. -/
def letters (s : List Char) : List Char := s.filter Char.isLower

/-- One way of recognizing damaged words. -/
structure WordRule (α : Type) where
  /-- Whether the rule applies to some letters. -/
  applies : List Char → Bool
  /-- What they mean if it does. -/
  meaning : α

/-- A closed vocabulary. -/
structure Vocabulary (α : Type) where
  /-- The meanings of the exact words. -/
  all : List α
  /-- The exact word of a meaning. -/
  label : α → String
  /-- The rules for damaged words, in order of rank. -/
  rules : List (WordRule α)
  /-- What a word means that nothing recognizes. -/
  fallback : α

namespace Vocabulary

variable {α : Type}

/-- What the first rule that applies takes some letters for. -/
def guess? (v : Vocabulary α) (s : List Char) : Option α :=
  (v.rules.find? fun r => r.applies s).map WordRule.meaning

/-- What a word means, with the text around it if there is any. -/
def read (v : Vocabulary α) (word : String) (context : Option String) : α :=
  match v.all.find? fun a => v.label a = word with
  | some a => a
  | none =>
    let texts := word :: context.toList
    (texts.findSome? fun t => v.guess? (letters t.toList)).getD v.fallback

end Vocabulary

/-! ## What the rules look for -/

/-- Whether a text contains one of some fragments. -/
def mentions (fragments : List String) (s : List Char) : Bool :=
  fragments.any fun f => Text.occursIn f.toList s

/-- The word whose cut-off forms `looksMispredicted` accepts at the end of a text. -/
def mispredict : List Char := "mispredict".toList

/-- Whether a text speaks of a misprediction. At its end the word may be cut off after three
letters or more. -/
def looksMispredicted (s : List Char) : Bool :=
  mentions ["mispredict", "mispr", "misp", "predict"] s ||
    (List.range mispredict.length).any fun n => 3 ≤ n && (mispredict.take n).isSuffixOf s

/-- Whether a text speaks of a branch. -/
def looksBranch (s : List Char) : Bool := mentions ["branch", "ranch", "bran", "brnch"] s

/-- Whether a text speaks of a return. -/
def looksReturn (s : List Char) : Bool := mentions ["return"] s || "ret".toList.isPrefixOf s

/-- Whether a text speaks of a conditional branch. -/
def looksConditional (s : List Char) : Bool := mentions ["cond"] s || looksBranch s

/-! ## Why the pipeline was flushed -/

/-- Why the pipeline was flushed. -/
inductive FlushReason where
  | branchMispredict
  | exception
  | robOther
  | external
  | unknown
  deriving DecidableEq, Repr

namespace FlushReason

/-- Every reason, in the order of reports. -/
def all : List FlushReason := [branchMispredict, exception, robOther, external, unknown]

theorem mem_all (r : FlushReason) : r ∈ all := by cases r <;> decide

/-- The exact word. -/
def label : FlushReason → String
  | branchMispredict => "branch_mispredict"
  | exception => "exception"
  | robOther => "rob_other"
  | external => "external"
  | unknown => "unknown"

/-- The vocabulary of flush reasons. -/
def vocabulary : Vocabulary FlushReason where
  all := all
  label := label
  rules := [
    ⟨fun s => mentions ["except"] s, exception⟩,
    ⟨fun s => looksMispredicted s && looksBranch s, branchMispredict⟩,
    ⟨fun s => mentions ["rob"] s && mentions ["other"] s, robOther⟩,
    ⟨fun s => mentions ["extern"] s, external⟩]
  fallback := unknown

end FlushReason

/-! ## Who asked for the flush -/

/-- Who asked for a flush. -/
inductive FlushSource where
  | rob
  | external
  | unknown
  deriving DecidableEq, Repr

namespace FlushSource

/-- Every source, in the order of reports. -/
def all : List FlushSource := [rob, external, unknown]

theorem mem_all (s : FlushSource) : s ∈ all := by cases s <;> decide

/-- The exact word. -/
def label : FlushSource → String
  | rob => "rob"
  | external => "external"
  | unknown => "unknown"

/-- The vocabulary of flush sources. -/
def vocabulary : Vocabulary FlushSource where
  all := all
  label := label
  rules := [
    ⟨fun s => mentions ["rob"] s, rob⟩,
    ⟨fun s => mentions ["extern"] s, external⟩]
  fallback := unknown

end FlushSource

/-! ## What was mispredicted -/

/-- The kind of control transfer that was mispredicted. -/
inductive MissType where
  | condBranch
  | jump
  | functionReturn
  | controlUnknown
  | noMiss
  deriving DecidableEq, Repr

namespace MissType

/-- Every kind. -/
def all : List MissType := [condBranch, jump, functionReturn, controlUnknown, noMiss]

/-- The exact word. -/
def label : MissType → String
  | condBranch => "cond_branch"
  | jump => "jump"
  | functionReturn => "return"
  | controlUnknown => "control_unknown"
  | noMiss => "none"

/-- The vocabulary of mispredicted kinds. -/
def vocabulary : Vocabulary MissType where
  all := all
  label := label
  rules := [
    ⟨fun s => mentions ["control"] s, controlUnknown⟩,
    ⟨looksReturn, functionReturn⟩,
    ⟨fun s => mentions ["jump", "jal"] s, jump⟩,
    ⟨looksConditional, condBranch⟩]
  fallback := noMiss

end MissType

/-- The kind of control transfer that was mispredicted, with jumps told apart by whether their
target is in the instruction. -/
inductive MissSubtype where
  | condBranch
  | jumpDirect
  | jumpIndirect
  | functionReturn
  | controlUnknown
  | noMiss
  deriving DecidableEq, Repr

namespace MissSubtype

/-- Every kind. -/
def all : List MissSubtype :=
  [condBranch, jumpDirect, jumpIndirect, functionReturn, controlUnknown, noMiss]

/-- The exact word. -/
def label : MissSubtype → String
  | condBranch => "cond_branch"
  | jumpDirect => "jump_direct"
  | jumpIndirect => "jump_indirect"
  | functionReturn => "return"
  | controlUnknown => "control_unknown"
  | noMiss => "none"

/-- The coarser kind. -/
def missType : MissSubtype → MissType
  | condBranch => .condBranch
  | jumpDirect => .jump
  | jumpIndirect => .jump
  | functionReturn => .functionReturn
  | controlUnknown => .controlUnknown
  | noMiss => .noMiss

/-- The vocabulary of the finer kinds. "indirect" contains "direct", so it is asked for first. -/
def vocabulary : Vocabulary MissSubtype where
  all := all
  label := label
  rules := [
    ⟨fun s => mentions ["control"] s, controlUnknown⟩,
    ⟨looksReturn, functionReturn⟩,
    ⟨fun s => mentions ["indirect"] s, jumpIndirect⟩,
    ⟨fun s => mentions ["direct"] s, jumpDirect⟩,
    ⟨looksConditional, condBranch⟩]
  fallback := noMiss

end MissSubtype

end PipelineProfile
