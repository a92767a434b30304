import PipelineProfile.Number.Numeral

/-!
# Facts

Behind its tag a line carries facts, words of the form `key=value` between blanks. A key begins
with a letter or an underscore and goes on with letters, digits, underscores, parentheses and
slashes; a value is anything without a blank, and not empty. All other words are noise.

Damage to a line can break a value in two. Each fact therefore also keeps its *span*, the text
from its value up to the next fact, in which the lost part of the value may still be found.

Where a key is given more than once, its last value counts. The keys are listed in the order in
which they are first given.

A value may hold several numbers between slashes, its slots, such as the valid and the ready bit
of a handshake. `Facts.slots?` reads what is there and gives zero for what is not a number or is
missing. `Facts.completeSlots?` insists on a number of slots, all of them numbers.
-/

namespace PipelineProfile

/-- One `key=value` word. -/
structure Fact where
  key : String
  value : String
  /-- The text from the value up to the blank before the next fact. -/
  span : String
  deriving DecidableEq, Repr

/-- The facts of one line. -/
structure Facts where
  /-- Every fact, in the order of the text. -/
  occurrences : List Fact
  deriving DecidableEq, Repr

/-- The numbers between the slashes of a value. -/
structure Slots where
  values : List Nat
  deriving DecidableEq, Repr

namespace Facts

/-! ## Finding the facts of a text -/

/-- Whether a key may begin with the character. -/
def isKeyStart (c : Char) : Bool := c.isAlpha || c = '_'

/-- Whether the character may stand in a key. -/
def isKeyChar (c : Char) : Bool := isKeyStart c || c.isDigit || c = '(' || c = ')' || c = '/'

/-- The key and the value of a word that is a fact. -/
def splitWord? (word : List Char) : Option (List Char × List Char) :=
  match word.takeWhile isKeyChar, word.dropWhile isKeyChar with
  | k :: key, '=' :: v :: value =>
    if isKeyStart k then some (k :: key, v :: value) else none
  | _, _ => none

/-- The words of a text and the runs of blanks between them, in alternation. -/
def runs (s : List Char) : List (List Char) :=
  s.splitBy fun a b => Text.isBlank a == Text.isBlank b

/-- The text that a fact keeps of the runs behind it: up to the blank before the next fact. -/
def spanOf : List (List Char) → List Char
  | gap :: word :: rest =>
    if (splitWord? word).isSome then gap.dropLast else gap ++ word ++ spanOf rest
  | [gap] => gap
  | [] => []

/-- The facts among some runs. -/
def ofRuns : List (List Char) → List Fact
  | [] => []
  | word :: rest =>
    match splitWord? word with
    | some (key, value) =>
      { key := String.ofList key
        value := String.ofList value
        span := String.ofList (value ++ spanOf rest) } :: ofRuns rest
    | none => ofRuns rest

/-- The facts of a text. -/
def read (s : List Char) : Facts := ⟨ofRuns (runs s)⟩

/-! ## Looking facts up -/

/-- The last fact with the given key. -/
def last? (f : Facts) (key : String) : Option Fact :=
  f.occurrences.reverse.find? fun x => x.key = key

/-- The facts that count, in the order in which their keys are first given. -/
def toList (f : Facts) : List Fact :=
  (f.occurrences.map Fact.key).eraseDups.filterMap f.last?

/-- Whether there are no facts. -/
def isEmpty (f : Facts) : Bool := f.occurrences.isEmpty

/-- The value of a key. -/
def get? (f : Facts) (key : String) : Option String := (f.last? key).map Fact.value

/-- The span of a key. -/
def span? (f : Facts) (key : String) : Option String := (f.last? key).map Fact.span

/-- Whether a key is given. -/
def contains (f : Facts) (key : String) : Bool := (f.last? key).isSome

/-- The value of a key as a number, zero if the value is not a number. -/
def num? (f : Facts) (key : String) : Option Nat :=
  (f.get? key).map fun v => Numeral.value v.toList

/-- The value of a key as a number, `default` if the key is not given. -/
def numD (f : Facts) (key : String) (default : Nat) : Nat := (f.num? key).getD default

/-- Whether the value of a key is a number other than zero. -/
def flag? (f : Facts) (key : String) : Option Bool := (f.num? key).map fun n => n ≠ 0

/-! ## Slots -/

/-- The slots of a key, zero for each that is not a number. -/
def slots? (f : Facts) (key : String) : Option Slots :=
  (f.get? key).map fun v => ⟨(v.toList.splitOn '/').map Numeral.value⟩

/-- The slots of a key if they are all numbers and at least `n`. -/
def completeSlots? (f : Facts) (key : String) (n : Nat) : Option Slots :=
  (f.get? key).bind fun v =>
    ((v.toList.splitOn '/').mapM Numeral.read?).bind fun values =>
      if n ≤ values.length then some ⟨values⟩ else none

/-! ## Numbered keys -/

/-- The facts whose key is `stem` and a number below `bound`, by number. -/
def numbered (f : Facts) (stem : String) (bound : Nat) : List (Nat × Nat) :=
  f.toList.filterMap fun x =>
    ((stem.toList.isPrefixOf? x.key.toList).bind (Numeral.digits? 10)).bind fun n =>
      if n < bound then some (n, Numeral.value x.value.toList) else none

/-- The entry at one rank of a ranking of `what`: its value and its count. -/
def rank? (f : Facts) (what : String) (i : Nat) : Option (Nat × Nat) :=
  let stem := "rank" ++ Numeral.decimal i ++ "_"
  (f.num? (stem ++ what)).map fun v => (v, f.numD (stem ++ "count") 0)

/-- The entries of a ranking from rank `i` to the first rank that is not given, at most
`fuel` of them. -/
def ranksFrom (f : Facts) (what : String) : Nat → Nat → List (Nat × Nat)
  | 0, _ => []
  | fuel + 1, i =>
    match f.rank? what i with
    | some entry => entry :: ranksFrom f what fuel (i + 1)
    | none => []

/-- The entries of a ranking, up to the first rank that is not given. Each rank takes a fact of
its own, so there are no more ranks than facts. -/
def ranked (f : Facts) (what : String) : List (Nat × Nat) :=
  f.ranksFrom what f.occurrences.length 0

end Facts

namespace Slots

/-- The number in a slot, zero if the slot is missing. -/
def get (s : Slots) (i : Nat) : Nat := s.values.getD i 0

/-- Whether the number in a slot is not zero. -/
def bit (s : Slots) (i : Nat) : Bool := s.get i ≠ 0

end Slots

end PipelineProfile
