import PipelineProfile.Number.Decimal
import PipelineProfile.Number.Numeral
import PipelineProfile.Tally

/-!
# JSON documents

Values with the members of objects in a fixed order, and their text. `Json.render` puts every
item and every member on a line of its own, two blanks further in for each level, while an empty
array or object stays on one line.

Counts are written as they are. Other numbers are doubles, written with the fewest digits that
read back: with a point as long as the leading digit is not too far from it, and otherwise in
scientific form. JSON has no infinity, so `null` stands for it.
-/

namespace PipelineProfile

/-- A JSON document. -/
inductive Json where
  | null
  | bool (b : Bool)
  | nat (n : Nat)
  | float (x : Float)
  | string (s : String)
  | array (items : List Json)
  | object (members : List (String × Json))

namespace Json

/-! ## Numbers -/

/-- Up to this many digits stand before the point of a number in positional form. -/
def maxWhole : Int := 16

/-- Up to this many zeros stand between the point and the leading digit of a number in
positional form. -/
def maxLeadingZeros : Int := 4

/-- The text of the number `0.ds * 10 ^ point`, for a list `ds` of digits. -/
def placePoint (ds : List Char) (point : Int) : List Char :=
  let size : Int := ds.length
  if size ≤ point ∧ point ≤ maxWhole then
    ds ++ List.replicate (point - size).toNat '0' ++ ".0".toList
  else if 0 < point ∧ point ≤ maxWhole then
    ds.take point.toNat ++ '.' :: ds.drop point.toNat
  else if -maxLeadingZeros ≤ point ∧ point ≤ 0 then
    "0.".toList ++ List.replicate (-point).toNat '0' ++ ds
  else
    let exponent := point - 1
    let sign := if exponent < 0 then '-' else '+'
    let fraction := if ds.length = 1 then [] else '.' :: ds.drop 1
    ds.take 1 ++ fraction ++ 'e' :: sign :: Nat.toDigits 10 exponent.natAbs

/-- The text of a double that is not negative. -/
def number (x : Float) : String :=
  if x.isInf then "null"
  else if Binary64.units x = 0 then "0.0"
  else
    let s := Decimal.shortest x
    let ds := Nat.toDigits 10 s.digits
    String.ofList (placePoint ds (ds.length + s.exponent))

/-! ## Strings -/

/-- The text of a character within a string. Quotation marks, backslashes and control characters
are escaped. -/
def escape (c : Char) : List Char :=
  if c = '"' then ['\\', '"']
  else if c = '\\' then ['\\', '\\']
  else if c = '\n' then ['\\', 'n']
  else if c = '\r' then ['\\', 'r']
  else if c = '\t' then ['\\', 't']
  else if c = '\x08' then ['\\', 'b']
  else if c = '\x0c' then ['\\', 'f']
  else if c.toNat < 0x20 then '\\' :: 'u' :: (Nat.toDigits 16 c.toNat).leftpad 4 '0'
  else [c]

/-- The text of a string. -/
def quoted (s : String) : String := String.ofList ('"' :: (s.toList.flatMap escape ++ ['"']))

/-! ## Documents -/

/-- The start of a line at some level. -/
def newline (level : Nat) : String := "\n" ++ String.ofList (List.replicate (2 * level) ' ')

mutual

/-- The text of a document at some level. -/
def renderAt (level : Nat) : Json → String
  | null => "null"
  | bool b => if b then "true" else "false"
  | nat n => Numeral.decimal n
  | float x => number x
  | string s => quoted s
  | array [] => "[]"
  | array (v :: vs) =>
    "[" ++ newline (level + 1) ++ renderAt (level + 1) v ++ renderItems (level + 1) vs ++
      newline level ++ "]"
  | object [] => "\x7b\x7d"
  | object ((k, v) :: ms) =>
    "\x7b" ++ newline (level + 1) ++ quoted k ++ ": " ++ renderAt (level + 1) v ++
      renderMembers (level + 1) ms ++ newline level ++ "\x7d"

/-- The text of the items of an array behind the first one. -/
def renderItems (level : Nat) : List Json → String
  | [] => ""
  | v :: vs => "," ++ newline level ++ renderAt level v ++ renderItems level vs

/-- The text of the members of an object behind the first one. -/
def renderMembers (level : Nat) : List (String × Json) → String
  | [] => ""
  | (k, v) :: ms =>
    "," ++ newline level ++ quoted k ++ ": " ++ renderAt level v ++ renderMembers level ms

end

/-- The text of a document. -/
def render (v : Json) : String := renderAt 0 v

/-! ## Building documents -/

/-- A value that may be missing. -/
def optional {α : Type} (f : α → Json) : Option α → Json
  | some a => f a
  | none => null

/-- The counts of a tally under the texts of its keys. -/
def ofTally {κ : Type} [Ord κ] (key : κ → String) (t : Tally κ) : Json :=
  object (t.entries.map fun e => (key e.1, nat e.2))

end Json

end PipelineProfile
