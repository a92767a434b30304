import PipelineProfile.Text.Blank

/-!
# Numerals

The numbers of a trace are written in decimal, or in hexadecimal after `0x` or `0X`. Blanks
around a numeral do not matter and one `+` may stand before the digits, in hexadecimal after the
prefix. A numeral counts only if it has a digit, holds nothing but digits and its value is below
`2 ^ 64`: `read?` refuses everything else, and `value` reads everything else as zero.

Going the other way, `decimal` writes a number in decimal, and `word` writes it as a machine
word, eight hexadecimal digits or more after `0x`.
-/

namespace PipelineProfile.Numeral

/-! ## Digits -/

/-- The value of a hexadecimal digit of either case. -/
def hexValue? (c : Char) : Option Nat :=
  let n := c.toNat
  if 48 ≤ n && n ≤ 57 then some (n - 48)
  else if 97 ≤ n && n ≤ 102 then some (n - 87)
  else if 65 ≤ n && n ≤ 70 then some (n - 55)
  else none

/-- The value of a digit of a base up to sixteen. -/
def digitValue? (base : Nat) (c : Char) : Option Nat := (hexValue? c).filter (· < base)

/-- The value of a run of digits after digits of the value `v`. -/
def digitsFrom? (base : Nat) : Nat → List Char → Option Nat
  | v, [] => some v
  | v, c :: cs => (digitValue? base c).bind fun d => digitsFrom? base (v * base + d) cs

/-- The value of one or more digits. -/
def digits? (base : Nat) : List Char → Option Nat
  | [] => none
  | cs => digitsFrom? base 0 cs

/-- A digit's value is below the base. -/
theorem lt_of_digitValue? {base : Nat} {c : Char} {d : Nat} (h : digitValue? base c = some d) :
    d < base := by
  simpa using (Option.filter_eq_some_iff.mp h).2

/-! ## Reading -/

/-- A text without one `+` at its front. -/
def dropPlus : List Char → List Char
  | '+' :: s => s
  | s => s

/-- The value of a numeral without blanks around it, of any size. -/
def magnitude? : List Char → Option Nat
  | '0' :: 'x' :: s => digits? 16 (dropPlus s)
  | '0' :: 'X' :: s => digits? 16 (dropPlus s)
  | s => digits? 10 (dropPlus s)

/-- Numbers are below this bound. -/
def bound : Nat := UInt64.size

/-- The number a text spells. -/
def read? (s : List Char) : Option Nat :=
  (magnitude? (Text.trim s)).filter (· < bound)

/-- The number a text spells, or zero if it spells none. -/
def value (s : List Char) : Nat := (read? s).getD 0

/-! ## Writing -/

/-- A number in decimal, without leading zeros. -/
def decimal (n : Nat) : String := String.ofList (Nat.toDigits 10 n)

theorem decimal_ne_nil (n : Nat) : (decimal n).toList ≠ [] := by
  rw [decimal, String.toList_ofList]
  exact Nat.toDigits_ne_nil

theorem isDigit_of_mem_decimal {n : Nat} {c : Char} (h : c ∈ (decimal n).toList) :
    c.isDigit = true := by
  rw [decimal, String.toList_ofList] at h
  exact Nat.isDigit_of_mem_toDigits (by decide) (by decide) h

/-- A number as a machine word: `0x` and lowercase hexadecimal digits, at least eight. -/
def word (n : Nat) : String :=
  String.ofList ('0' :: 'x' :: (Nat.toDigits 16 n).leftpad 8 '0')

end PipelineProfile.Numeral
