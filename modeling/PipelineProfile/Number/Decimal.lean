import PipelineProfile.Number.Binary64

/-!
# Doubles in decimal

Two ways of writing a double that is not negative. `fixed` gives a set number of places after
the point: the exact binary value is rounded, and a value exactly halfway goes to the even
neighbour. `shortest` gives the fewest significant digits that still read back as the same
double, and of those the nearest to it.

For the second, a double stands for the whole interval of numbers that round to it, ends
included if its significand is even. On the grid of decimal numbers with a given count of
digits, the two neighbours of the double are its only candidates: if any point of the grid lies
in the interval, one of them does.

A fraction typed in decimal is turned into a double by `Literal.toFloat`.
-/

namespace PipelineProfile.Decimal

open Binary64

/-! ## Literals -/

/-- A decimal fraction as written: its digits read as one number, and how many of them stand
behind the point. -/
structure Literal where
  digits : Nat
  places : Nat
  deriving DecidableEq, Repr

/-- The double nearest to a decimal fraction. -/
def Literal.toFloat (d : Literal) : Float := ofRatio d.digits (Nat.pow 10 d.places)

/-! ## A set number of places -/

/-- A double with `places` digits behind the point. -/
def fixed (places : Nat) (x : Float) : String :=
  if x.isInf then "inf"
  else
    let grid := Nat.pow 10 places
    let n := roundDiv (units x * grid) (Nat.pow 2 unitBits)
    let whole := Nat.toDigits 10 (n / grid)
    let behind := (Nat.toDigits 10 (n % grid)).leftpad places '0'
    String.ofList (if places = 0 then whole else whole ++ '.' :: behind)

/-! ## The fewest digits -/

/-- A positive decimal number `digits * 10 ^ exponent`. -/
structure Scientific where
  digits : Nat
  exponent : Int
  deriving DecidableEq, Repr

/-- The numbers that round to one double, as fractions over the common denominator `den`. -/
structure Interval where
  low : Nat
  center : Nat
  high : Nat
  den : Nat
  /-- Whether the ends belong to the interval. -/
  closed : Bool

/-- The interval of a positive finite double. Below a power of two the doubles lie twice as
close, unless the subnormal numbers begin there. -/
def intervalOf (x : Float) : Interval :=
  let m := significand x
  let step := Nat.pow 2 (scale x)
  { low := (4 * m - if m = Nat.pow 2 fractionBits && 1 ≤ scale x then 1 else 2) * step
    center := 4 * m * step
    high := (4 * m + 2) * step
    den := 4 * Nat.pow 2 unitBits
    closed := m % 2 = 0 }

/-- Whether `d * up / down` lies in the interval. -/
def Interval.contains (i : Interval) (up down d : Nat) : Bool :=
  let v := d * up * i.den
  if i.closed then i.low * down ≤ v && v ≤ i.high * down
  else i.low * down < v && v < i.high * down

/-- Of the two neighbours of the center on the grid of the multiples of `up / down`, the one in
the interval; if both are, the nearer one, and of equally near ones the even one. -/
def Interval.onGrid? (i : Interval) (up down : Nat) : Option Nat :=
  let below := i.center * down / (i.den * up)
  let above := below + 1
  match i.contains up down below, i.contains up down above with
  | true, true => some (roundDiv (i.center * down) (i.den * up))
  | true, false => some below
  | false, true => some above
  | false, false => none

/-- The least `k` up to `fuel` with `den ≤ num * 10 ^ k`. -/
def leadingPlace (num den : Nat) : Nat → Nat
  | 0 => 0
  | fuel + 1 => if den ≤ num then 0 else leadingPlace (num * 10) den fuel + 1

/-- The decimal exponent of the leading digit of a positive fraction between the least and the
greatest double. -/
def leadingExponent (num den : Nat) : Int :=
  if den ≤ num then (Nat.toDigits 10 (num / den)).length - 1 else -(leadingPlace num den 400)

/-- Remove up to `fuel` trailing zeros. -/
def dropZeros (d : Nat) (e : Int) : Nat → Scientific
  | 0 => ⟨d, e⟩
  | fuel + 1 => if d % 10 = 0 then dropZeros (d / 10) (e + 1) fuel else ⟨d, e⟩

/-- A double has at most this many significant digits in shortest form. -/
def maxDigits : Nat := 17

/-- The fewest digits that read back as the given positive finite double. -/
def shortest (x : Float) : Scientific :=
  let i := intervalOf x
  let lead := leadingExponent i.center i.den
  let tryDigits (k : Nat) : Option Scientific :=
    let e : Int := lead - k
    (i.onGrid? (Nat.pow 10 e.toNat) (Nat.pow 10 (-e).toNat)).map fun d => dropZeros d e maxDigits
  ((List.range maxDigits).findSome? tryDigits).getD ⟨0, 0⟩

end PipelineProfile.Decimal
