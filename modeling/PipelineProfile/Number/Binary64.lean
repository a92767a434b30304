/-!
# Double-precision numbers as exact fractions

The figures of a profile that are not counts are IEEE double-precision numbers, none of them
negative. Every finite one is a multiple of the least subnormal number `2 ^ -1074`, so it is
given here by a natural number of such units.

`ofRatio` is the double nearest to a fraction, with ties going to the even significand and
everything too large going to infinity, and `ratio` divides two counts. `significand` and `scale`
take a double apart again: its units are `significand x * 2 ^ scale x`.
-/

namespace PipelineProfile.Binary64

/-! ## Rounding -/

/-- The natural number nearest to `num / den`; halfway between two, the even one. -/
def roundDiv (num den : Nat) : Nat :=
  let q := num / den
  let twice := 2 * (num % den)
  if twice < den then q
  else if den < twice then q + 1
  else q + q % 2

/-- Rounding is off by at most one half. -/
theorem roundDiv_near {num den : Nat} (h : 0 < den) :
    2 * (roundDiv num den * den) ≤ 2 * num + den ∧
      2 * num ≤ 2 * (roundDiv num den * den) + den := by
  have hsplit : den * (num / den) + num % den = num := Nat.div_add_mod num den
  have hcomm : num / den * den = den * (num / den) := Nat.mul_comm _ _
  have hlt : num % den < den := Nat.mod_lt _ h
  unfold roundDiv
  dsimp only
  split
  · omega
  · split
    · rw [Nat.add_mul, Nat.one_mul]; omega
    · have hmod : num / den % 2 = 0 ∨ num / den % 2 = 1 := by omega
      rcases hmod with hm | hm <;> rw [hm, Nat.add_mul] <;> omega

/-- How many bits a unit is below one. -/
def unitBits : Nat := 1074

/-- How many bits of a significand stand behind its first one. -/
def fractionBits : Nat := 52

/-- How many bits the exponent field has. -/
def exponentBits : Nat := 11

/-- The bits of infinity. -/
def infinityBits : Nat := 0x7FF * Nat.pow 2 fractionBits

/-- The bits of the double nearest to `num / den`, for a positive `den`. The first `fractionBits`
bits behind the leading one are kept; below the normal range, everything down to one unit. -/
def bitsOfRatio (num den : Nat) : Nat :=
  let scaled := num * Nat.pow 2 unitBits
  let scale := Nat.log2 (scaled / den) - fractionBits
  -- A significand rounded up to the next power of two carries into the exponent field.
  min (scale * Nat.pow 2 fractionBits + roundDiv scaled (den * Nat.pow 2 scale)) infinityBits

/-- The double nearest to `num / den`, for a positive `den`. -/
def ofRatio (num den : Nat) : Float := Float.ofBits (bitsOfRatio num den).toUInt64

/-- The double nearest to a natural number. -/
def ofNat (n : Nat) : Float := ofRatio n 1

/-! ## Ratios of counts -/

/-- The ratio of two counts, zero if the second is zero: the quotient of their doubles. -/
def ratio (num den : Nat) : Float := if den = 0 then 0 else ofNat num / ofNat den

/-- The ratio of two counts, the first one multiplied by a factor. -/
def scaledRatio (factor : Float) (num den : Nat) : Float :=
  if den = 0 then 0 else factor * ofNat num / ofNat den

/-! ## Taking a double apart -/

/-- The exponent field. -/
def exponentField (x : Float) : Nat :=
  x.toBits.toNat / Nat.pow 2 fractionBits % Nat.pow 2 exponentBits

/-- The significand of a finite double, with its leading one if it is normal. -/
def significand (x : Float) : Nat :=
  let fraction := x.toBits.toNat % Nat.pow 2 fractionBits
  if exponentField x = 0 then fraction else fraction + Nat.pow 2 fractionBits

/-- By how many bits the significand is shifted to count units. -/
def scale (x : Float) : Nat := exponentField x - 1

/-- A finite double as a number of units. -/
def units (x : Float) : Nat := significand x * Nat.pow 2 (scale x)

end PipelineProfile.Binary64
