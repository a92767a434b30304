import PipelineProfile.Number.Numeral

/-!
# Registers

Lines are counted by natural numbers, of which no trace needs large ones. The numbers that lines
carry can be anything below `2 ^ 64`, and wherever such numbers are added up, the sum is kept in a
register of 64 bits. What does not fit is lost: a register holds the remainder of the sum, which is
the sum itself as long as that is below the bound.
-/

namespace PipelineProfile.Register

/-- The sum of two numbers in a register. -/
def add (m n : Nat) : Nat := (m + n) % Numeral.bound

/-- The sum of some numbers in a register, to which they are added one after the other. -/
def sum (ns : List Nat) : Nat := ns.foldl add 0

/-- A sum that fits is kept. -/
theorem add_eq_of_lt {m n : Nat} (h : m + n < Numeral.bound) : add m n = m + n :=
  Nat.mod_eq_of_lt h

end PipelineProfile.Register
