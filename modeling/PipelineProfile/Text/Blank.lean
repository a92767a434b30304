/-!
# Blank characters

The blanks of a trace are the characters with the Unicode property White_Space. They separate
the facts of a line, may pad the name inside a tag, and are trimmed from around a number.
`isBlank` is the property itself, and `trim` removes a list of characters' outer blanks.

The zero-width space, the byte-order mark and the separators `U+001C` to `U+001F` are not
blanks, so they glue their neighbours into one word.
-/

namespace PipelineProfile.Text

/-- The closed code point ranges of the Unicode property White_Space. -/
def blankRanges : List (Nat × Nat) :=
  [(0x0009, 0x000D), (0x0020, 0x0020), (0x0085, 0x0085), (0x00A0, 0x00A0), (0x1680, 0x1680),
    (0x2000, 0x200A), (0x2028, 0x2029), (0x202F, 0x202F), (0x205F, 0x205F), (0x3000, 0x3000)]

/-- Whether a character is a blank. -/
def isBlank (c : Char) : Bool :=
  blankRanges.any fun r => r.1 ≤ c.toNat && c.toNat ≤ r.2

/-- Remove the blanks before the first and after the last character that is not a blank. -/
def trim (s : List Char) : List Char :=
  ((s.dropWhile isBlank).reverse.dropWhile isBlank).reverse

/-- A space is a blank. -/
theorem isBlank_space : isBlank ' ' = true := by decide

/-- A line feed is a blank. -/
theorem isBlank_newline : isBlank '\n' = true := by decide

/-- Every white-space character of the ASCII range is a blank. -/
theorem isBlank_of_isWhitespace {c : Char} (h : c.isWhitespace = true) : isBlank c = true := by
  simp only [Char.isWhitespace, Bool.or_eq_true, decide_eq_true_eq] at h
  rcases h with ((h | h) | h) | h <;> subst h <;> decide

end PipelineProfile.Text
