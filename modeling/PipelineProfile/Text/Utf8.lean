/-!
# Reading bytes as text

A trace is a file of bytes and may hold bytes that are not UTF-8. Reading never fails: every
maximal piece that begins like the encoding of a character but does not complete it, and every
byte that begins no encoding, becomes one replacement character `U+FFFD`.

The decoder is a machine over bytes. Its state is what it expects next, `step` takes one byte
and gives the characters that byte settles, and `finish` gives what an unfinished encoding at
the end of the bytes stands for. A line feed settles whatever came before it
(`decodeFrom_newline`), so no damage reaches from one line into the next.
-/

namespace PipelineProfile.Text.Utf8

/-- The character that stands for undecodable bytes. -/
def replacement : Char := '\uFFFD'

/-- What the decoder expects next. -/
inductive Expect where
  /-- The first byte of a character. -/
  | lead
  /-- A continuation byte between `low` and `high`, then `more` further ones; `code` holds the
  bits read so far. -/
  | continuation (low high : Nat) (more code : Nat)
  deriving DecidableEq, Repr

/-- Read a byte as the first one of a character. The bounds on the second byte exclude the
overlong forms, the surrogates and everything above `U+10FFFF`. -/
def stepLead (b : UInt8) : List Char × Expect :=
  let n := b.toNat
  if n < 0x80 then ([Char.ofNat n], .lead)
  else if n < 0xC2 then ([replacement], .lead)
  else if n < 0xE0 then ([], .continuation 0x80 0xBF 0 (n - 0xC0))
  else if n = 0xE0 then ([], .continuation 0xA0 0xBF 1 0)
  else if n = 0xED then ([], .continuation 0x80 0x9F 1 0xD)
  else if n < 0xF0 then ([], .continuation 0x80 0xBF 1 (n - 0xE0))
  else if n = 0xF0 then ([], .continuation 0x90 0xBF 2 0)
  else if n < 0xF4 then ([], .continuation 0x80 0xBF 2 (n - 0xF0))
  else if n = 0xF4 then ([], .continuation 0x80 0x8F 2 4)
  else ([replacement], .lead)

/-- What the end of the bytes, or a byte that does not fit, makes of the encoding begun. -/
def finish : Expect → List Char
  | .lead => []
  | .continuation .. => [replacement]

/-- Read one byte: the characters it settles, and what is expected after it. -/
def step : Expect → UInt8 → List Char × Expect
  | .lead, b => stepLead b
  | .continuation low high more code, b =>
    let n := b.toNat
    if low ≤ n ∧ n ≤ high then
      let code := code * 64 + (n - 0x80)
      match more with
      | 0 => ([Char.ofNat code], .lead)
      | more + 1 => ([], .continuation 0x80 0xBF more code)
    else
      (replacement :: (stepLead b).1, (stepLead b).2)

/-- The text of the bytes, read from the given state. -/
def decodeFrom : Expect → List UInt8 → List Char
  | e, [] => finish e
  | e, b :: bytes => (step e b).1 ++ decodeFrom (step e b).2 bytes

/-- The text of the bytes. -/
def decode (bytes : List UInt8) : List Char := decodeFrom .lead bytes

/-! ## Line feeds settle the text before them -/

/-- The byte of a line feed. -/
def newline : UInt8 := 0x0A

/-- Every state that a step reaches expects a continuation byte of `0x80` or above. -/
def Expect.Proper : Expect → Prop
  | .lead => True
  | .continuation low _ _ _ => 0x80 ≤ low

theorem proper_stepLead (b : UInt8) : (stepLead b).2.Proper := by
  unfold stepLead
  dsimp only
  repeat' split
  all_goals simp [Expect.Proper]

theorem proper_step {e : Expect} (b : UInt8) : (step e b).2.Proper := by
  cases e with
  | lead => exact proper_stepLead b
  | continuation low high more code =>
    rw [step]
    dsimp only
    split
    · cases more <;> simp [Expect.Proper]
    · exact proper_stepLead b

/-- A line feed ends what was begun before it and is itself. -/
theorem step_newline {e : Expect} (h : e.Proper) :
    step e newline = (finish e ++ ['\n'], .lead) := by
  cases e with
  | lead => decide
  | continuation low high more code =>
    have hlow : 0x80 ≤ low := h
    have hno : ¬ (low ≤ newline.toNat ∧ newline.toNat ≤ high) := by
      have : newline.toNat = 10 := rfl
      omega
    rw [step]
    dsimp only
    rw [if_neg hno]
    rfl

/-- **Line feeds cut.** The text of bytes with a line feed among them is the text before it, a
line feed, and the text after it, each read on its own. -/
theorem decodeFrom_newline {e : Expect} (h : e.Proper) (before after : List UInt8) :
    decodeFrom e (before ++ newline :: after) =
      decodeFrom e before ++ '\n' :: decodeFrom .lead after := by
  induction before generalizing e with
  | nil => simp [decodeFrom, step_newline h]
  | cons b before ih => simp [decodeFrom, ih (proper_step b)]

end PipelineProfile.Text.Utf8
