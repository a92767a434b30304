import Mathlib.Data.List.DropRight
import Mathlib.Data.Nat.Log
import PipelineProfile.Proofs.Number.Spelling

/-!
# Which texts are numbers

The texts that are read as numbers are told here by a grammar.  A numeral is a run of decimal
digits, or a run of hexadecimal digits behind `0x` or `0X`, and one plus sign may stand before the
digits (`IsNumeral`).  A text stands for a number if it is a numeral of it with any blanks around
it, and the number is below `2 ^ 64` (`StandsFor`).

Each reader accepts exactly what its part of the grammar describes: `digits?_eq_some_iff`,
`dropPlus_digits?_eq_some_iff`, `magnitude?_eq_some_iff` and `trim_eq_iff`, one for each step of
`read?`.  The main result, `reads_exactly`, puts them together and adds that every number is read
back from all the ways in which it is written.
-/

namespace PipelineProfile.Numeral

open Text

/-! ## The grammar -/

/-- Digits that spell a number, or such digits behind a plus sign. -/
inductive Signed (base n : Nat) : List Char → Prop
  | bare {ds : List Char} (h : Digits base n ds) : Signed base n ds
  | plus {ds : List Char} (h : Digits base n ds) : Signed base n ('+' :: ds)

/-- The text is a numeral of the number. -/
inductive IsNumeral (n : Nat) : List Char → Prop
  | decimal {ds : List Char} (h : Signed 10 n ds) : IsNumeral n ds
  | hexadecimal {x : Char} {ds : List Char} (hx : x = 'x' ∨ x = 'X') (h : Signed 16 n ds) :
      IsNumeral n ('0' :: x :: ds)

/-- The text is a numeral of the number with blanks around it, and the number is not too large. -/
def StandsFor (n : Nat) (s : List Char) : Prop :=
  n < UInt64.size ∧ ∃ g t g', IsGap g ∧ IsNumeral n t ∧ IsGap g' ∧ s = g ++ (t ++ g')

/-! ## Digits -/

lemma mem_digitValues_of_hexValue? {c : Char} {d : Nat} (h : hexValue? c = some d) :
    (c, d) ∈ digitValues := by
  have hsmall : ∀ n < 103, ∀ d, hexValue? (Char.ofNat n) = some d →
      (Char.ofNat n, d) ∈ digitValues := by
    have hall : ∀ n < 103, ∀ d ∈ hexValue? (Char.ofNat n), (Char.ofNat n, d) ∈ digitValues := by
      decide
    exact hall
  have hlt : c.toNat < 103 := by
    unfold hexValue? at h
    simp only [Bool.and_eq_true, decide_eq_true_eq] at h
    split at h
    · omega
    · split at h
      · omega
      · split at h
        · omega
        · cases h
  rw [← Char.ofNat_toNat c] at h ⊢
  exact hsmall c.toNat hlt d h

lemma digitValue?_eq_some_iff {base d : Nat} {c : Char} :
    digitValue? base c = some d ↔ (c, d) ∈ digitValues ∧ d < base := by
  constructor
  · intro h
    have hhex : hexValue? c = some d := (Option.filter_eq_some_iff.mp h).1
    exact ⟨mem_digitValues_of_hexValue? hhex, lt_of_digitValue? h⟩
  · rintro ⟨hc, hd⟩
    exact digitValue?_of_mem hc hd

/-- Further digits behind some digits spell what is read on from the number of these. -/
lemma Digits.append {base v n : Nat} {ds cs : List Char} (hds : Digits base v ds)
    (h : digitsFrom? base v cs = some n) : Digits base n (ds ++ cs) := by
  induction cs generalizing v ds with
  | nil =>
    obtain rfl := Option.some.inj h
    rwa [List.append_nil]
  | cons c cs ih =>
    obtain ⟨d, hd, hcs⟩ := Option.bind_eq_some_iff.mp h
    obtain ⟨hmem, hlt⟩ := digitValue?_eq_some_iff.mp hd
    have hnext := ih (hds.next hmem hlt) hcs
    rwa [List.append_assoc, List.singleton_append] at hnext

/-- A run of digits is read as the number that it spells, and nothing else is read. -/
lemma digits?_eq_some_iff {base n : Nat} {ds : List Char} :
    digits? base ds = some n ↔ Digits base n ds := by
  constructor
  · intro h
    rcases ds with _ | ⟨c, cs⟩
    · cases h
    · obtain ⟨d, hd, hcs⟩ := Option.bind_eq_some_iff.mp h
      obtain ⟨hmem, hlt⟩ := digitValue?_eq_some_iff.mp hd
      rw [Nat.zero_mul, Nat.zero_add] at hcs
      exact (Digits.one hmem hlt).append hcs
  · exact Digits.digits?_eq

lemma dropPlus_digits?_eq_some_iff {base n : Nat} {s : List Char} :
    digits? base (dropPlus s) = some n ↔ Signed base n s := by
  constructor
  · intro h
    unfold dropPlus at h
    split at h
    · exact .plus (digits?_eq_some_iff.mp h)
    · exact .bare (digits?_eq_some_iff.mp h)
  · intro h
    cases h with
    | bare h => rw [h.dropPlus_eq, h.digits?_eq]
    | plus h => exact h.digits?_eq

/-! ## Numerals -/

section Signed

variable {base n : Nat} {s : List Char}

lemma Signed.isWord (h : Signed base n s) : IsWord s := by
  cases h with
  | bare h => exact h.isWord
  | plus h =>
    refine ⟨List.cons_ne_nil _ _, fun c hc => ?_⟩
    rcases List.mem_cons.mp hc with rfl | hc
    · decide
    · exact h.isWord.not_isBlank c hc

/-- What is written in decimal does not begin like a hexadecimal number. -/
lemma Signed.ne_prefix (h : Signed base n s) {x : Char} (hx : x = 'x' ∨ x = 'X') (t : List Char) :
    s ≠ '0' :: x :: t := by
  rintro rfl
  cases h with
  | bare h =>
    have hnot := h.ne_of_mem x (by simp)
    rcases hx with rfl | rfl
    · exact hnot.2.1 rfl
    · exact hnot.2.2 rfl

end Signed

lemma IsNumeral.isWord {n : Nat} {s : List Char} (h : IsNumeral n s) : IsWord s := by
  cases h with
  | decimal h => exact h.isWord
  | hexadecimal hx h =>
    refine ⟨List.cons_ne_nil _ _, List.forall_mem_cons.mpr ⟨by decide, ?_⟩⟩
    refine List.forall_mem_cons.mpr ⟨?_, h.isWord.not_isBlank⟩
    rcases hx with rfl | rfl
    · decide
    · decide

/-- A text without blanks around it is read as a number exactly if it is a numeral of it. -/
lemma magnitude?_eq_some_iff {n : Nat} {s : List Char} :
    magnitude? s = some n ↔ IsNumeral n s := by
  constructor
  · intro h
    unfold magnitude? at h
    split at h
    · exact .hexadecimal (.inl rfl) (dropPlus_digits?_eq_some_iff.mp h)
    · exact .hexadecimal (.inr rfl) (dropPlus_digits?_eq_some_iff.mp h)
    · exact .decimal (dropPlus_digits?_eq_some_iff.mp h)
  · intro h
    cases h with
    | decimal h =>
      unfold magnitude?
      split
      · exact absurd rfl (h.ne_prefix (.inl rfl) _)
      · exact absurd rfl (h.ne_prefix (.inr rfl) _)
      · exact dropPlus_digits?_eq_some_iff.mpr h
    | hexadecimal hx h =>
      rcases hx with rfl | rfl
      · exact dropPlus_digits?_eq_some_iff.mpr h
      · exact dropPlus_digits?_eq_some_iff.mpr h

/-! ## Blanks around a numeral -/

/-- Trimming a text leaves a word exactly if the text is that word with blanks around it. -/
lemma trim_eq_iff {s w : List Char} (hw : IsWord w) :
    trim s = w ↔ ∃ g g', IsGap g ∧ IsGap g' ∧ s = g ++ (w ++ g') := by
  constructor
  · rintro rfl
    let rest := s.dropWhile isBlank
    refine ⟨s.takeWhile isBlank, rest.rtakeWhile isBlank, fun c hc => List.mem_takeWhile_imp hc,
      fun c hc => List.mem_rtakeWhile_imp hc, ?_⟩
    have hrest : trim s ++ rest.rtakeWhile isBlank = rest := List.rdropWhile_append_rtakeWhile
    rw [hrest, List.takeWhile_append_dropWhile]
  · rintro ⟨g, g', hg, hg', rfl⟩
    exact trim_gap_word_gap hg hw hg'

/-- A text is read as a number exactly if it stands for it. -/
theorem read?_eq_some_iff {n : Nat} {s : List Char} : read? s = some n ↔ StandsFor n s := by
  have hread : read? s = some n ↔ n < bound ∧ IsNumeral n (trim s) := by
    rw [read?, Option.filter_eq_some_iff, magnitude?_eq_some_iff, decide_eq_true_eq, and_comm]
  rw [hread]
  apply and_congr_right
  intro _
  constructor
  · intro h
    obtain ⟨g, g', hg, hg', hs⟩ := (trim_eq_iff h.isWord).mp rfl
    exact ⟨g, trim s, g', hg, h, hg', hs⟩
  · rintro ⟨g, t, g', hg, ht, hg', hs⟩
    rwa [(trim_eq_iff ht.isWord).mpr ⟨g, g', hg, hg', hs⟩]

/-! ## Numbers as they are written -/

/-- How many digits a number has. -/
lemma length_toDigits {base : Nat} (hbase : 1 < base) (n : Nat) :
    (Nat.toDigits base n).length = Nat.log base n + 1 := by
  apply le_antisymm
  · rw [Nat.length_toDigits_le_iff hbase (Nat.succ_pos _)]
    exact Nat.lt_pow_succ_log_self hbase n
  · by_contra hlt
    have hle : (Nat.toDigits base n).length ≤ Nat.log base n := by omega
    have hpos : 0 < Nat.log base n := Nat.length_toDigits_pos.trans_le hle
    have hn : n ≠ 0 := by
      rintro rfl
      rw [Nat.log_zero_right] at hpos
      omega
    have hbelow : n < base ^ Nat.log base n := (Nat.length_toDigits_le_iff hbase hpos).mp hle
    exact absurd (Nat.pow_log_le_self base hn) (not_le.mpr hbelow)

/-- A machine word has the prefix and the digits of the number, filled up to eight. -/
lemma length_word (n : Nat) : (word n).length = max 10 (2 + (Nat.log 16 n + 1)) := by
  rw [word, String.length_ofList, List.length_cons, List.length_cons, List.length_leftpad,
    length_toDigits (by decide)]
  omega

/-- Every way of writing a number is read back. -/
structure IsReadBack (n : Nat) : Prop where
  decimal : value (decimal n).toList = n
  hexadecimal : ∀ zeros,
    value ('0' :: 'x' :: (List.replicate zeros '0' ++ Nat.toDigits 16 n)) = n
  word : value (word n).toList = n
  /-- A machine word has the prefix and the hexadecimal digits, of which there are
  `Nat.log 16 n + 1`, and ten characters at least. -/
  length_word : (Numeral.word n).length = max 10 (2 + (Nat.log 16 n + 1))

lemma isReadBack {n : Nat} (hn : n < bound) : IsReadBack n where
  decimal := value_of_spells hn (spells_decimal n)
  hexadecimal zeros := by
    have hdigits : Digits 16 n (Nat.toDigits 16 n) := Digits.toDigits (by decide) (by decide) n
    exact value_of_spells hn (.hexadecimal (hdigits.leadingZeros zeros))
  word := value_of_spells hn (spells_word n)
  length_word := length_word n

/-- **Numbers are read exactly and read back.**  A text is read as a number, and has it as its
value, if it stands for it.  A text that stands for no number is not read and has the value zero.
Every number is read back from its decimal digits, from its hexadecimal digits behind any zeros, and
from its machine word, so that different numbers are written as different words. -/
theorem reads_exactly :
    (∀ s n, read? s = some n ↔ StandsFor n s) ∧
      (∀ s n, StandsFor n s → value s = n) ∧
      (∀ s, (∀ n, ¬ StandsFor n s) → read? s = none ∧ value s = 0) ∧
      (∀ n : UInt64, IsReadBack n.toNat) ∧
      Function.Injective fun n : UInt64 => word n.toNat := by
  refine ⟨fun s n => read?_eq_some_iff, fun s n hs => ?_, fun s hs => ?_,
    fun n => isReadBack n.toNat_lt, ?_⟩
  · rw [value, read?_eq_some_iff.mpr hs, Option.getD_some]
  · have hnone : read? s = none := by
      apply Option.eq_none_iff_forall_ne_some.mpr
      exact fun n hn => hs n (read?_eq_some_iff.mp hn)
    exact ⟨hnone, by rw [value, hnone, Option.getD_none]⟩
  · intro m n h
    exact UInt64.toNat_inj.mp (word_injective m.toNat_lt n.toNat_lt h)

/-- A plus sign may stand behind the prefix of a hexadecimal number, and not before it. -/
example : read? " 0X+fF\t".toList = some 255 ∧ read? "+0xff".toList = none := by decide

end PipelineProfile.Numeral
