import PipelineProfile.Number.Numeral
import PipelineProfile.Proofs.Line.Words

/-!
# The spelling of numbers

How numbers are spelled, told apart from how they are read.  `Digits` says which number a run of
digits spells, from the left to the right, with leading zeros and with hexadecimal digits of either
case.  `Spells` adds the prefix of the hexadecimal numbers.

A number below the bound is read back from each of its spellings (`read?_of_spells`).  The decimal
digits that are written for a number are one of them (`spells_decimal`), and so is the machine word
(`spells_word`), which therefore tells the numbers apart (`word_injective`).
-/

namespace PipelineProfile.Numeral

open Text

/-! ## Spellings -/

/-- The digits and their values. -/
def digitValues : List (Char × Nat) :=
  [('0', 0), ('1', 1), ('2', 2), ('3', 3), ('4', 4), ('5', 5), ('6', 6), ('7', 7), ('8', 8),
    ('9', 9), ('a', 10), ('A', 10), ('b', 11), ('B', 11), ('c', 12), ('C', 12), ('d', 13),
    ('D', 13), ('e', 14), ('E', 14), ('f', 15), ('F', 15)]

/-- The digits spell the number in the base. -/
inductive Digits (base : Nat) : Nat → List Char → Prop
  | one {c : Char} {d : Nat} (hc : (c, d) ∈ digitValues) (hd : d < base) : Digits base d [c]
  | next {n : Nat} {ds : List Char} {c : Char} {d : Nat} (hds : Digits base n ds)
      (hc : (c, d) ∈ digitValues) (hd : d < base) : Digits base (n * base + d) (ds ++ [c])

/-- The text spells the number, in decimal or in hexadecimal. -/
inductive Spells (n : Nat) : List Char → Prop
  | decimal {ds : List Char} (h : Digits 10 n ds) : Spells n ds
  | hexadecimal {ds : List Char} (h : Digits 16 n ds) : Spells n ('0' :: 'x' :: ds)

/-! ## Digits -/

lemma digitValue?_of_mem {base : Nat} {c : Char} {d : Nat} (hc : (c, d) ∈ digitValues)
    (hd : d < base) : digitValue? base c = some d := by
  have hvalues : ∀ e ∈ digitValues, hexValue? e.1 = some e.2 := by decide
  have hhex : hexValue? c = some d := hvalues (c, d) hc
  rw [digitValue?, hhex, Option.filter_some, if_pos (by simpa using hd)]

lemma not_isBlank_of_mem {c : Char} {d : Nat} (hc : (c, d) ∈ digitValues) : isBlank c = false := by
  have hdigits : ∀ e ∈ digitValues, isBlank e.1 = false := by decide
  exact hdigits (c, d) hc

lemma digitsFrom?_append (base v : Nat) (cs ds : List Char) :
    digitsFrom? base v (cs ++ ds) =
      (digitsFrom? base v cs).bind fun n => digitsFrom? base n ds := by
  induction cs generalizing v with
  | nil => rfl
  | cons c cs ih =>
    rw [List.cons_append, digitsFrom?, digitsFrom?]
    cases digitValue? base c with
    | none => rfl
    | some d => exact ih (v * base + d)

namespace Digits

variable {base n : Nat} {ds : List Char}

lemma ne_nil (h : Digits base n ds) : ds ≠ [] := by
  cases h with
  | one hc hd => exact List.cons_ne_nil _ _
  | next hds hc hd => simp

lemma exists_value (h : Digits base n ds) : ∀ c ∈ ds, ∃ d, (c, d) ∈ digitValues ∧ d < base := by
  induction h with
  | one hc hd =>
    intro c hmem
    obtain rfl := List.mem_singleton.mp hmem
    exact ⟨_, hc, hd⟩
  | next hds hc hd ih =>
    intro c hmem
    obtain hmem | hmem := List.mem_append.mp hmem
    · exact ih c hmem
    · obtain rfl := List.mem_singleton.mp hmem
      exact ⟨_, hc, hd⟩

lemma digitsFrom?_eq (h : Digits base n ds) : digitsFrom? base 0 ds = some n := by
  induction h with
  | one hc hd =>
    rw [digitsFrom?, digitValue?_of_mem hc hd]
    simp [digitsFrom?]
  | next hds hc hd ih =>
    rw [digitsFrom?_append, ih, Option.bind_some, digitsFrom?, digitValue?_of_mem hc hd]
    rfl

/-- Digits are read as the number that they spell. -/
lemma digits?_eq (h : Digits base n ds) : digits? base ds = some n := by
  obtain ⟨c, cs, rfl⟩ := List.exists_cons_of_ne_nil h.ne_nil
  exact h.digitsFrom?_eq

/-- What is true of all digits of the base is true of the digits of a number. -/
lemma forall_mem {q : Char → Prop} (h : Digits base n ds)
    (hq : ∀ e ∈ digitValues, e.2 < base → q e.1) : ∀ c ∈ ds, q c := by
  intro c hc
  obtain ⟨d, hmem, hd⟩ := h.exists_value c hc
  exact hq (c, d) hmem hd

/-- No digit of a decimal number is the letter of a prefix. -/
lemma ne_of_mem (h : Digits base n ds) : ∀ c ∈ ds, c ≠ '+' ∧ c ≠ 'x' ∧ c ≠ 'X' := by
  have hvalues : ∀ e ∈ digitValues, e.1 ≠ '+' ∧ e.1 ≠ 'x' ∧ e.1 ≠ 'X' := by decide
  exact h.forall_mem fun e he _ => hvalues e he

lemma isWord (h : Digits base n ds) : IsWord ds :=
  ⟨h.ne_nil, h.forall_mem fun _ he _ => not_isBlank_of_mem he⟩

lemma dropPlus_eq (h : Digits base n ds) : dropPlus ds = ds := by
  obtain ⟨c, cs, rfl⟩ := List.exists_cons_of_ne_nil h.ne_nil
  have hne : c ≠ '+' := (h.ne_of_mem c (List.mem_cons_self ..)).1
  rw [dropPlus]
  intro s heq
  exact hne (List.cons.inj heq).1

/-- What is written for a number are digits that spell it. -/
lemma toDigits (hbase : 1 < base) (hle : base ≤ 16) (n : Nat) :
    Digits base n (Nat.toDigits base n) := by
  have hchars : ∀ d < 16, (Nat.digitChar d, d) ∈ digitValues := by decide
  induction n using Nat.strongRecOn with
  | ind n ih =>
    rw [Nat.toDigits_eq_if hbase]
    split
    · next hlt => exact one (hchars n (by omega)) hlt
    · next hge =>
      have hmod : n % base < base := Nat.mod_lt n (by omega)
      have hdiv : n / base < n := Nat.div_lt_self (by omega) hbase
      have hnext := next (ih (n / base) hdiv) (hchars (n % base) (by omega)) hmod
      rwa [Nat.div_add_mod' n base] at hnext

lemma leadingZero (h : Digits base n ds) : Digits base n ('0' :: ds) := by
  induction h with
  | one hc hd =>
    have hzero : Digits base 0 ['0'] := .one (by decide) (Nat.zero_lt_of_lt hd)
    have hnext := hzero.next hc hd
    rwa [Nat.zero_mul, Nat.zero_add] at hnext
  | next _ hc hd ih => exact ih.next hc hd

/-- Zeros in front do not change a number. -/
lemma leadingZeros (h : Digits base n ds) (k : Nat) :
    Digits base n (List.replicate k '0' ++ ds) := by
  induction k with
  | zero => exact h
  | succ k ih => exact ih.leadingZero

end Digits

/-! ## Reading numbers back -/

lemma dropWhile_isBlank_word {w : List Char} (hw : IsWord w) (t : List Char) :
    (w ++ t).dropWhile isBlank = w ++ t := by
  obtain ⟨c, v, rfl⟩ := List.exists_cons_of_ne_nil hw.ne_nil
  apply List.dropWhile_cons_of_neg
  simp [hw.not_isBlank c (List.mem_cons_self ..)]

/-- Trimming takes the blanks on both sides of a word away. -/
lemma trim_gap_word_gap {g w g' : List Char} (hg : IsGap g) (hw : IsWord w) (hg' : IsGap g') :
    trim (g ++ (w ++ g')) = w := by
  have hreverse : IsWord w.reverse :=
    ⟨by simpa using hw.ne_nil, fun c hc => hw.not_isBlank c (List.mem_reverse.mp hc)⟩
  have hbehind : ∀ c ∈ g'.reverse, isBlank c = true := fun c hc => hg' c (List.mem_reverse.mp hc)
  have hback : w.reverse.dropWhile isBlank = w.reverse := by
    simpa using dropWhile_isBlank_word hreverse []
  rw [trim, List.dropWhile_append_of_pos hg, dropWhile_isBlank_word hw, List.reverse_append,
    List.dropWhile_append_of_pos hbehind, hback, List.reverse_reverse]

lemma trim_word {w : List Char} (hw : IsWord w) : trim w = w := by
  have htrim := trim_gap_word_gap isGap_nil hw isGap_nil
  rwa [List.nil_append, List.append_nil] at htrim

namespace Spells

variable {n : Nat} {s : List Char}

lemma isWord (h : Spells n s) : IsWord s := by
  cases h with
  | decimal h => exact h.isWord
  | hexadecimal h =>
    refine ⟨List.cons_ne_nil _ _, fun c hc => ?_⟩
    obtain rfl | hc := List.mem_cons.mp hc
    · decide
    · obtain rfl | hc := List.mem_cons.mp hc
      · decide
      · exact h.isWord.not_isBlank c hc

lemma magnitude?_eq (h : Spells n s) : magnitude? s = some n := by
  cases h with
  | decimal h =>
    have hnot := h.ne_of_mem
    rw [magnitude?, h.dropPlus_eq, h.digits?_eq]
    · rintro t rfl
      exact (hnot 'x' (by simp)).2.1 rfl
    · rintro t rfl
      exact (hnot 'X' (by simp)).2.2 rfl
  | hexadecimal h => rw [magnitude?, h.dropPlus_eq, h.digits?_eq]

end Spells

/-- A number is read back from each of its spellings. -/
theorem read?_of_spells {n : Nat} {s : List Char} (hn : n < bound) (h : Spells n s) :
    read? s = some n := by
  rw [read?, trim_word h.isWord, h.magnitude?_eq, Option.filter_some, if_pos (by simpa using hn)]

lemma value_of_spells {n : Nat} {s : List Char} (hn : n < bound) (h : Spells n s) :
    value s = n := by
  rw [value, read?_of_spells hn h, Option.getD_some]

/-- A number is spelled by what is written for it. -/
lemma spells_decimal (n : Nat) : Spells n (decimal n).toList := by
  rw [decimal, String.toList_ofList]
  exact .decimal (Digits.toDigits (by decide) (by decide) n)

/-- The decimal digits of a number are read back, however large it is. -/
lemma digits?_decimal (n : Nat) : digits? 10 (decimal n).toList = some n := by
  rw [decimal, String.toList_ofList]
  exact (Digits.toDigits (by decide) (by decide) n).digits?_eq

/-- Different numbers are written as different decimal digits. -/
lemma decimal_injective : Function.Injective decimal := by
  intro m n h
  have hread := digits?_decimal m
  rw [h, digits?_decimal n] at hread
  exact (Option.some.inj hread).symm

/-- A number is spelled by the machine word that is written for it. -/
lemma spells_word (n : Nat) : Spells n (word n).toList := by
  rw [word, String.toList_ofList, List.leftpad]
  exact .hexadecimal ((Digits.toDigits (by decide) (by decide) n).leadingZeros _)

/-- Different numbers are written as different machine words. -/
lemma word_injective {m n : Nat} (hm : m < bound) (hn : n < bound) (h : word m = word n) :
    m = n := by
  rw [← value_of_spells hm (spells_word m), h, value_of_spells hn (spells_word n)]

end PipelineProfile.Numeral
