import Mathlib.Data.List.Basic
import PipelineProfile.Text.Utf8

/-!
# Decoding what was encoded

A text that is written in UTF-8 is read back as it was, whatever bytes follow it
(`decodeFrom_encode`).  The decoder takes one byte at a time, so the proof goes by the number of
bytes of a character: `decodeFrom_two` and its neighbours say what a complete sequence of bytes is
read as, and `decodeFrom_encodeChar` that the bytes of a character are such a sequence and spell its
number.

All bytes of a character beyond ASCII are `0x80` or above, so the byte of a line feed stands for
nothing but a line feed (`newline_not_mem_encode`).
-/

namespace PipelineProfile.Text.Utf8

/-- The bytes of a text. -/
def encode (text : String) : List UInt8 := text.toUTF8.data.toList

lemma encode_eq_flatMap (text : String) :
    encode text = text.toList.flatMap String.utf8EncodeChar := by
  rw [encode, String.toUTF8, ← String.utf8Encode_toList, List.utf8Encode, List.data_toByteArray]

/-! ## Sequences of bytes -/

section Sequences

variable {a b c d : UInt8} (bytes : List UInt8)

lemma decodeFrom_one (ha : a.toNat < 0x80) :
    decodeFrom .lead (a :: bytes) = Char.ofNat a.toNat :: decodeFrom .lead bytes := by
  simp only [decodeFrom, step, stepLead, if_pos ha]
  rfl

/-- A byte that continues a character adds its bits. -/
lemma decodeFrom_continuation {low high more code : Nat} (hb : low ≤ b.toNat ∧ b.toNat ≤ high) :
    decodeFrom (.continuation low high (more + 1) code) (b :: bytes) =
      decodeFrom (.continuation 0x80 0xBF more (code * 64 + (b.toNat - 0x80))) bytes := by
  simp only [decodeFrom, step, if_pos hb]
  rfl

/-- The last byte of a character settles it. -/
lemma decodeFrom_last {low high code : Nat} (hb : low ≤ b.toNat ∧ b.toNat ≤ high) :
    decodeFrom (.continuation low high 0 code) (b :: bytes) =
      Char.ofNat (code * 64 + (b.toNat - 0x80)) :: decodeFrom .lead bytes := by
  simp only [decodeFrom, step, if_pos hb]
  rfl

lemma decodeFrom_two (ha : 0xC2 ≤ a.toNat ∧ a.toNat < 0xE0) (hb : 0x80 ≤ b.toNat ∧ b.toNat ≤ 0xBF) :
    decodeFrom .lead (a :: b :: bytes) =
      Char.ofNat ((a.toNat - 0xC0) * 64 + (b.toNat - 0x80)) :: decodeFrom .lead bytes := by
  have hlead : stepLead a = ([], .continuation 0x80 0xBF 0 (a.toNat - 0xC0)) := by
    unfold stepLead
    dsimp only
    rw [if_neg (by omega), if_neg (by omega), if_pos ha.2]
  rw [decodeFrom, step, hlead]
  exact decodeFrom_last bytes hb

lemma decodeFrom_three (ha : 0xE0 ≤ a.toNat ∧ a.toNat < 0xF0)
    (hb : 0x80 ≤ b.toNat ∧ b.toNat ≤ 0xBF) (hc : 0x80 ≤ c.toNat ∧ c.toNat ≤ 0xBF)
    (hlow : a.toNat = 0xE0 → 0xA0 ≤ b.toNat) (hhigh : a.toNat = 0xED → b.toNat ≤ 0x9F) :
    decodeFrom .lead (a :: b :: c :: bytes) =
      Char.ofNat (((a.toNat - 0xE0) * 64 + (b.toNat - 0x80)) * 64 + (c.toNat - 0x80)) ::
        decodeFrom .lead bytes := by
  have hlead : ∃ low high, stepLead a = ([], .continuation low high 1 (a.toNat - 0xE0)) ∧
      low ≤ b.toNat ∧ b.toNat ≤ high := by
    unfold stepLead
    dsimp only
    rw [if_neg (by omega), if_neg (by omega), if_neg (by omega)]
    by_cases hE0 : a.toNat = 0xE0
    · rw [if_pos hE0, hE0]
      exact ⟨0xA0, 0xBF, rfl, hlow hE0, hb.2⟩
    · by_cases hED : a.toNat = 0xED
      · rw [if_neg hE0, if_pos hED, hED]
        exact ⟨0x80, 0x9F, rfl, hb.1, hhigh hED⟩
      · rw [if_neg hE0, if_neg hED, if_pos ha.2]
        exact ⟨0x80, 0xBF, rfl, hb⟩
  obtain ⟨low, high, hlead, hbounds⟩ := hlead
  rw [decodeFrom, step, hlead, List.nil_append, decodeFrom_continuation _ hbounds]
  exact decodeFrom_last bytes hc

lemma decodeFrom_four (ha : 0xF0 ≤ a.toNat ∧ a.toNat ≤ 0xF4)
    (hb : 0x80 ≤ b.toNat ∧ b.toNat ≤ 0xBF) (hc : 0x80 ≤ c.toNat ∧ c.toNat ≤ 0xBF)
    (hd : 0x80 ≤ d.toNat ∧ d.toNat ≤ 0xBF)
    (hlow : a.toNat = 0xF0 → 0x90 ≤ b.toNat) (hhigh : a.toNat = 0xF4 → b.toNat ≤ 0x8F) :
    decodeFrom .lead (a :: b :: c :: d :: bytes) =
      Char.ofNat ((((a.toNat - 0xF0) * 64 + (b.toNat - 0x80)) * 64 + (c.toNat - 0x80)) * 64 +
        (d.toNat - 0x80)) :: decodeFrom .lead bytes := by
  have hlead : ∃ low high, stepLead a = ([], .continuation low high 2 (a.toNat - 0xF0)) ∧
      low ≤ b.toNat ∧ b.toNat ≤ high := by
    unfold stepLead
    dsimp only
    rw [if_neg (by omega), if_neg (by omega), if_neg (by omega), if_neg (by omega),
      if_neg (by omega), if_neg (by omega)]
    by_cases hF0 : a.toNat = 0xF0
    · rw [if_pos hF0, hF0]
      exact ⟨0x90, 0xBF, rfl, hlow hF0, hb.2⟩
    · by_cases hF4 : a.toNat = 0xF4
      · rw [if_neg hF0, if_neg (by omega), if_pos hF4, hF4]
        exact ⟨0x80, 0x8F, rfl, hb.1, hhigh hF4⟩
      · rw [if_neg hF0, if_pos (by omega)]
        exact ⟨0x80, 0xBF, rfl, hb⟩
  obtain ⟨low, high, hlead, hbounds⟩ := hlead
  rw [decodeFrom, step, hlead, List.nil_append, decodeFrom_continuation _ hbounds,
    decodeFrom_continuation _ hc]
  exact decodeFrom_last bytes hd

end Sequences

/-! ## Characters -/

lemma toNat_ofNat_of_lt {n : Nat} (h : n < 256) : (UInt8.ofNat n).toNat = n := by
  rw [UInt8.toNat_ofNat']
  exact Nat.mod_eq_of_lt h

/-- The bytes of a character are read as that character. -/
lemma decodeFrom_encodeChar (c : Char) (bytes : List UInt8) :
    decodeFrom .lead (String.utf8EncodeChar c ++ bytes) = c :: decodeFrom .lead bytes := by
  have hvalid : c.toNat < 0xD800 ∨ 0xDFFF < c.toNat ∧ c.toNat < 0x110000 := c.valid
  have hchar : ∀ n, n = c.toNat → Char.ofNat n = c := fun n hn => by rw [hn, Char.ofNat_toNat]
  have hval : c.val.toNat = c.toNat := rfl
  simp only [String.utf8EncodeChar, hval]
  generalize c.toNat = n at *
  -- The bits of the last bytes, by six.
  have hd : (UInt8.ofNat (n % 64 + 128)).toNat = n % 64 + 128 := toNat_ofNat_of_lt (by omega)
  have hc : (UInt8.ofNat (n / 64 % 64 + 128)).toNat = n / 64 % 64 + 128 :=
    toNat_ofNat_of_lt (by omega)
  have hb : (UInt8.ofNat (n / 4096 % 64 + 128)).toNat = n / 4096 % 64 + 128 :=
    toNat_ofNat_of_lt (by omega)
  split
  · have ha : (UInt8.ofNat n).toNat = n := toNat_ofNat_of_lt (by omega)
    rw [List.singleton_append, decodeFrom_one _ (by omega), ha, hchar n rfl]
  · split
    · have ha : (UInt8.ofNat (n / 64 % 32 + 192)).toNat = n / 64 % 32 + 192 :=
        toNat_ofNat_of_lt (by omega)
      simp only [List.cons_append, List.nil_append]
      rw [decodeFrom_two _ (by omega) (by omega), hchar]
      omega
    · split
      · have ha : (UInt8.ofNat (n / 4096 % 16 + 224)).toNat = n / 4096 % 16 + 224 :=
          toNat_ofNat_of_lt (by omega)
        simp only [List.cons_append, List.nil_append]
        rw [decodeFrom_three _ (by omega) (by omega) (by omega) (by omega) (by omega), hchar]
        omega
      · have ha : (UInt8.ofNat (n / 262144 % 8 + 240)).toNat = n / 262144 % 8 + 240 :=
          toNat_ofNat_of_lt (by omega)
        simp only [List.cons_append, List.nil_append]
        rw [decodeFrom_four _ (by omega) (by omega) (by omega) (by omega) (by omega) (by omega),
          hchar]
        omega

/-- **A text is read back as it was written**, whatever bytes follow it. -/
lemma decodeFrom_encode (text : String) (bytes : List UInt8) :
    decodeFrom .lead (encode text ++ bytes) = text.toList ++ decodeFrom .lead bytes := by
  rw [encode_eq_flatMap]
  induction text.toList with
  | nil => rfl
  | cons c s ih => rw [List.flatMap_cons, List.append_assoc, decodeFrom_encodeChar, ih]; rfl

/-! ## Line feeds -/

/-- The bytes of a character beyond ASCII are not ASCII. -/
lemma le_toNat_of_mem_encodeChar {c : Char} (hc : 0x80 ≤ c.toNat) :
    ∀ b ∈ String.utf8EncodeChar c, 0x80 ≤ b.toNat := by
  have hhigh : ∀ n, 0x80 ≤ n → n < 256 → 0x80 ≤ (UInt8.ofNat n).toNat := fun n hle hlt => by
    rwa [toNat_ofNat_of_lt hlt]
  have hval : c.val.toNat = c.toNat := rfl
  simp only [String.utf8EncodeChar, hval, if_neg (by omega : ¬ c.toNat ≤ 127)]
  split
  · simp only [List.forall_mem_cons]
    exact ⟨hhigh _ (by omega) (by omega), hhigh _ (by omega) (by omega), nofun⟩
  · split
    · simp only [List.forall_mem_cons]
      exact ⟨hhigh _ (by omega) (by omega), hhigh _ (by omega) (by omega),
        hhigh _ (by omega) (by omega), nofun⟩
    · simp only [List.forall_mem_cons]
      exact ⟨hhigh _ (by omega) (by omega), hhigh _ (by omega) (by omega),
        hhigh _ (by omega) (by omega), hhigh _ (by omega) (by omega), nofun⟩

/-- Only the line feed has the byte of a line feed. -/
lemma eq_newline_of_mem_encodeChar {c : Char} (h : newline ∈ String.utf8EncodeChar c) :
    c = '\n' := by
  by_cases hc : 0x80 ≤ c.toNat
  · exact absurd (le_toNat_of_mem_encodeChar hc newline h) (by decide)
  · have hval : c.val.toNat = c.toNat := rfl
    simp only [String.utf8EncodeChar, hval, if_pos (by omega : c.toNat ≤ 127)] at h
    have hnum := congrArg UInt8.toNat (List.mem_singleton.mp h)
    rw [toNat_ofNat_of_lt (by omega)] at hnum
    rw [← Char.ofNat_toNat c, ← hnum]
    rfl

lemma newline_not_mem_encode {text : String} (h : '\n' ∉ text.toList) :
    newline ∉ encode text := by
  rw [encode_eq_flatMap, List.mem_flatMap]
  rintro ⟨c, hc, hmem⟩
  obtain rfl := eq_newline_of_mem_encodeChar hmem
  exact h hc

end PipelineProfile.Text.Utf8
