import Mathlib.Data.List.Induction
import PipelineProfile.Proofs.Text.Encoding

/-!
# What damaged bytes are read as

`ReadsAs` says what text bytes stand for, by the encodings of characters alone.  At the front of the
bytes there is the whole encoding of a character, or the longest piece that begins such an encoding
without completing it, or a byte that begins none.  The first stands for the character and the
others for a replacement character, and the bytes that follow are read in the same way.

The decoder reads no encodings, but one byte at a time with bounds for the next one.  What connects
the two is `Expect.Pending`: a state of the decoder stands for the bytes that it has taken since the
last character, and its bounds admit just the bytes by which these become an encoding.
`stepLead_cases` and `Expect.Pending.step_cases` say what one more byte can do.

The main result is `readsAs_iff`: bytes have exactly one text, which is the one that is decoded.
-/

namespace PipelineProfile.Text.Utf8

/-! ## The text of bytes -/

/-- The bytes are the first ones of a character, or all of them. -/
def Begins (part : List UInt8) : Prop := ∃ c, part <+: String.utf8EncodeChar c

/-- The bytes are some of a character's first bytes, and others are missing. -/
def IsUnfinished (part : List UInt8) : Prop :=
  part ≠ [] ∧ ∃ c rest, rest ≠ [] ∧ String.utf8EncodeChar c = part ++ rest

/-- The bytes are read as the text. -/
inductive ReadsAs : List UInt8 → List Char → Prop where
  | nil : ReadsAs [] []
  /-- The bytes of a character. -/
  | char (c : Char) {bytes : List UInt8} {text : List Char} (h : ReadsAs bytes text) :
    ReadsAs (String.utf8EncodeChar c ++ bytes) (c :: text)
  /-- An unfinished character, with the bytes that may belong to it: with the next one they begin no
  character. -/
  | cut {part bytes : List UInt8} {text : List Char} (hpart : IsUnfinished part)
    (hmax : ∀ b ∈ bytes.head?, ¬ Begins (part ++ [b])) (h : ReadsAs bytes text) :
    ReadsAs (part ++ bytes) (replacement :: text)
  /-- A byte that begins no character. -/
  | stray {b : UInt8} {bytes : List UInt8} {text : List Char} (hb : ¬ Begins [b])
    (h : ReadsAs bytes text) : ReadsAs (b :: bytes) (replacement :: text)

lemma begins_of_encodeChar_eq {c : Char} {part : List UInt8}
    (h : String.utf8EncodeChar c = part) : Begins part :=
  ⟨c, h ▸ List.prefix_rfl⟩

/-! ## The bytes of a character -/

section Sequences

variable {a b c d : UInt8}

lemma toNat_val_ofNat {n : Nat} (h : n < 0xD800 ∨ 0xDFFF < n ∧ n < 0x110000) :
    (Char.ofNat n).val.toNat = n := by
  have hvalid : n.isValidChar := h
  rw [Char.ofNat, dif_pos hvalid]
  rfl

lemma ofNat_eq_of_toNat {n : Nat} (h : n = a.toNat) : UInt8.ofNat n = a := by
  rw [h, UInt8.ofNat_toNat]

lemma encodeChar_one (ha : a.toNat < 0x80) :
    String.utf8EncodeChar (Char.ofNat a.toNat) = [a] := by
  rw [String.utf8EncodeChar, toNat_val_ofNat (by omega), if_pos (by omega), UInt8.ofNat_toNat]

lemma encodeChar_two (ha : 0xC2 ≤ a.toNat ∧ a.toNat < 0xE0)
    (hb : 0x80 ≤ b.toNat ∧ b.toNat ≤ 0xBF) :
    String.utf8EncodeChar (Char.ofNat ((a.toNat - 0xC0) * 64 + (b.toNat - 0x80))) = [a, b] := by
  rw [String.utf8EncodeChar, toNat_val_ofNat (by omega), if_neg (by omega), if_pos (by omega),
    ofNat_eq_of_toNat (by omega : _ = a.toNat), ofNat_eq_of_toNat (by omega : _ = b.toNat)]

lemma encodeChar_three (ha : 0xE0 ≤ a.toNat ∧ a.toNat < 0xF0)
    (hb : 0x80 ≤ b.toNat ∧ b.toNat ≤ 0xBF) (hc : 0x80 ≤ c.toNat ∧ c.toNat ≤ 0xBF)
    (hlow : a.toNat = 0xE0 → 0xA0 ≤ b.toNat) (hhigh : a.toNat = 0xED → b.toNat ≤ 0x9F) :
    String.utf8EncodeChar
      (Char.ofNat (((a.toNat - 0xE0) * 64 + (b.toNat - 0x80)) * 64 + (c.toNat - 0x80))) =
        [a, b, c] := by
  rw [String.utf8EncodeChar, toNat_val_ofNat (by omega), if_neg (by omega), if_neg (by omega),
    if_pos (by omega), ofNat_eq_of_toNat (by omega : _ = a.toNat),
    ofNat_eq_of_toNat (by omega : _ = b.toNat), ofNat_eq_of_toNat (by omega : _ = c.toNat)]

lemma encodeChar_four (ha : 0xF0 ≤ a.toNat ∧ a.toNat ≤ 0xF4)
    (hb : 0x80 ≤ b.toNat ∧ b.toNat ≤ 0xBF) (hc : 0x80 ≤ c.toNat ∧ c.toNat ≤ 0xBF)
    (hd : 0x80 ≤ d.toNat ∧ d.toNat ≤ 0xBF)
    (hlow : a.toNat = 0xF0 → 0x90 ≤ b.toNat) (hhigh : a.toNat = 0xF4 → b.toNat ≤ 0x8F) :
    String.utf8EncodeChar
      (Char.ofNat ((((a.toNat - 0xF0) * 64 + (b.toNat - 0x80)) * 64 + (c.toNat - 0x80)) * 64 +
        (d.toNat - 0x80))) = [a, b, c, d] := by
  rw [String.utf8EncodeChar, toNat_val_ofNat (by omega), if_neg (by omega), if_neg (by omega),
    if_neg (by omega), ofNat_eq_of_toNat (by omega : _ = a.toNat),
    ofNat_eq_of_toNat (by omega : _ = b.toNat), ofNat_eq_of_toNat (by omega : _ = c.toNat),
    ofNat_eq_of_toNat (by omega : _ = d.toNat)]

end Sequences

lemma decode_encodeChar_append (c : Char) (bytes : List UInt8) :
    decode (String.utf8EncodeChar c ++ bytes) = c :: decode bytes :=
  decodeFrom_encodeChar c bytes

lemma decode_encodeChar (c : Char) : decode (String.utf8EncodeChar c) = [c] := by
  have h := decode_encodeChar_append c []
  rwa [List.append_nil] at h

/-! ## Every byte is settled -/

lemma step_ne_nil_lead (e : Expect) (b : UInt8) : step e b ≠ ([], .lead) := by
  have hlead : stepLead b ≠ ([], .lead) := by
    unfold stepLead
    dsimp only
    repeat' split
    all_goals simp
  cases e with
  | lead => exact hlead
  | continuation low high more code =>
    rw [step]
    dsimp only
    split
    · cases more <;> simp
    · simp

lemma eq_lead_of_decodeFrom_eq_nil {e : Expect} {bytes : List UInt8}
    (h : decodeFrom e bytes = []) : e = .lead ∧ bytes = [] := by
  induction bytes generalizing e with
  | nil =>
    cases e with
    | lead => exact ⟨rfl, rfl⟩
    | continuation low high more code => cases h
  | cons b bytes ih =>
    obtain ⟨hnil, hrest⟩ := List.append_eq_nil_iff.mp h
    exact absurd (Prod.ext hnil (ih hrest).1) (step_ne_nil_lead e b)

/-- Bytes are never read as nothing. -/
lemma decode_eq_nil_iff {bytes : List UInt8} : decode bytes = [] ↔ bytes = [] := by
  constructor
  · intro h
    exact (eq_lead_of_decodeFrom_eq_nil h).2
  · rintro rfl
    rfl

/-- The bytes of a character do not begin with those of another one. -/
lemma eq_nil_of_encodeChar_eq_append {c c' : Char} {rest : List UInt8}
    (h : String.utf8EncodeChar c = String.utf8EncodeChar c' ++ rest) : rest = [] := by
  have hdecode := decode_encodeChar c
  rw [h, decode_encodeChar_append] at hdecode
  exact decode_eq_nil_iff.mp (List.cons.inj hdecode).2

/-! ## The bytes that a state waits for -/

/-- The state takes the bytes for the rest of the character. -/
inductive Expect.Completes : Expect → List UInt8 → Char → Prop where
  | last {low high code : Nat} {b : UInt8} (hb : low ≤ b.toNat ∧ b.toNat ≤ high) :
    Completes (.continuation low high 0 code) [b] (Char.ofNat (code * 64 + (b.toNat - 0x80)))
  | more {low high more code : Nat} {b : UInt8} {rest : List UInt8} {c : Char}
    (hb : low ≤ b.toNat ∧ b.toNat ≤ high)
    (h : Completes (.continuation 0x80 0xBF more (code * 64 + (b.toNat - 0x80))) rest c) :
    Completes (.continuation low high (more + 1) code) (b :: rest) c

/-- The state is the one in which the decoder has taken the bytes without settling a character. -/
structure Expect.Pending (part : List UInt8) (e : Expect) : Prop where
  decode_append : ∀ rest, decode (part ++ rest) = decodeFrom e rest
  encodeChar_eq : ∀ rest c, e.Completes rest c → String.utf8EncodeChar c = part ++ rest
  exists_completes : ∃ rest c, e.Completes rest c

section Pending

variable {a : UInt8} {low high more code : Nat} {rest part : List UInt8} {c : Char}

lemma Expect.Completes.ne_nil {e : Expect} (h : e.Completes rest c) : rest ≠ [] := by
  cases h <;> exact List.cons_ne_nil _ _

/-- Bounds that admit a byte can be met to the end of the character. -/
lemma Expect.exists_completes (h : low ≤ high ∧ high < 256) :
    ∃ rest c, (continuation low high more code).Completes rest c := by
  have hb : ∀ {low high : Nat}, low ≤ high ∧ high < 256 →
      low ≤ (UInt8.ofNat low).toNat ∧ (UInt8.ofNat low).toNat ≤ high := fun hle => by
    rw [toNat_ofNat_of_lt (by omega)]
    exact ⟨Nat.le_refl _, hle.1⟩
  induction more generalizing low high code with
  | zero => exact ⟨_, _, .last (hb h)⟩
  | succ more ih =>
    have hrest : ∃ rest c, (continuation 0x80 0xBF more
        (code * 64 + ((UInt8.ofNat low).toNat - 0x80))).Completes rest c := ih (by decide)
    obtain ⟨rest, c, hrest⟩ := hrest
    exact ⟨_, c, .more (hb h) hrest⟩

lemma encodeChar_of_completes_two (ha : 0xC2 ≤ a.toNat ∧ a.toNat < 0xE0)
    (h : (Expect.continuation 0x80 0xBF 0 (a.toNat - 0xC0)).Completes rest c) :
    String.utf8EncodeChar c = a :: rest := by
  cases h with
  | last hb => exact encodeChar_two ha hb

lemma encodeChar_of_completes_three (ha : 0xE0 ≤ a.toNat ∧ a.toNat < 0xF0)
    (hbounds : 0x80 ≤ low ∧ high ≤ 0xBF) (hlow : a.toNat = 0xE0 → 0xA0 ≤ low)
    (hhigh : a.toNat = 0xED → high ≤ 0x9F) (hcode : code = a.toNat - 0xE0)
    (h : (Expect.continuation low high 1 code).Completes rest c) :
    String.utf8EncodeChar c = a :: rest := by
  cases h with
  | more hb h =>
    cases h with
    | last hc =>
      rw [hcode]
      exact encodeChar_three ha (by omega) hc (by omega) (by omega)

lemma encodeChar_of_completes_four (ha : 0xF0 ≤ a.toNat ∧ a.toNat ≤ 0xF4)
    (hbounds : 0x80 ≤ low ∧ high ≤ 0xBF) (hlow : a.toNat = 0xF0 → 0x90 ≤ low)
    (hhigh : a.toNat = 0xF4 → high ≤ 0x8F) (hcode : code = a.toNat - 0xF0)
    (h : (Expect.continuation low high 2 code).Completes rest c) :
    String.utf8EncodeChar c = a :: rest := by
  cases h with
  | more hb h =>
    cases h with
    | more hc h =>
      cases h with
      | last hd =>
        rw [hcode]
        exact encodeChar_four ha (by omega) hc hd (by omega) (by omega)

namespace Expect.Pending

lemma of_stepLead {e : Expect} (hstep : stepLead a = ([], e))
    (hchar : ∀ rest c, e.Completes rest c → String.utf8EncodeChar c = a :: rest)
    (hex : ∃ rest c, e.Completes rest c) : Pending [a] e where
  decode_append rest := by
    rw [List.singleton_append, decode, decodeFrom, step, hstep]
    rfl
  encodeChar_eq := hchar
  exists_completes := hex

lemma isUnfinished (h : Pending part (.continuation low high more code)) :
    IsUnfinished part := by
  obtain ⟨rest, c, hc⟩ := h.exists_completes
  refine ⟨?_, c, rest, hc.ne_nil, h.encodeChar_eq rest c hc⟩
  rintro rfl
  -- The decoder would have to make a character of no bytes.
  have hdecode := h.decode_append []
  cases hdecode

lemma begins (h : Pending part (.continuation low high more code)) : Begins part := by
  obtain ⟨-, c, rest, -, hc⟩ := h.isUnfinished
  exact ⟨c, rest, hc.symm⟩

end Expect.Pending

end Pending

/-! ## One more byte -/

/-- A first byte that the decoder replaces begins no character. -/
lemma not_begins_of_stepLead {b : UInt8} (h : stepLead b = ([replacement], .lead)) :
    ¬ Begins [b] := by
  rintro ⟨c, rest, hc⟩
  have hdecode := decode_encodeChar c
  rw [← hc, List.singleton_append, decode, decodeFrom, step, h] at hdecode
  obtain ⟨rfl, hrest⟩ := List.cons.inj hdecode
  -- Nothing follows the byte, but the replacement character itself has three bytes.
  obtain rfl := decode_eq_nil_iff.mp hrest
  have hlength := congrArg List.length hc
  revert hlength
  exact (by decide : (1 : Nat) ≠ (String.utf8EncodeChar replacement).length)

/-- What a first byte can do. -/
lemma stepLead_cases (b : UInt8) :
    (∃ c, stepLead b = ([c], .lead) ∧ String.utf8EncodeChar c = [b]) ∨
    (∃ low high more code, stepLead b = ([], .continuation low high more code) ∧
      (Expect.continuation low high more code).Pending [b]) ∨
    (stepLead b = ([replacement], .lead) ∧ ¬ Begins [b]) := by
  -- With bytes to follow, it is left to show that the bounds can be met and that all bytes within
  -- them spell a character.
  have hpending : ∀ {low high more code : Nat},
      stepLead b = ([], .continuation low high more code) → low ≤ high ∧ high < 256 →
      (∀ rest c, (Expect.continuation low high more code).Completes rest c →
        String.utf8EncodeChar c = b :: rest) →
      ∃ low high more code, stepLead b = ([], .continuation low high more code) ∧
        (Expect.continuation low high more code).Pending [b] := fun hstep hle hchar =>
    ⟨_, _, _, _, hstep, .of_stepLead hstep hchar (Expect.exists_completes hle)⟩
  obtain ⟨r, hstep⟩ : ∃ r, stepLead b = r := ⟨_, rfl⟩
  have hr := hstep
  unfold stepLead at hr
  dsimp only at hr
  split at hr
  · exact .inl ⟨_, hstep.trans hr.symm, encodeChar_one (by omega)⟩
  split at hr
  · have hreplaced := hstep.trans hr.symm
    exact .inr (.inr ⟨hreplaced, not_begins_of_stepLead hreplaced⟩)
  split at hr
  · exact .inr (.inl (hpending (hstep.trans hr.symm) (by decide) fun rest c =>
      encodeChar_of_completes_two (by omega)))
  split at hr
  · exact .inr (.inl (hpending (hstep.trans hr.symm) (by decide) fun rest c =>
      encodeChar_of_completes_three (by omega) (by omega) (by omega) (by omega) (by omega)))
  split at hr
  · exact .inr (.inl (hpending (hstep.trans hr.symm) (by decide) fun rest c =>
      encodeChar_of_completes_three (by omega) (by omega) (by omega) (by omega) (by omega)))
  split at hr
  · exact .inr (.inl (hpending (hstep.trans hr.symm) (by decide) fun rest c =>
      encodeChar_of_completes_three (by omega) (by omega) (by omega) (by omega) (by omega)))
  split at hr
  · exact .inr (.inl (hpending (hstep.trans hr.symm) (by decide) fun rest c =>
      encodeChar_of_completes_four (by omega) (by omega) (by omega) (by omega) (by omega)))
  split at hr
  · exact .inr (.inl (hpending (hstep.trans hr.symm) (by decide) fun rest c =>
      encodeChar_of_completes_four (by omega) (by omega) (by omega) (by omega) (by omega)))
  split at hr
  · exact .inr (.inl (hpending (hstep.trans hr.symm) (by decide) fun rest c =>
      encodeChar_of_completes_four (by omega) (by omega) (by omega) (by omega) (by omega)))
  · have hreplaced := hstep.trans hr.symm
    exact .inr (.inr ⟨hreplaced, not_begins_of_stepLead hreplaced⟩)

namespace Expect.Pending

variable {part : List UInt8} {low high more code : Nat}

/-- A byte outside the bounds does not continue the character. -/
lemma not_begins (h : Pending part (.continuation low high more code)) {b : UInt8}
    (hb : ¬ (low ≤ b.toNat ∧ b.toNat ≤ high)) : ¬ Begins (part ++ [b]) := by
  rintro ⟨c, rest, hc⟩
  have hdecode := decode_encodeChar c
  rw [← hc, List.append_assoc, h.decode_append, List.singleton_append, decodeFrom, step,
    if_neg hb, List.cons_append] at hdecode
  -- The character would be the replacement, and nothing would be read behind it.
  have hnil : decode (b :: rest) = [] := (List.cons.inj hdecode).2
  exact List.cons_ne_nil b rest (decode_eq_nil_iff.mp hnil)

/-- What a byte behind the first one can do. -/
lemma step_cases (h : Pending part (.continuation low high more code)) (b : UInt8) :
    (∃ c, step (.continuation low high more code) b = ([c], .lead) ∧
      String.utf8EncodeChar c = part ++ [b]) ∨
    (∃ low' high' more' code',
      step (.continuation low high more code) b = ([], .continuation low' high' more' code') ∧
      Pending (part ++ [b]) (.continuation low' high' more' code')) ∨
    (step (.continuation low high more code) b =
      (replacement :: (stepLead b).1, (stepLead b).2) ∧ ¬ Begins (part ++ [b])) := by
  by_cases hb : low ≤ b.toNat ∧ b.toNat ≤ high
  · cases more with
    | zero => exact .inl ⟨_, if_pos hb, h.encodeChar_eq [b] _ (.last hb)⟩
    | succ more =>
      have hstep : step (.continuation low high (more + 1) code) b =
          ([], .continuation 0x80 0xBF more (code * 64 + (b.toNat - 0x80))) := if_pos hb
      refine .inr (.inl ⟨_, _, _, _, hstep, fun rest => ?_, fun rest c hc => ?_, ?_⟩)
      · rw [List.append_assoc, h.decode_append, List.singleton_append, decodeFrom, hstep]
        rfl
      · rw [List.append_assoc]
        exact h.encodeChar_eq (b :: rest) c (.more hb hc)
      · exact Expect.exists_completes (by decide)
  · exact .inr (.inr ⟨if_neg hb, h.not_begins hb⟩)

end Expect.Pending

/-! ## Reading and decoding -/

lemma readsAs_decodeFrom (bytes : List UInt8) :
    ReadsAs bytes (decode bytes) ∧ ∀ part low high more code,
      (Expect.continuation low high more code).Pending part →
        ReadsAs (part ++ bytes) (decodeFrom (.continuation low high more code) bytes) := by
  induction bytes with
  | nil =>
    refine ⟨.nil, fun part low high more code hpart => ?_⟩
    exact .cut hpart.isUnfinished nofun .nil
  | cons b bytes ih =>
    obtain ⟨ihlead, ihpart⟩ := ih
    have hlead : ReadsAs (b :: bytes) (decode (b :: bytes)) := by
      rw [decode, decodeFrom, step]
      obtain ⟨c, hstep, hc⟩ | ⟨low, high, more, code, hstep, hb⟩ | ⟨hstep, hno⟩ :=
        stepLead_cases b <;> rw [hstep]
      · have hchar := ReadsAs.char c ihlead
        rwa [hc] at hchar
      · exact ihpart [b] low high more code hb
      · exact .stray hno ihlead
    refine ⟨hlead, fun part low high more code hpart => ?_⟩
    rw [decodeFrom]
    obtain ⟨c, hstep, hc⟩ | ⟨low, high, more, code, hstep, hb⟩ | ⟨hstep, hno⟩ :=
      hpart.step_cases b <;> rw [hstep]
    · have hchar := ReadsAs.char c ihlead
      rwa [hc, List.append_assoc] at hchar
    · have hread := ihpart (part ++ [b]) low high more code hb
      rwa [List.append_assoc] at hread
    · -- The byte is read once more, as a first one.
      refine .cut hpart.isUnfinished (fun b' hb' => ?_) hlead
      obtain rfl := Option.some.inj hb'
      exact hno

/-- An unfinished character leaves the decoder waiting for the missing bytes. -/
lemma IsUnfinished.exists_pending {part : List UInt8} (h : IsUnfinished part) :
    ∃ low high more code, (Expect.continuation low high more code).Pending part := by
  obtain ⟨hne, c, rest, hrest, hc⟩ := h
  induction part using List.reverseRecOn generalizing rest with
  | nil => exact absurd rfl hne
  | append_singleton part b ih =>
    have hbegins : Begins (part ++ [b]) := ⟨c, rest, hc.symm⟩
    have hwhole : ∀ c', String.utf8EncodeChar c' ≠ part ++ [b] := fun c' h =>
      hrest (eq_nil_of_encodeChar_eq_append (h ▸ hc))
    by_cases hnil : part = []
    · subst hnil
      obtain ⟨c', -, hc'⟩ | ⟨low, high, more, code, -, hb⟩ | ⟨-, hno⟩ := stepLead_cases b
      · exact absurd hc' (hwhole c')
      · exact ⟨low, high, more, code, hb⟩
      · exact absurd hbegins hno
    · have hc' : String.utf8EncodeChar c = part ++ b :: rest := by
        rw [hc, List.append_assoc]
        rfl
      obtain ⟨low, high, more, code, hpart⟩ := ih hnil (b :: rest) (List.cons_ne_nil b rest) hc'
      obtain ⟨c', -, hc'⟩ | ⟨low, high, more, code, -, hb⟩ | ⟨-, hno⟩ := hpart.step_cases b
      · exact absurd hc' (hwhole c')
      · exact ⟨low, high, more, code, hb⟩
      · exact absurd hbegins hno

lemma IsUnfinished.decode_append {part bytes : List UInt8} (h : IsUnfinished part)
    (hmax : ∀ b ∈ bytes.head?, ¬ Begins (part ++ [b])) :
    decode (part ++ bytes) = replacement :: decode bytes := by
  obtain ⟨low, high, more, code, hpart⟩ := h.exists_pending
  rw [hpart.decode_append]
  cases bytes with
  | nil => rfl
  | cons b bytes =>
    have hno := hmax b rfl
    obtain ⟨c, -, hc⟩ | ⟨low, high, more, code, -, hb⟩ | ⟨hstep, -⟩ := hpart.step_cases b
    · exact absurd (begins_of_encodeChar_eq hc) hno
    · exact absurd hb.begins hno
    · rw [decodeFrom, hstep]
      rfl

lemma decode_cons_of_not_begins {b : UInt8} (hb : ¬ Begins [b]) (bytes : List UInt8) :
    decode (b :: bytes) = replacement :: decode bytes := by
  obtain ⟨c, -, hc⟩ | ⟨low, high, more, code, -, hpart⟩ | ⟨hstep, -⟩ := stepLead_cases b
  · exact absurd (begins_of_encodeChar_eq hc) hb
  · exact absurd hpart.begins hb
  · rw [decode, decodeFrom, step, hstep]
    rfl

/-- **Bytes have one text**, and the decoder gives it. -/
theorem readsAs_iff {bytes : List UInt8} {text : List Char} :
    ReadsAs bytes text ↔ text = decode bytes := by
  constructor
  · intro h
    induction h with
    | nil => rfl
    | char c h ih => rw [decode_encodeChar_append, ih]
    | cut hpart hmax h ih => rw [hpart.decode_append hmax, ih]
    | stray hb h ih => rw [decode_cons_of_not_begins hb, ih]
  · rintro rfl
    exact (readsAs_decodeFrom bytes).1

end PipelineProfile.Text.Utf8
