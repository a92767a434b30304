import PipelineProfile.Proofs.Line.Deletion
import PipelineProfile.Stall.Probe

/-!
# Pairs and broken pairs

The value of a handshake is a pair if it has at least two slots and a number in each of its slots
(`IsPair`).  For the category of a stall line nothing else counts.  A value that is no pair, because
it is cut off or garbled, is as good as absent, and of a pair it only matters whether the first
number and the second are zero (`reads_pairs`).  Both are said of the text of the line: the words
with the key of the handshake may be deleted if the last of them gives no pair, and they may be
written anew, moved or repeated as long as the last of them gives a pair with the same zeros.

The probe of a line reads handshakes with more tolerance, and takes a missing number for a zero.
Unless there is a value that is no pair, the two ways of reading give the same handshake
(`group?_eq_handshake?`).
-/

namespace PipelineProfile

open Facts Text

/-! ## Pairs -/

/-- The texts between the slashes of a value. -/
def slotTexts (value : String) : List (List Char) := value.toList.splitOn '/'

/-- At least two slots, and a number in each of them. -/
def IsPair (value : String) : Prop :=
  2 ≤ (slotTexts value).length ∧ ∀ slot ∈ slotTexts value, (Numeral.read? slot).isSome = true

instance (value : String) : Decidable (IsPair value) := inferInstanceAs (Decidable (_ ∧ _))

/-- Whether the number in a slot of a value is zero. -/
def isZeroAt (value : String) (i : Nat) : Bool :=
  ((slotTexts value)[i]?).bind Numeral.read? = some 0

/-- The values have the same zeros in their first two slots. -/
def SameZeros (v w : String) : Prop := isZeroAt v 0 = isZeroAt w 0 ∧ isZeroAt v 1 = isZeroAt w 1

instance (v w : String) : Decidable (SameZeros v w) := inferInstanceAs (Decidable (_ ∧ _))

/-- The handshake that a pair gives. -/
def handshakeOf (value : String) : Handshake := ⟨!isZeroAt value 0, !isZeroAt value 1⟩

/-- The slots are read if all of them are numbers. -/
lemma mapM_read? (slots : List (List Char)) :
    slots.mapM Numeral.read? =
      if ∀ slot ∈ slots, (Numeral.read? slot).isSome = true then some (slots.map Numeral.value)
      else none := by
  induction slots with
  | nil => rfl
  | cons slot slots ih =>
    rw [List.mapM_cons, ih]
    cases hread : Numeral.read? slot with
    | none => simp [hread]
    | some n =>
      by_cases hall : ∀ slot ∈ slots, (Numeral.read? slot).isSome = true
      · rw [if_pos hall, if_pos (List.forall_mem_cons.mpr ⟨by rw [hread]; rfl, hall⟩),
          List.map_cons, Numeral.value, hread]
        rfl
      · rw [if_neg hall, if_neg fun h => hall (List.forall_mem_cons.mp h).2]
        rfl

section Reading

variable {f : Facts} {key value : String}

lemma bit_slots {i : Nat} (h : IsPair value) (hi : i < 2) :
    Slots.bit ⟨(slotTexts value).map Numeral.value⟩ i = !isZeroAt value i := by
  have hlt : i < (slotTexts value).length := Nat.lt_of_lt_of_le hi h.1
  obtain ⟨n, hn⟩ := Option.isSome_iff_exists.mp (h.2 _ (List.getElem_mem hlt))
  simp [Slots.bit, Slots.get, isZeroAt, List.getElem?_eq_getElem hlt, Numeral.value, hn]

lemma completeSlots?_of_isPair (hget : f.get? key = some value) (h : IsPair value) :
    f.completeSlots? key 2 = some ⟨(slotTexts value).map Numeral.value⟩ := by
  have htwo : 2 ≤ ((slotTexts value).map Numeral.value).length := by
    rw [List.length_map]
    exact h.1
  rw [completeSlots?, hget, Option.bind_some, ← slotTexts, mapM_read?, if_pos h.2, Option.bind_some,
    if_pos htwo]

/-- A pair gives its handshake. -/
lemma handshake?_of_isPair (hget : f.get? key = some value) (h : IsPair value) :
    StallSignals.handshake? f key = some (handshakeOf value) := by
  rw [StallSignals.handshake?, completeSlots?_of_isPair hget h, Option.map_some, Handshake.ofSlots,
    bit_slots h (by decide), bit_slots h (by decide), handshakeOf]

/-- What is no pair gives no handshake. -/
lemma handshake?_eq_none (h : ∀ value ∈ f.get? key, ¬ IsPair value) :
    StallSignals.handshake? f key = none := by
  rw [StallSignals.handshake?, Option.map_eq_none_iff, completeSlots?]
  cases hget : f.get? key with
  | none => rfl
  | some value =>
    have hnot : ¬ IsPair value := h value hget
    rw [Option.bind_some, ← slotTexts, mapM_read?]
    by_cases hall : ∀ slot ∈ slotTexts value, (Numeral.read? slot).isSome = true
    · rw [if_pos hall, Option.bind_some, List.length_map, if_neg fun htwo => hnot ⟨htwo, hall⟩]
    · rw [if_neg hall]
      rfl

/-- The tolerant way of reading gives the same handshake, unless a value is no pair. -/
lemma group?_eq_handshake? (h : ∀ value ∈ f.get? key, IsPair value) :
    StallProbe.group? f key Handshake.ofSlots = StallSignals.handshake? f key := by
  cases hget : f.get? key with
  | none =>
    rw [StallSignals.handshake?, completeSlots?, StallProbe.group?, slots?, hget]
    rfl
  | some value =>
    rw [StallSignals.handshake?, completeSlots?_of_isPair hget (h value hget), StallProbe.group?,
      slots?, hget]
    rfl

end Reading

/-! ## What the categories read of a pair -/

namespace StallSignals

/-- The keys of the handshakes that decide the category of a stall line. -/
def handshakeKeys : List String := ["dec(v/r)", "ic_miss(v/r)", "dc_miss(v/r)", "lsu_issue(v/r)"]

/-- The signals look at nothing but the handshake under a key and the values of the other keys. -/
lemma ofFacts_congr {f g : Facts} {key : String} (hkey : key ∈ handshakeKeys)
    (hsame : handshake? f key = handshake? g key)
    (hothers : ∀ other ≠ key, f.get? other = g.get? other) : ofFacts f = ofFacts g := by
  have hhandshake : ∀ k, handshake? f k = handshake? g k := by
    intro k
    by_cases hk : k = key
    · rw [hk, hsame]
    · rw [handshake?, completeSlots?, hothers k hk, handshake?, completeSlots?]
  have hflag : ∀ k ∉ handshakeKeys, f.flag? k = g.flag? k := by
    intro k hk
    have hne : k ≠ key := fun heq => hk (heq ▸ hkey)
    rw [flag?, num?, hothers k hne, flag?, num?]
  rw [ofFacts, ofFacts, hflag "flush" (by decide), hflag "rob_ready" (by decide),
    hhandshake, hhandshake, hhandshake, hhandshake]

/-- Two texts have the same signals and the same category. -/
def Agree (s t : List Char) : Prop :=
  ofFacts (read s) = ofFacts (read t) ∧
    StallCategory.ofSignals (ofFacts (read s)) = StallCategory.ofSignals (ofFacts (read t))

lemma agree_of_ofFacts_eq {s t : List Char} (h : ofFacts (read s) = ofFacts (read t)) :
    Agree s t := ⟨h, by rw [h]⟩

/-- What it means that of a handshake only pairs count, and of a pair only its zeros. -/
structure ReadsPairs (key : String) : Prop where
  /-- If the value that counts is no pair, then the words with the key may as well be deleted. -/
  broken : ∀ s t : List Char, (∀ value ∈ (read s).get? key, ¬ IsPair value) →
    words t = wordsBut key s → Agree s t
  /-- They can be deleted from every text. -/
  deletable : ∀ s : List Char, words (without key s) = wordsBut key s
  /-- If the values that count are pairs with the same zeros, then it makes no difference which
  words with the key there are. -/
  whole : ∀ s t : List Char, ∀ v ∈ (read s).get? key, ∀ w ∈ (read t).get? key,
    IsPair v → IsPair w → SameZeros v w → wordsBut key s = wordsBut key t → Agree s t

/-- **A broken pair is as good as absent.**  For each of the four handshakes the signals and the
category of a stall line are those of the line without the words of the handshake, unless the last
of these words gives a pair.  If it does, nothing but the zeros of the pair matters. -/
theorem reads_pairs {key : String} (hkey : key ∈ handshakeKeys) : ReadsPairs key := by
  constructor
  case broken =>
    intro s t hbroken hdeleted
    obtain ⟨hgone, hothers⟩ := get?_of_words_eq hdeleted
    have habsent : handshake? (read t) key = none := by
      apply handshake?_eq_none
      rw [hgone]
      intro value hvalue
      cases hvalue
    apply agree_of_ofFacts_eq
    exact ofFacts_congr hkey ((handshake?_eq_none hbroken).trans habsent.symm)
      fun other hne => (hothers other hne).symm
  case deletable => exact words_without key
  case whole =>
    intro s t v hv w hw hpairv hpairw hzeros hrest
    have hsame : handshakeOf v = handshakeOf w := by
      rw [handshakeOf, hzeros.1, hzeros.2, handshakeOf]
    apply agree_of_ofFacts_eq
    apply ofFacts_congr hkey
    · rw [handshake?_of_isPair hv hpairv, handshake?_of_isPair hw hpairw, hsame]
    · exact fun other hne => get?_eq_of_wordsBut_eq hrest hne

/-! ### Two handshakes of the decoder -/

/-- A line that gives the handshake of the decoder twice, the second time cut off. -/
def tornRegion : List Char := " cycle=4 dec(v/r)=0/1 rob_ready=1 dec(v/r)=1/".toList

/-- The line without the handshake. -/
def bareRegion : List Char := " cycle=4  rob_ready=1".toList

/-- A line with a blocked decoder. -/
def blockedRegion : List Char := " dec(v/r)=1/0 cycle=4".toList

/-- The line in another spelling, with a third slot and an earlier handshake. -/
def respelledRegion : List Char := "dec(v/r)=0/1 cycle=4 dec(v/r)=0xFf/00/7".toList

/-- The handshake that is cut off may be left out, and the whole one may be spelled differently. -/
theorem agree_tornRegion :
    "dec(v/r)" ∈ handshakeKeys ∧
      (read tornRegion).get? "dec(v/r)" = some "1/" ∧ ¬ IsPair "1/" ∧
      words bareRegion = wordsBut "dec(v/r)" tornRegion ∧ Agree tornRegion bareRegion ∧
      IsPair "1/0" ∧ IsPair "0xFf/00/7" ∧ SameZeros "1/0" "0xFf/00/7" ∧
      Agree blockedRegion respelledRegion := by
  have hkey : "dec(v/r)" ∈ handshakeKeys := by decide
  have htorn : (read tornRegion).get? "dec(v/r)" = some "1/" ∧ ¬ IsPair "1/" ∧
      words bareRegion = wordsBut "dec(v/r)" tornRegion := by decide +kernel
  have hwhole : (read blockedRegion).get? "dec(v/r)" = some "1/0" ∧
      (read respelledRegion).get? "dec(v/r)" = some "0xFf/00/7" ∧
      wordsBut "dec(v/r)" blockedRegion = wordsBut "dec(v/r)" respelledRegion := by decide +kernel
  have hpairs : IsPair "1/0" ∧ IsPair "0xFf/00/7" ∧ SameZeros "1/0" "0xFf/00/7" := by
    decide +kernel
  obtain ⟨hlast, hnot, hdeleted⟩ := htorn
  obtain ⟨hblocked, hrespelled, hrest⟩ := hwhole
  obtain ⟨hpair, hpair', hzeros⟩ := hpairs
  have hbroken : ∀ value ∈ (read tornRegion).get? "dec(v/r)", ¬ IsPair value := by
    rw [hlast]
    rintro value ⟨⟩
    exact hnot
  exact ⟨hkey, hlast, hnot, hdeleted, (reads_pairs hkey).broken _ _ hbroken hdeleted, hpair, hpair',
    hzeros, (reads_pairs hkey).whole _ _ _ hblocked _ hrespelled hpair hpair' hzeros hrest⟩

end StallSignals

end PipelineProfile
