import PipelineProfile.Proofs.Flush.Damage
import PipelineProfile.Proofs.Text.Search

/-!
# Which flushes count as mispredicted branches

The rule for mispredicted branches looks for a good many fragments, in the words of one branch and
of one misprediction that are whole, damaged or cut off.  Most of them have others among their
characters.  What remains is short: a text is recognized if its letters have `ranch`, `bran` or
`brnch` in them, and have `misp` or `predict` in them or end with `mis`, and do not have `except`
(`looksBranch_iff`, `looksMispredicted_iff`, `FlushReason.IsRecognizable`).

The text around a word comes after all rules for the word itself.  So a word that is not in the
vocabulary means a mispredicted branch if it is recognized, or if none of the rules applies to it and
the text around it is recognized.  This is `readsMispredicts`, which also says that half of the words,
the branch without the misprediction or the misprediction without the branch, is never enough.
-/

namespace PipelineProfile

/-! ## Fragments -/

section Fragments

variable {s : List Char}

lemma mentions_iff {fragments : List String} :
    mentions fragments s = true ↔ ∃ f ∈ fragments, f.toList <:+: s := by
  simp only [mentions, List.any_eq_true, Text.occursIn_iff_isInfix]

/-- "branch" has two of the other fragments in it. -/
lemma looksBranch_iff : looksBranch s = true ↔
    "ranch".toList <:+: s ∨ "bran".toList <:+: s ∨ "brnch".toList <:+: s := by
  have hbranch : "ranch".toList <:+: "branch".toList := ⟨['b'], [], by decide⟩
  rw [looksBranch, mentions_iff]
  simp only [List.mem_cons, List.not_mem_nil, or_false, exists_eq_or_imp, exists_eq_left]
  constructor
  · rintro (h | h)
    · exact .inl (hbranch.trans h)
    · exact h
  · exact .inr

/-- All cut-off forms of "mispredict" but the shortest have "misp" in them. -/
lemma looksMispredicted_iff : looksMispredicted s = true ↔
    "misp".toList <:+: s ∨ "predict".toList <:+: s ∨ "mis".toList <:+ s := by
  have hwhole : "misp".toList <:+: "mispredict".toList := ⟨[], "redict".toList, by decide⟩
  have hpart : "misp".toList <:+: "mispr".toList := ⟨[], ['r'], by decide⟩
  have hfragments : mentions ["mispredict", "mispr", "misp", "predict"] s = true ↔
      "misp".toList <:+: s ∨ "predict".toList <:+: s := by
    rw [mentions_iff]
    simp only [List.mem_cons, List.not_mem_nil, or_false, exists_eq_or_imp, exists_eq_left]
    constructor
    · rintro (h | h | h)
      · exact .inl (hwhole.trans h)
      · exact .inl (hpart.trans h)
      · exact h
    · exact fun h => .inr (.inr h)
  rw [looksMispredicted, Bool.or_eq_true, hfragments, List.any_eq_true]
  simp only [List.mem_range, Bool.and_eq_true, decide_eq_true_eq, List.isSuffixOf_iff_suffix]
  constructor
  · rintro ((h | h) | ⟨n, -, hn, hsuffix⟩)
    · exact .inl h
    · exact .inr (.inl h)
    · rcases Nat.eq_or_lt_of_le hn with rfl | hn
      · exact .inr (.inr hsuffix)
      · have hmisp : mispredict.take 4 <+: mispredict.take n := List.take_prefix_take_left hn
        exact .inl (hmisp.isInfix.trans hsuffix.isInfix)
  · rintro (h | h | h)
    · exact .inl (.inl h)
    · exact .inl (.inr h)
    · exact .inr ⟨3, by decide, Nat.le_refl 3, h⟩

end Fragments

/-! ## The rules for reasons -/

namespace FlushReason

/-- The letters of a text have the fragment among them. -/
def Mentions (fragment text : String) : Prop := fragment.toList <:+: letters text.toList

/-- The text has a fragment of "branch". -/
def NamesBranch (text : String) : Prop :=
  Mentions "ranch" text ∨ Mentions "bran" text ∨ Mentions "brnch" text

/-- The text has a fragment of "mispredict", or ends with the beginning of it. -/
def NamesMispredict (text : String) : Prop :=
  Mentions "misp" text ∨ Mentions "predict" text ∨ "mis".toList <:+ letters text.toList

/-- The text is recognized as a mispredicted branch. -/
structure IsRecognizable (text : String) : Prop where
  noException : ¬ Mentions "except" text
  branch : NamesBranch text
  mispredict : NamesMispredict text

/-- None of the rules applies to the text. -/
structure IsUnknown (text : String) : Prop where
  noException : ¬ Mentions "except" text
  notRecognizable : ¬ IsRecognizable text
  noRobOther : ¬ (Mentions "rob" text ∧ Mentions "other" text)
  noExternal : ¬ Mentions "extern" text

variable {text : String}

lemma mentions_singleton_iff {fragment : String} :
    mentions [fragment] (letters text.toList) = true ↔ Mentions fragment text := by
  rw [mentions_iff]
  simp [Mentions]

/-- The first rule that applies decides. -/
lemma guess?_eq (s : List Char) : vocabulary.guess? s =
    if mentions ["except"] s then some exception
    else if looksMispredicted s && looksBranch s then some branchMispredict
    else if mentions ["rob"] s && mentions ["other"] s then some robOther
    else if mentions ["extern"] s then some external
    else none := by
  simp only [Vocabulary.guess?, vocabulary, List.find?_cons, List.find?_nil]
  cases mentions ["except"] s
  · cases looksMispredicted s && looksBranch s
    · cases mentions ["rob"] s && mentions ["other"] s
      · cases mentions ["extern"] s <;> rfl
      · rfl
    · rfl
  · rfl

lemma isRecognizable_iff : IsRecognizable text ↔ ¬ mentions ["except"] (letters text.toList) ∧
    (looksMispredicted (letters text.toList) && looksBranch (letters text.toList)) = true := by
  rw [mentions_singleton_iff, Bool.and_eq_true, looksMispredicted_iff, looksBranch_iff]
  constructor
  · rintro ⟨hexcept, hbranch, hmispredict⟩
    exact ⟨hexcept, hmispredict, hbranch⟩
  · rintro ⟨hexcept, hmispredict, hbranch⟩
    exact ⟨hexcept, hbranch, hmispredict⟩

/-- The rule for mispredicted branches is the first to apply to what is recognized. -/
lemma guess?_eq_branchMispredict_iff :
    vocabulary.guess? (letters text.toList) = some branchMispredict ↔ IsRecognizable text := by
  rw [guess?_eq, isRecognizable_iff]
  constructor
  · intro h
    split at h
    · cases h
    · next hexcept =>
      split at h
      · next hbranch => exact ⟨hexcept, hbranch⟩
      · split at h
        · cases h
        · split at h <;> cases h
  · rintro ⟨hexcept, hbranch⟩
    rw [if_neg hexcept, if_pos hbranch]

/-- Nothing is made of a text to which no rule applies. -/
lemma guess?_eq_none_iff : vocabulary.guess? (letters text.toList) = none ↔ IsUnknown text := by
  rw [Vocabulary.guess?, Option.map_eq_none_iff, List.find?_eq_none]
  simp only [vocabulary, List.mem_cons, List.not_mem_nil, or_false, forall_eq_or_imp, forall_eq]
  constructor
  · rintro ⟨hexcept, hbranch, hrob, hextern⟩
    rw [Bool.and_eq_true, mentions_singleton_iff, mentions_singleton_iff] at hrob
    exact ⟨mentions_singleton_iff.not.mp hexcept, fun h => hbranch (isRecognizable_iff.mp h).2, hrob,
      mentions_singleton_iff.not.mp hextern⟩
  · rintro ⟨hexcept, hbranch, hrob, hextern⟩
    rw [← mentions_singleton_iff] at hexcept hextern
    refine ⟨hexcept, fun h => hbranch (isRecognizable_iff.mpr ⟨hexcept, h⟩), ?_, hextern⟩
    rwa [Bool.and_eq_true, mentions_singleton_iff, mentions_singleton_iff]

/-! ## The result -/

/-- Which words mean a mispredicted branch, given the text around them. -/
structure ReadsMispredicts (word : String) (context : Option String) : Prop where
  /-- A word that is not in the vocabulary does if it is recognized, or if no rule applies to it and
  the text around it is recognized. -/
  foreign : (∀ r ∈ vocabulary.all, vocabulary.label r ≠ word) →
    (vocabulary.read word context = branchMispredict ↔
      IsRecognizable word ∨ IsUnknown word ∧ ∃ text ∈ context, IsRecognizable text)
  /-- No word does that lacks the branch or the misprediction, unless the text around it is
  recognized. -/
  half : ¬ (NamesBranch word ∧ NamesMispredict word) → (∀ text ∈ context, ¬ IsRecognizable text) →
    vocabulary.read word context ≠ branchMispredict

lemma interpret_eq_branchMispredict_iff {word : String} {context : Option String} :
    vocabulary.interpret word context = branchMispredict ↔
      IsRecognizable word ∨ IsUnknown word ∧ ∃ text ∈ context, IsRecognizable text := by
  have hfallback : branchMispredict ≠ vocabulary.fallback := by decide
  simp only [vocabulary.interpret_eq_iff hfallback, guess?_eq_branchMispredict_iff,
    guess?_eq_none_iff]

theorem readsMispredicts (word : String) (context : Option String) :
    ReadsMispredicts word context := by
  constructor
  case foreign =>
    intro hforeign
    rcases vocabulary.read_cases word context with ⟨r, hr, hlabel, -⟩ | ⟨-, hread⟩
    · exact absurd hlabel (hforeign r hr)
    · rw [hread, interpret_eq_branchMispredict_iff]
  case half =>
    intro hhalf hcontext hmispredict
    rcases vocabulary.read_cases word context with ⟨r, hr, rfl, hread⟩ | ⟨-, hread⟩
    · obtain rfl : r = branchMispredict := hread.symm.trans hmispredict
      have hlabel : IsRecognizable (vocabulary.label branchMispredict) :=
        guess?_eq_branchMispredict_iff.mp (by decide)
      exact hhalf ⟨hlabel.branch, hlabel.mispredict⟩
    · rw [hread, interpret_eq_branchMispredict_iff] at hmispredict
      rcases hmispredict with hword | ⟨-, text, htext, hrecognized⟩
      · exact hhalf ⟨hword.branch, hword.mispredict⟩
      · exact hcontext text htext hrecognized

/-- A word that was torn apart by blanks is recovered from its span, and half a word is not. -/
theorem readsMispredicts_tornWord :
    vocabulary.read "bs" (some "bs       ranch_mispredict ") = branchMispredict ∧
      vocabulary.read "mispredict" none ≠ branchMispredict := by
  have hforeign : ∀ r ∈ vocabulary.all, vocabulary.label r ≠ "bs" := by decide
  have hword : IsUnknown "bs" := guess?_eq_none_iff.mp (by decide)
  have hspan : IsRecognizable "bs       ranch_mispredict " :=
    guess?_eq_branchMispredict_iff.mp (by decide)
  have hhalf : ¬ NamesBranch "mispredict" := looksBranch_iff.not.mp (by decide)
  constructor
  · exact ((readsMispredicts "bs" _).foreign hforeign).mpr (.inr ⟨hword, _, rfl, hspan⟩)
  · exact (readsMispredicts "mispredict" none).half (fun h => hhalf h.1) (by simp)

end FlushReason

end PipelineProfile
