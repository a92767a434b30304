import Mathlib.Data.List.Basic
import PipelineProfile.Flush.Vocabulary

/-!
# Words with noise in them

Other text that comes between the letters of a word, or in the place of its underscore, does not
change what the word means, as long as it has no lowercase letters (`Vocabulary.WithstandsNoise`).

An exact word and a damaged one are read in different ways.  The exact word is looked up; for the
damaged one there are only rules, in an order, and the text around it comes after them.  The two
ways give the same because the rules know the exact words too: of the letters of each they make the
meaning that the word has, and of those of the fallback's word they make nothing.  That is all a
vocabulary has to fulfil (`withstandsNoise_of_guess?_label`).  In particular no two of its words have
the same letters.
-/

namespace PipelineProfile

namespace Vocabulary

variable {α : Type} {v : Vocabulary α} {word : String} {context : Option String}

/-! ## The two ways of reading -/

/-- What is made of a word that is not in the vocabulary, with the text around it. -/
def interpret (v : Vocabulary α) (word : String) (context : Option String) : α :=
  ((v.guess? (letters word.toList)).or
    (context.bind fun text => v.guess? (letters text.toList))).getD v.fallback

/-- A word is looked up if it is in the vocabulary, and else it is interpreted. -/
lemma read_cases (v : Vocabulary α) (word : String) (context : Option String) :
    (∃ a ∈ v.all, v.label a = word ∧ v.read word context = a) ∨
      (∀ a ∈ v.all, v.label a ≠ word) ∧ v.read word context = v.interpret word context := by
  have htexts : (word :: context.toList).findSome? (fun text => v.guess? (letters text.toList)) =
      (v.guess? (letters word.toList)).or
        (context.bind fun text => v.guess? (letters text.toList)) := by
    rw [List.findSome?_cons]
    cases v.guess? (letters word.toList) with
    | some a => rfl
    | none =>
      cases context with
      | none => rfl
      | some text => exact List.findSome?_singleton
  cases hfind : v.all.find? fun a => v.label a = word with
  | some a =>
    have hlabel : v.label a = word := by simpa using List.find?_some hfind
    exact .inl ⟨a, List.mem_of_find?_eq_some hfind, hlabel, by rw [read, hfind]⟩
  | none =>
    have hforeign : ∀ a ∈ v.all, v.label a ≠ word := by
      simpa using List.find?_eq_none.mp hfind
    refine .inr ⟨hforeign, ?_⟩
    rw [read, hfind, interpret, ← htexts]

/-- A word is interpreted by the rules for it, and if there are none, by those for the text around
it. -/
lemma interpret_eq_iff {a : α} (ha : a ≠ v.fallback) : v.interpret word context = a ↔
    v.guess? (letters word.toList) = some a ∨
      v.guess? (letters word.toList) = none ∧
        ∃ text ∈ context, v.guess? (letters text.toList) = some a := by
  rw [interpret]
  cases hword : v.guess? (letters word.toList) with
  | some b => simp
  | none =>
    cases context with
    | none => simp [Ne.symm ha]
    | some text =>
      cases htext : v.guess? (letters text.toList) with
      | some b => simp [htext]
      | none => simp [htext, Ne.symm ha]

/-! ## Noise -/

/-- What it means that noise does not change what the words of a vocabulary mean. -/
structure WithstandsNoise (v : Vocabulary α) : Prop where
  /-- What has the letters of an exact word means the same, whatever stands around it. -/
  word : ∀ a ∈ v.all, a ≠ v.fallback → ∀ (word : String) (context : Option String),
    letters word.toList = letters (v.label a).toList → v.read word context = a
  /-- What has the letters of the fallback's word means the fallback if nothing stands around it,
  or something with the same letters. -/
  fallback : v.fallback ∈ v.all ∧ ∀ (word : String) (context : Option String),
    letters word.toList = letters (v.label v.fallback).toList →
      (∀ text ∈ context, letters text.toList = letters word.toList) →
        v.read word context = v.fallback

section Words

variable [DecidableEq α]
  (hguess : ∀ a ∈ v.all, v.guess? (letters (v.label a).toList) =
    if a = v.fallback then none else some a)

include hguess

/-- Different words of a vocabulary have different letters. -/
lemma eq_of_letters_label_eq {a b : α} (ha : a ∈ v.all) (hb : b ∈ v.all)
    (h : letters (v.label a).toList = letters (v.label b).toList) : a = b := by
  have hsame : (if a = v.fallback then none else some a) =
      if b = v.fallback then none else some b := by rw [← hguess a ha, ← hguess b hb, h]
  split at hsame <;> split at hsame
  · next hafallback hbfallback => rw [hafallback, hbfallback]
  · cases hsame
  · cases hsame
  · exact Option.some.inj hsame

/-- A vocabulary withstands noise if its rules know the letters of its words. -/
theorem withstandsNoise_of_guess?_label (hfallback : v.fallback ∈ v.all) : v.WithstandsNoise := by
  constructor
  case word =>
    intro a ha hne word context hletters
    obtain ⟨b, hb, rfl, hread⟩ | ⟨-, hread⟩ := v.read_cases word context
    · rw [hread, eq_of_letters_label_eq hguess hb ha hletters]
    · rw [hread, interpret, hletters, hguess a ha, if_neg hne, Option.some_or, Option.getD_some]
  case fallback =>
    refine ⟨hfallback, fun word context hletters hcontext => ?_⟩
    obtain ⟨b, hb, rfl, hread⟩ | ⟨-, hread⟩ := v.read_cases word context
    · rw [hread, eq_of_letters_label_eq hguess hb hfallback hletters]
    · have hnone : v.guess? (letters word.toList) = none := by
        rw [hletters, hguess v.fallback hfallback, if_pos rfl]
      have hcontextNone : (context.bind fun text => v.guess? (letters text.toList)) = none := by
        rw [Option.bind_eq_none_iff]
        intro text htext
        rw [hcontext text htext, hnone]
      rw [hread, interpret, hnone, hcontextNone]
      rfl

end Words

end Vocabulary

/-! ## The four vocabularies -/

/-- The vocabularies of flush lines withstand noise. -/
theorem Vocabulary.withstandNoise :
    FlushReason.vocabulary.WithstandsNoise ∧ FlushSource.vocabulary.WithstandsNoise ∧
      MissType.vocabulary.WithstandsNoise ∧ MissSubtype.vocabulary.WithstandsNoise :=
  ⟨withstandsNoise_of_guess?_label (by decide) (by decide),
    withstandsNoise_of_guess?_label (by decide) (by decide),
    withstandsNoise_of_guess?_label (by decide) (by decide),
    withstandsNoise_of_guess?_label (by decide) (by decide)⟩

/-- A word with digits, signs and other letters in it, next to another word of the vocabulary. -/
theorem FlushReason.read_noisyWord :
    letters "B7br.aN=nch éMmis-preDdict".toList = letters "branch_mispredict".toList ∧
      vocabulary.read "B7br.aN=nch éMmis-preDdict" (some "exception") = .branchMispredict := by
  have hletters : letters "B7br.aN=nch éMmis-preDdict".toList =
      letters "branch_mispredict".toList := by decide
  have hword := Vocabulary.withstandNoise.1.word .branchMispredict (by decide) (by decide)
  exact ⟨hletters, hword _ (some "exception") hletters⟩

end PipelineProfile
