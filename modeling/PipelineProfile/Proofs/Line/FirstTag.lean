import PipelineProfile.Proofs.Line.TagSearch

/-!
# The first tag of a line

A tag stands in a text where its name stands between brackets, with any blanks before the closing
one (`Tag.IsWrittenAs`).  The search for a tag finds the first one that stands in a line, and the
line has none if the search finds none (`find?_eq_some_iff`, `find?_eq_none_iff`).  Whatever stands
before the tag may have brackets of its own, closed or not, as long as no tag stands in it.

The same tag is found by a search that knows nothing of tags at first.  It goes through the line
from bracket to bracket, takes every name between brackets that it comes to, asks whether that is
the name of a tag, and goes on behind the closing bracket if it is not (`firstKnown?`).  It passes
over no tag, because a name and the blanks behind it have no opening bracket
(`firstKnown?_eq_find?`).  Which characters a name may have does not matter, if only those of the
tags are among them and neither blanks nor brackets are (`NameClass`).
-/

namespace PipelineProfile.Tag

open Text

/-! ## Where a tag stands -/

/-- The tag as it may be written, with blanks before the closing bracket. -/
def IsWrittenAs (t : Tag) (w : List Char) : Prop :=
  ∃ pad, IsGap pad ∧ w = '[' :: (t.name.toList ++ (pad ++ [']']))

/-- Some tag stands somewhere in a text. -/
def HasTag (s : List Char) : Prop := ∃ t w, IsWrittenAs t w ∧ w <:+: s

/-- The tag that is read at the beginning of a text is the one that stands there. -/
lemma read?_eq_some_iff {s r : List Char} {t : Tag} :
    read? s = some (t, r) ↔ ∃ w, t.IsWrittenAs w ∧ s = w ++ r := by
  constructor
  · intro h
    obtain _ | ⟨c, s⟩ := s
    · cases h
    · by_cases hc : c = '['
      · subst hc
        obtain ⟨u, -, hu⟩ := List.exists_of_findSome?_eq_some h
        obtain ⟨r', hafter, heq⟩ := Option.map_eq_some_iff.mp hu
        obtain ⟨rfl, rfl⟩ := Prod.mk.inj heq
        obtain ⟨pad, hpad, rfl⟩ := exists_pad_of_after? hafter
        exact ⟨_, ⟨pad, hpad, rfl⟩, by simp⟩
      · rw [read?_cons_of_ne hc] at h
        cases h
  · rintro ⟨w, ⟨pad, hpad, rfl⟩, rfl⟩
    simpa using read?_bracketed t hpad r

lemma find?_cons (c : Char) (s : List Char) : find? (c :: s) = (read? (c :: s)).or (find? s) := rfl

/-- A tag is nowhere in a line exactly if the search finds none. -/
theorem find?_eq_none_iff {line : List Char} : find? line = none ↔ ¬ HasTag line := by
  rw [find?, firstMatch_eq_none_iff]
  constructor
  · rintro h ⟨t, w, hw, p, r, rfl⟩
    have hnone : read? (w ++ r) = none := h p (w ++ r) (List.append_assoc ..)
    rw [read?_eq_some_iff.mpr ⟨w, hw, rfl⟩] at hnone
    cases hnone
  · rintro h p s rfl
    refine Option.eq_none_iff_forall_ne_some.mpr fun found hread => ?_
    obtain ⟨w, hw, rfl⟩ := read?_eq_some_iff.mp hread
    exact h ⟨found.1, w, hw, p, found.2, List.append_assoc ..⟩

/-- The tag that the search finds is the first one of the line. -/
theorem find?_eq_some_iff {line r : List Char} {t : Tag} :
    find? line = some (t, r) ↔ ∃ p w, line = p ++ (w ++ r) ∧ t.IsWrittenAs w ∧ ¬ HasTag p := by
  constructor
  · intro h
    obtain ⟨p, s, rfl, hread, hearlier⟩ := firstMatch_eq_some_iff.mp h
    obtain ⟨w, hw, rfl⟩ := read?_eq_some_iff.mp hread
    refine ⟨p, w, rfl, hw, ?_⟩
    rintro ⟨u, v, hv, q, q', rfl⟩
    -- A tag before this one would have been found instead.
    have hlength : q.length < (q ++ v ++ q').length := by
      obtain ⟨pad, -, rfl⟩ := hv
      simp only [List.length_append, List.length_cons]
      omega
    have hnone : read? (v ++ (q' ++ (w ++ r))) = none := hearlier q _ (by simp) hlength
    rw [read?_eq_some_iff.mpr ⟨v, hv, rfl⟩] at hnone
    cases hnone
  · rintro ⟨p, w, rfl, ⟨pad, hpad, rfl⟩, hp⟩
    simpa using find?_append_bracketed (find?_eq_none_iff.mpr hp) t hpad r

/-! ## Names in brackets -/

/-- The characters that names in brackets are made of. -/
structure NameClass where
  contains : Char → Bool
  /-- The names of tags are such names. -/
  contains_of_mem_name : ∀ t : Tag, ∀ c ∈ t.name.toList, contains c = true
  /-- A name ends before a blank. -/
  contains_of_isBlank : ∀ c, isBlank c = true → contains c = false
  contains_opening : contains '[' = false
  contains_closing : contains ']' = false

/-- Letters, digits and underscores. -/
instance : Inhabited NameClass where
  default :=
    { contains := fun c => Facts.isKeyStart c || c.isDigit
      contains_of_mem_name := fun t => List.all_eq_true.mp (by cases t <;> decide)
      contains_of_isBlank := by
        intro c hc
        have hkey := Facts.isKeyChar_of_isBlank hc
        simp only [Facts.isKeyChar, Bool.or_eq_false_iff] at hkey
        rw [hkey.1.1.1.1, hkey.1.1.1.2, Bool.or_self]
      contains_opening := by decide
      contains_closing := by decide }

variable (k : NameClass)

/-- The name in brackets at the beginning of a text, with what follows the closing one.  Blanks may
stand behind the name. -/
def group? : List Char → Option (List Char × List Char)
  | '[' :: s =>
    if (s.takeWhile k.contains).isEmpty then none
    else
      ([']'].isPrefixOf? ((s.dropWhile k.contains).dropWhile isBlank)).map fun r =>
        (s.takeWhile k.contains, r)
  | _ => none

lemma group?_bracket (s : List Char) : group? k ('[' :: s) =
    if (s.takeWhile k.contains).isEmpty then none
    else
      ([']'].isPrefixOf? ((s.dropWhile k.contains).dropWhile isBlank)).map fun r =>
        (s.takeWhile k.contains, r) := rfl

lemma group?_cons_of_ne {c : Char} (hc : c ≠ '[') (s : List Char) : group? k (c :: s) = none := by
  unfold group?
  split
  · next heq => exact absurd (List.cons.inj heq).1 hc
  · rfl

variable {k}

/-- What is read as a name in brackets is one. -/
lemma exists_of_group? {s name r : List Char} (h : group? k s = some (name, r)) :
    (∀ c ∈ name, k.contains c = true) ∧
      ∃ pad, IsGap pad ∧ s = '[' :: (name ++ (pad ++ ']' :: r)) := by
  obtain _ | ⟨c, s⟩ := s
  · cases h
  by_cases hc : c = '['
  · subst hc
    rw [group?_bracket] at h
    split at h
    · cases h
    · obtain ⟨r', hclose, heq⟩ := Option.map_eq_some_iff.mp h
      obtain ⟨rfl, rfl⟩ := Prod.mk.inj heq
      have hdrop : (s.dropWhile k.contains).dropWhile isBlank = ']' :: r' :=
        (List.append_eq_of_isPrefixOf?_eq_some hclose).symm
      refine ⟨fun c hc => List.mem_takeWhile_imp hc, (s.dropWhile k.contains).takeWhile isBlank,
        fun c hc => List.mem_takeWhile_imp hc, ?_⟩
      rw [← hdrop, List.takeWhile_append_dropWhile, List.takeWhile_append_dropWhile]
  · rw [group?_cons_of_ne k hc] at h
    cases h

/-- A tag is a name in brackets. -/
lemma group?_of_isWrittenAs {t : Tag} {w : List Char} (hw : t.IsWrittenAs w) (r : List Char) :
    group? k (w ++ r) = some (t.name.toList, r) := by
  obtain ⟨pad, hpad, rfl⟩ := hw
  have htake : (t.name.toList ++ (pad ++ ']' :: r)).takeWhile k.contains = t.name.toList :=
    takeWhile_closed k.contains_of_isBlank k.contains_closing (k.contains_of_mem_name t) hpad r
  have hdrop : (t.name.toList ++ (pad ++ ']' :: r)).dropWhile k.contains = pad ++ ']' :: r := by
    have hsplit := List.takeWhile_append_dropWhile (p := k.contains)
      (l := t.name.toList ++ (pad ++ ']' :: r))
    rw [htake] at hsplit
    exact List.append_cancel_left hsplit
  have hne : t.name.toList.isEmpty = false := by cases t <;> rfl
  have htext : '[' :: (t.name.toList ++ (pad ++ [']'])) ++ r =
      '[' :: (t.name.toList ++ (pad ++ ']' :: r)) := by simp
  rw [htext, group?_bracket, htake, hdrop, dropWhile_pad hpad, hne]
  rfl

lemma length_lt_of_firstMatch_group? {s name r : List Char}
    (h : firstMatch (group? k) s = some (name, r)) : r.length < s.length := by
  obtain ⟨p, s, rfl, hgroup, -⟩ := firstMatch_eq_some_iff.mp h
  obtain ⟨-, pad, -, rfl⟩ := exists_of_group? hgroup
  simp only [List.length_append, List.length_cons]
  omega

variable (k)

/-- The first name in brackets that is a tag, with what follows.  The search goes on behind every
other one. -/
def firstKnown? (line : List Char) : Option (Tag × List Char) :=
  match _h : firstMatch (group? k) line with
  | none => none
  | some (name, r) =>
    match ofName? (String.ofList name) with
    | some t => some (t, r)
    | none => firstKnown? r
termination_by line.length
decreasing_by exact length_lt_of_firstMatch_group? _h

variable {k}

lemma firstKnown?_of_none {line : List Char} (h : firstMatch (group? k) line = none) :
    firstKnown? k line = none := by
  rw [firstKnown?]
  split
  · rfl
  · next hsome => rw [h] at hsome; cases hsome

lemma firstKnown?_of_some {line name r : List Char}
    (h : firstMatch (group? k) line = some (name, r)) : firstKnown? k line =
      ((ofName? (String.ofList name)).map fun t => (t, r)).or (firstKnown? k r) := by
  rw [firstKnown?]
  split
  · next hnone => rw [h] at hnone; cases hnone
  · next name' r' hsome =>
    obtain ⟨rfl, rfl⟩ := Prod.mk.inj (Option.some.inj (h.symm.trans hsome))
    cases ofName? (String.ofList name) <;> rfl

/-! ## The two searches agree -/

/-- Where there is no name in brackets there is no tag. -/
lemma read?_eq_none_of_group? {s : List Char} (h : group? k s = none) : read? s = none := by
  refine Option.eq_none_iff_forall_ne_some.mpr fun found hread => ?_
  obtain ⟨w, hw, rfl⟩ := read?_eq_some_iff.mp hread
  rw [group?_of_isWrittenAs hw found.2] at h
  cases h

/-- A tag is not searched for in a text without opening brackets. -/
lemma find?_append_of_not_mem {s : List Char} (hs : '[' ∉ s) (r : List Char) :
    find? (s ++ r) = find? r := by
  induction s with
  | nil => rfl
  | cons c s ih =>
    rw [List.mem_cons, not_or] at hs
    rw [List.cons_append, find?_cons, read?_cons_of_ne (Ne.symm hs.1), Option.none_or, ih hs.2]

lemma ofName?_name (t : Tag) : ofName? t.name = some t := by cases t <;> decide

lemma ofName?_eq_some_iff {s : String} {t : Tag} : ofName? s = some t ↔ t.name = s := by
  constructor
  · intro h
    simpa using List.find?_some h
  · rintro rfl
    exact ofName?_name t

/-- Behind a name in brackets the search for a tag goes on unless the name is one. -/
lemma find?_of_group? {s name r : List Char} (h : group? k s = some (name, r)) :
    find? s = ((ofName? (String.ofList name)).map fun t => (t, r)).or (find? r) := by
  obtain ⟨hname, pad, hpad, rfl⟩ := exists_of_group? h
  cases hof : ofName? (String.ofList name) with
  | some t =>
    have hchars : t.name.toList = name := by rw [ofName?_eq_some_iff.mp hof, String.toList_ofList]
    rw [← hchars, find?_cons, read?_bracketed t hpad r]
    rfl
  | none =>
    have hread : read? ('[' :: (name ++ (pad ++ ']' :: r))) = none := by
      refine Option.eq_none_iff_forall_ne_some.mpr fun found hread => ?_
      obtain ⟨w, hw, htext⟩ := read?_eq_some_iff.mp hread
      rw [htext, group?_of_isWrittenAs hw found.2] at h
      obtain ⟨rfl, rfl⟩ := Prod.mk.inj (Option.some.inj h)
      rw [String.ofList_toList, ofName?_name] at hof
      cases hof
    have hbracket : '[' ∉ name ++ (pad ++ [']']) := by
      simp only [List.mem_append, List.mem_singleton, not_or]
      refine ⟨fun hmem => ?_, fun hmem => ?_, by decide⟩
      · have hcontains := hname '[' hmem
        rw [k.contains_opening] at hcontains
        cases hcontains
      · exact absurd (hpad '[' hmem) (by decide)
    have hrest := find?_append_of_not_mem hbracket r
    rw [find?_cons, hread, Option.none_or]
    simpa using hrest

/-- The search from bracket to bracket finds what the search for tags finds. -/
theorem firstKnown?_eq_find? (k : NameClass) (line : List Char) :
    firstKnown? k line = find? line := by
  induction hn : line.length using Nat.strongRecOn generalizing line with
  | ind n ih =>
    subst hn
    cases hgroup : firstMatch (group? k) line with
    | none =>
      have hfind : find? line = none := firstMatch_eq_none_iff.mpr fun p s hline =>
        read?_eq_none_of_group? (firstMatch_eq_none_iff.mp hgroup p s hline)
      rw [firstKnown?_of_none hgroup, hfind]
    | some found =>
      obtain ⟨name, r⟩ := found
      have hrest : firstKnown? k r = find? r :=
        ih r.length (length_lt_of_firstMatch_group? hgroup) r rfl
      obtain ⟨p, s, rfl, hs, hearlier⟩ := firstMatch_eq_some_iff.mp hgroup
      have hskip : find? (p ++ s) = find? s := by
        apply firstMatch_append
        rintro v ⟨q, rfl⟩ hv
        have hlength : q.length < (q ++ v).length := by
          rw [List.length_append]
          exact Nat.lt_add_of_pos_right (List.length_pos_iff.mpr hv)
        exact read?_eq_none_of_group? (hearlier q (v ++ s) (List.append_assoc ..) hlength)
      rw [firstKnown?_of_some hgroup, hrest, hskip, find?_of_group? hs]

/-! ## The result -/

/-- What it means that the search for a tag finds the first one of a line. -/
structure FindsFirst (line : List Char) : Prop where
  /-- It finds a tag, with what follows, if this stands in the line and no tag stands in the text
  before it. -/
  found : ∀ t r, find? line = some (t, r) ↔
    ∃ p w, line = p ++ (w ++ r) ∧ t.IsWrittenAs w ∧ ¬ HasTag p
  /-- It finds nothing if no tag stands in the line. -/
  absent : find? line = none ↔ ¬ HasTag line
  /-- At one place no more than one tag stands, also if the name of one begins like the name of
  another. -/
  unambiguous : ∀ (t u : Tag) w v r s, t.IsWrittenAs w → u.IsWrittenAs v →
    line = w ++ r → line = v ++ s → t = u ∧ w = v ∧ r = s
  /-- Going from one name in brackets to the next and passing over unknown ones finds the same. -/
  names : ∀ k : NameClass, firstKnown? k line = find? line

/-- The search for a tag finds the first one of every line, whatever other text there is. -/
theorem findsFirst (line : List Char) : FindsFirst line := by
  constructor
  case found => exact fun t r => find?_eq_some_iff
  case absent => exact find?_eq_none_iff
  case unambiguous =>
    intro t u w v r s hw hv hwr hvs
    have hread : read? line = some (t, r) := read?_eq_some_iff.mpr ⟨w, hw, hwr⟩
    have hread' : read? line = some (u, s) := read?_eq_some_iff.mpr ⟨v, hv, hvs⟩
    obtain ⟨rfl, rfl⟩ := Prod.mk.inj (Option.some.inj (hread.symm.trans hread'))
    exact ⟨rfl, List.append_cancel_right (hwr.symm.trans hvs), rfl⟩
  case names => exact fun k => firstKnown?_eq_find? k line

/-- A line with an unknown name in brackets, an open bracket and the beginning of a tag before its
first tag, and with another tag behind it. -/
def noisyLine : List Char := "<foo> [bar ] [[flush cycle= [flushp  ] cycle=13 [flush] x".toList

/-- Both searches come to the first tag of that line. -/
theorem find?_noisyLine :
    find? noisyLine = some (flushPenalty, " cycle=13 [flush] x".toList) ∧
      firstKnown? default noisyLine = some (flushPenalty, " cycle=13 [flush] x".toList) := by
  have hfind : find? noisyLine = some (flushPenalty, " cycle=13 [flush] x".toList) := by decide
  exact ⟨hfind, ((findsFirst noisyLine).names default).trans hfind⟩

end PipelineProfile.Tag
