import PipelineProfile.Number.Decimal
import PipelineProfile.Path
import PipelineProfile.Proofs.Number.Spelling

/-!
# Texts without braces

Placeholders stand in braces, so a text without braces (`BraceFree`) neither has a placeholder nor
makes one together with the text around it.  A text that has no line feed either (`Plain`) stays on
the line on which it is put.  Both kinds of texts are closed under joining, and numbers are plain, in
decimal (`plain_decimal`), as machine words (`plain_word`) and with places behind the point
(`plain_fixed`).

The path of a directory has only characters of the path from which it is taken, and slashes
(`Path.mem_parent?`).  So it has no braces either.
-/

namespace PipelineProfile

namespace Text

/-- Whether the character is a brace. -/
def isBrace (c : Char) : Bool := c = '{' || c = '}'

/-- No character of the text is a brace. -/
def BraceFree (s : String) : Prop := (s.toList.all fun c => !isBrace c) = true

instance (s : String) : Decidable (BraceFree s) := inferInstanceAs (Decidable (_ = true))

lemma braceFree_iff {s : String} : BraceFree s ↔ ∀ c ∈ s.toList, isBrace c = false := by
  rw [BraceFree, List.all_eq_true]
  simp only [Bool.not_eq_true']

/-- A text that is written out is checked character by character. -/
lemma braceFree_ofList {cs : List Char} (h : (cs.all fun c => !isBrace c) = true) :
    BraceFree (String.ofList cs) := by
  rw [BraceFree, String.toList_ofList]
  exact h

@[simp] lemma braceFree_append {s t : String} : BraceFree (s ++ t) ↔ BraceFree s ∧ BraceFree t := by
  rw [BraceFree, String.toList_append, List.all_append, Bool.and_eq_true]
  rfl

/-- What holds of all characters of the parts holds of all characters of the whole. -/
lemma all_intercalate {p : Char → Bool} {separator : String}
    (hseparator : separator.toList.all p = true) {ts : List String}
    (h : ∀ t ∈ ts, t.toList.all p = true) : (separator.intercalate ts).toList.all p = true := by
  induction ts with
  | nil => rfl
  | cons t ts ih =>
    obtain ⟨ht, hts⟩ := List.forall_mem_cons.mp h
    cases ts with
    | nil => rwa [String.intercalate_singleton]
    | cons u ts =>
      rw [String.intercalate_cons_cons, String.toList_append, String.toList_append,
        List.all_append, List.all_append, ht, hseparator, ih hts]
      rfl

lemma braceFree_intercalate {separator : String} (hseparator : BraceFree separator)
    {ts : List String} (h : ∀ t ∈ ts, BraceFree t) : BraceFree (separator.intercalate ts) :=
  all_intercalate hseparator h

/-! ## Plain texts -/

/-- Whether the character is neither a brace nor a line feed. -/
def isPlain (c : Char) : Bool := !isBrace c && c ≠ '\n'

/-- No character of the text is a brace or a line feed. -/
def Plain (s : String) : Prop := s.toList.all isPlain = true

lemma plain_iff {s : String} : Plain s ↔ ∀ c ∈ s.toList, isPlain c = true := List.all_eq_true

/-- A text that is written out is checked character by character. -/
lemma plain_ofList {cs : List Char} (h : cs.all isPlain = true) : Plain (String.ofList cs) := by
  rw [Plain, String.toList_ofList]
  exact h

lemma Plain.braceFree {s : String} (h : Plain s) : BraceFree s := by
  refine braceFree_iff.mpr fun c hc => ?_
  have hplain := plain_iff.mp h c hc
  rw [isPlain, Bool.and_eq_true, Bool.not_eq_true'] at hplain
  exact hplain.1

lemma Plain.newline_not_mem {s : String} (h : Plain s) : '\n' ∉ s.toList := by
  intro hmem
  have hplain := plain_iff.mp h '\n' hmem
  revert hplain
  decide

/-- What is true of a character and of no brace and not of the line feed makes it plain. -/
lemma isPlain_of {p : Char → Bool} (hopen : p '{' = false) (hclose : p '}' = false)
    (hnewline : p '\n' = false) {c : Char} (hc : p c = true) : isPlain c = true := by
  by_contra hspecial
  have hcases : (c = '{' ∨ c = '}') ∨ c = '\n' := by
    simpa [isPlain, isBrace, Decidable.or_iff_not_imp_left] using hspecial
  obtain (rfl | rfl) | rfl := hcases
  · rw [hopen] at hc
    cases hc
  · rw [hclose] at hc
    cases hc
  · rw [hnewline] at hc
    cases hc

@[simp] lemma plain_append {s t : String} : Plain (s ++ t) ↔ Plain s ∧ Plain t := by
  rw [Plain, String.toList_append, List.all_append, Bool.and_eq_true]
  rfl

lemma plain_intercalate {separator : String} (hseparator : Plain separator) {ts : List String}
    (h : ∀ t ∈ ts, Plain t) : Plain (separator.intercalate ts) := all_intercalate hseparator h

/-! ## Numbers -/

lemma isPlain_of_isDigit {c : Char} (hc : c.isDigit = true) : isPlain c = true :=
  isPlain_of (p := Char.isDigit) (by decide) (by decide) (by decide) hc

lemma isPlain_of_mem_toDigits {base n : Nat} (hbase : 1 < base) (hle : base ≤ 16) {c : Char}
    (hc : c ∈ Nat.toDigits base n) : isPlain c = true := by
  have hdigits : ∀ e ∈ Numeral.digitValues, isPlain e.1 = true := by decide
  have hall : ∀ c ∈ Nat.toDigits base n, isPlain c = true :=
    (Numeral.Digits.toDigits hbase hle n).forall_mem fun e he _ => hdigits e he
  exact hall c hc

lemma isPlain_of_mem_leftpad {n : Nat} {ds : List Char} (hds : ∀ c ∈ ds, isPlain c = true) :
    ∀ c ∈ ds.leftpad n '0', isPlain c = true := by
  intro c hc
  obtain hzero | hmem := List.mem_append.mp hc
  · rw [List.eq_of_mem_replicate hzero]
    decide
  · exact hds c hmem

@[simp] lemma plain_decimal (n : Nat) : Plain (Numeral.decimal n) :=
  plain_iff.mpr fun _ hc => isPlain_of_isDigit (Numeral.isDigit_of_mem_decimal hc)

@[simp] lemma plain_word (n : Nat) : Plain (Numeral.word n) := by
  have hdigits := isPlain_of_mem_leftpad (n := 8) fun c =>
    isPlain_of_mem_toDigits (n := n) (by decide) (by decide : 16 ≤ 16)
  rw [plain_iff, Numeral.word, String.toList_ofList]
  exact List.forall_mem_cons.mpr ⟨by decide, List.forall_mem_cons.mpr ⟨by decide, hdigits⟩⟩

@[simp] lemma plain_fixed (places : Nat) (x : Float) : Plain (Decimal.fixed places x) := by
  have hdigits : ∀ n, ∀ c ∈ Nat.toDigits 10 n, isPlain c = true := fun n c =>
    isPlain_of_mem_toDigits (by decide) (by decide)
  unfold Decimal.fixed
  split
  · exact plain_ofList rfl
  · rw [plain_iff, String.toList_ofList]
    split
    · exact hdigits _
    · refine List.forall_mem_append.mpr ⟨hdigits _, List.forall_mem_cons.mpr ⟨by decide, ?_⟩⟩
      exact isPlain_of_mem_leftpad (hdigits _)

/-! ## Joining and cutting -/

lemma mem_intercalate {α : Type} {separator : List α} {ps : List (List α)} {a : α}
    (h : a ∈ separator.intercalate ps) : a ∈ separator ∨ ∃ p ∈ ps, a ∈ p := by
  induction ps with
  | nil => cases h
  | cons p ps ih =>
    cases ps with
    | nil => exact .inr ⟨p, List.mem_cons_self .., by simpa using h⟩
    | cons q ps =>
      rw [List.intercalate_cons_cons, List.mem_append, List.mem_append] at h
      obtain (hp | hseparator) | hrest := h
      · exact .inr ⟨p, List.mem_cons_self .., hp⟩
      · exact .inl hseparator
      · exact (ih hrest).imp_right fun ⟨r, hr, ha⟩ => ⟨r, List.mem_cons_of_mem p hr, ha⟩

lemma mem_of_mem_splitOn {α : Type} [DecidableEq α] {mark a : α} {s p : List α}
    (hp : p ∈ s.splitOn mark) (ha : a ∈ p) : a ∈ s := by
  induction s generalizing p with
  | nil =>
    rw [List.splitOn_nil, List.mem_singleton] at hp
    rw [hp] at ha
    cases ha
  | cons b s ih =>
    rw [List.splitOn_cons_eq_if_modifyHead] at hp
    split at hp
    · obtain rfl | hp := List.mem_cons.mp hp
      · cases ha
      · exact List.mem_cons_of_mem b (ih hp ha)
    · obtain ⟨q, rest, hpieces⟩ := List.exists_cons_of_ne_nil (List.splitOn_ne_nil mark s)
      rw [hpieces] at hp ih
      obtain rfl | hp := List.mem_cons.mp hp
      · obtain rfl | ha := List.mem_cons.mp ha
        · exact List.mem_cons_self ..
        · exact List.mem_cons_of_mem b (ih (List.mem_cons_self ..) ha)
      · exact List.mem_cons_of_mem b (ih (List.mem_cons_of_mem q hp) ha)

end Text

/-! ## Paths -/

namespace Path

open Text

lemma dropIdle_subset (ps : List (List Char)) : dropIdle ps ⊆ ps := by
  intro p hp
  exact List.mem_reverse.mp ((List.dropWhile_sublist _).subset (List.mem_reverse.mp hp))

lemma dropIdleRelative_subset (ps : List (List Char)) : dropIdleRelative ps ⊆ ps := by
  unfold dropIdleRelative
  split
  · exact List.cons_subset_cons _ (dropIdle_subset _)
  · exact dropIdle_subset _

/-- Joining some of the pieces of a text adds only slashes. -/
lemma mem_of_mem_intercalate_splitOn {ps : List (List Char)} {s : List Char}
    (hps : ps ⊆ s.splitOn '/') {c : Char} (hc : c ∈ ['/'].intercalate ps) : c = '/' ∨ c ∈ s := by
  obtain hslash | ⟨p, hp, hcp⟩ := mem_intercalate hc
  · exact .inl (List.mem_singleton.mp hslash)
  · exact .inr (mem_of_mem_splitOn (hps hp) hcp)

/-- The path of the directory above has no other characters than the path and slashes. -/
lemma mem_parent? {p q : String} (h : parent? p = some q) {c : Char} (hc : c ∈ q.toList) :
    c = '/' ∨ c ∈ p.toList := by
  unfold parent? at h
  split at h
  · next body hp =>
    split at h
    · cases h
    · obtain rfl := Option.some.inj h
      have hsubset : dropIdle (dropIdle (body.splitOn '/')).dropLast ⊆ body.splitOn '/' :=
        List.Subset.trans (dropIdle_subset _)
          (List.Subset.trans (List.dropLast_subset _) (dropIdle_subset _))
      rw [String.toList_ofList, List.mem_cons] at hc
      obtain hslash | hc := hc
      · exact .inl hslash
      · rw [hp]
        exact (mem_of_mem_intercalate_splitOn hsubset hc).imp_right (List.mem_cons_of_mem '/')
  · split at h
    · cases h
    · obtain rfl := Option.some.inj h
      have hsubset : dropIdleRelative (dropIdleRelative (p.toList.splitOn '/')).dropLast ⊆
          p.toList.splitOn '/' :=
        List.Subset.trans (dropIdleRelative_subset _)
          (List.Subset.trans (List.dropLast_subset _) (dropIdleRelative_subset _))
      rw [String.toList_ofList] at hc
      exact mem_of_mem_intercalate_splitOn hsubset hc

lemma braceFree_parent? {p q : String} (hp : BraceFree p) (h : parent? p = some q) :
    BraceFree q := by
  refine braceFree_iff.mpr fun c hc => ?_
  obtain rfl | hmem := mem_parent? h hc
  · decide
  · exact braceFree_iff.mp hp c hmem

end Path

end PipelineProfile
