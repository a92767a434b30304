import PipelineProfile.Line
import PipelineProfile.Proofs.Text.Search

/-!
# Readers and carriage returns

The carriage returns at the end of a line are cut off before the line is read.  Here it is shown
that they would do no harm: the readers of the plain lines, and the search for the tag, pay no
attention to them (`IgnoresReturns`).

A reader is a chain of steps, each of which takes something off the front of a text and hands the
rest on.  A carriage return is a blank, and is in no wording and no number.  So a step either leaves
the carriage returns where they are, or it skips them together with the blanks before them, and then
nothing is left that the steps behind it could read.  There is one rule for each kind of step, which
says that the chain ignores the carriage returns if the rest of it does.
-/

namespace PipelineProfile

namespace Text

/-- So many carriage returns. -/
def returns (n : Nat) : List Char := List.replicate n '\r'

lemma returns_succ (n : Nat) : returns (n + 1) = '\r' :: returns n := List.replicate_succ

variable {p : Char → Bool}

lemma takeWhile_append_returns (h : p '\r' = false) (s : List Char) (n : Nat) :
    (s ++ returns n).takeWhile p = s.takeWhile p := by
  induction s with
  | nil =>
    cases n with
    | zero => rfl
    | succ n => simp [returns_succ, h]
  | cons c s ih => simp only [List.cons_append, List.takeWhile_cons, ih]

lemma dropWhile_append_returns (h : p '\r' = false) (s : List Char) (n : Nat) :
    (s ++ returns n).dropWhile p = s.dropWhile p ++ returns n := by
  induction s with
  | nil =>
    cases n with
    | zero => rfl
    | succ n => simp [returns_succ, h]
  | cons c s ih =>
    simp only [List.cons_append, List.dropWhile_cons, ih]
    split <;> rfl

lemma isBlank_of_mem_returns {n : Nat} {c : Char} (h : c ∈ returns n) : isBlank c = true := by
  rw [List.eq_of_mem_replicate h]
  decide

lemma dropWhile_isBlank_returns (n : Nat) : (returns n).dropWhile isBlank = [] := by
  induction n with
  | zero => rfl
  | succ n ih => rw [returns_succ, List.dropWhile_cons_of_pos (by decide), ih]

/-- A fixed text without carriage returns leaves those behind it where they are. -/
lemma isPrefixOf?_append_returns {p : List Char} (hp : '\r' ∉ p) (s : List Char) (n : Nat) :
    p.isPrefixOf? (s ++ returns n) = (p.isPrefixOf? s).map (· ++ returns n) := by
  refine isPrefixOf?_append (fun c hc => ?_) s
  rwa [List.eq_of_mem_replicate (List.mem_of_mem_head? hc)]

end Text

open Text

namespace Line

/-- The digits behind the point that a text begins with, if it begins with one. -/
def placesOf : List Char → List Char
  | '.' :: behind => behind.takeWhile Char.isDigit
  | _ => []

/-- What follows the point and the digits behind it, if there are any. -/
def afterPlaces (s : List Char) : List Char :=
  if (placesOf s).isEmpty then s else s.drop ((placesOf s).length + 1)

lemma fraction?_eq (s : List Char) : fraction? s =
    if (s.takeWhile Char.isDigit).isEmpty then none
    else (Numeral.digits? 10 (s.takeWhile Char.isDigit ++ placesOf (s.dropWhile Char.isDigit))).map
      fun n => (⟨n, (placesOf (s.dropWhile Char.isDigit)).length⟩,
        afterPlaces (s.dropWhile Char.isDigit)) := rfl

lemma placesOf_cons_of_ne {c : Char} (hc : c ≠ '.') (s : List Char) : placesOf (c :: s) = [] := by
  unfold placesOf
  split
  · next heq => exact absurd (List.cons.inj heq).1 hc
  · rfl

lemma placesOf_append_returns (s : List Char) (n : Nat) : placesOf (s ++ returns n) = placesOf s := by
  cases s with
  | nil =>
    cases n with
    | zero => rfl
    | succ n => exact placesOf_cons_of_ne (by decide) _
  | cons c s =>
    by_cases hc : c = '.'
    · subst hc
      exact takeWhile_append_returns (by decide) s n
    · rw [List.cons_append, placesOf_cons_of_ne hc, placesOf_cons_of_ne hc]

lemma afterPlaces_append_returns (s : List Char) (n : Nat) :
    afterPlaces (s ++ returns n) = afterPlaces s ++ returns n := by
  rw [afterPlaces, afterPlaces, placesOf_append_returns]
  split
  · rfl
  · next hplaces =>
    have hlength : (placesOf s).length + 1 ≤ s.length := by
      cases s with
      | nil => exact absurd rfl hplaces
      | cons c s =>
        by_cases hc : c = '.'
        · subst hc
          exact Nat.succ_le_succ (List.takeWhile_prefix _).length_le
        · rw [placesOf_cons_of_ne hc] at hplaces
          exact absurd rfl hplaces
    exact List.drop_append_of_le_length hlength

end Line

/-- A reader pays no attention to carriage returns at the end of a text. -/
def IgnoresReturns {α : Type} (read : List Char → α) : Prop :=
  ∀ s n, read (s ++ returns n) = read s

/-! ## Chains of steps -/

namespace IgnoresReturns

variable {α β : Type}

lemma const (b : β) : IgnoresReturns fun _ => b := fun _ _ => rfl

lemma expect? {wording : String} (hwording : '\r' ∉ wording.toList) {k : List Char → Option β}
    (hk : IgnoresReturns k) : IgnoresReturns fun s => Line.expect? wording s >>= k := by
  intro s n
  simp only [Line.expect?, isPrefixOf?_append_returns hwording, Option.bind_eq_bind]
  cases wording.toList.isPrefixOf? s with
  | none => rfl
  | some r => exact hk r n

lemma skipBlanks {k : List Char → β} (hk : IgnoresReturns k) :
    IgnoresReturns fun s => k (Line.skipBlanks s) := by
  intro s n
  unfold Line.skipBlanks
  induction s with
  | nil =>
    change k ((returns n).dropWhile isBlank) = k []
    rw [dropWhile_isBlank_returns]
  | cons c s ih =>
    simp only [List.cons_append, List.dropWhile_cons]
    split
    · exact ih
    · exact hk (c :: s) n

lemma skipBlanks? {k : List Char → Option β} (hk : IgnoresReturns k) (hend : k [] = none) :
    IgnoresReturns fun s => Line.skipBlanks? s >>= k := by
  intro s n
  cases s with
  | nil =>
    cases n with
    | zero => rfl
    | succ n =>
      -- The first carriage return is the blank that must be there, and nothing is behind it.
      have hblank : Line.skipBlanks? (returns (n + 1)) = some [] := by
        rw [returns_succ, Line.skipBlanks?, if_pos (by decide), Line.skipBlanks,
          dropWhile_isBlank_returns]
      simp only [List.nil_append, hblank, Option.bind_eq_bind, Option.bind_some, hend]
      rfl
  | cons c s =>
    simp only [List.cons_append, Line.skipBlanks?]
    split
    · exact hk.skipBlanks s n
    · rfl

lemma count? {k : Nat × List Char → Option β} (hk : ∀ m, IgnoresReturns fun s => k (m, s)) :
    IgnoresReturns fun s => Line.count? s >>= k := by
  intro s n
  simp only [Line.count?, takeWhile_append_returns (by decide : isDecimalDigit '\r' = false),
    dropWhile_append_returns (by decide : isDecimalDigit '\r' = false)]
  cases s.takeWhile isDecimalDigit with
  | nil => rfl
  | cons c digits => exact hk _ _ n

lemma fraction? {k : Decimal.Literal × List Char → Option β}
    (hk : ∀ d, IgnoresReturns fun s => k (d, s)) :
    IgnoresReturns fun s => Line.fraction? s >>= k := by
  intro s n
  have hdigit : Char.isDigit '\r' = false := by decide
  simp only [Line.fraction?_eq, takeWhile_append_returns hdigit, dropWhile_append_returns hdigit,
    Line.placesOf_append_returns, Line.afterPlaces_append_returns]
  split
  · rfl
  · cases Numeral.digits? 10 (s.takeWhile Char.isDigit ++
        Line.placesOf (s.dropWhile Char.isDigit)) with
    | none => rfl
    | some m => exact hk _ _ n

/-- A search ignores the carriage returns if every attempt does. -/
lemma firstMatch {read : List Char → Option α} (h : IgnoresReturns read) :
    IgnoresReturns (Text.firstMatch read) := by
  have hend : ∀ n, Text.firstMatch read (returns n) = Text.firstMatch read [] := by
    intro n
    induction n with
    | zero => rfl
    | succ n ih =>
      have hread : read (returns (n + 1)) = read [] := h [] (n + 1)
      change (read (returns (n + 1))).or (Text.firstMatch read (returns n)) = read []
      rw [hread, ih]
      exact Option.or_self
  intro s n
  induction s with
  | nil => exact hend n
  | cons c s ih =>
    have hread : read (c :: (s ++ returns n)) = read (c :: s) := h (c :: s) n
    rw [List.cons_append, Text.firstMatch, Text.firstMatch, hread, ih]

end IgnoresReturns

/-! ## The plain lines -/

namespace Line

lemma ignoresReturns_runStats? : IgnoresReturns runStats? := by
  unfold runStats?
  refine .expect? (by decide) (.fraction? fun ipc => ?_)
  refine .skipBlanks? (.expect? (by decide) (.fraction? fun cpi => ?_)) rfl
  refine .skipBlanks? (.expect? (by decide) (.count? fun cycles => ?_)) rfl
  refine .skipBlanks? (.expect? (by decide) (.count? fun commits => ?_)) rfl
  exact .const _

lemma ignoresReturns_timeout? : IgnoresReturns timeout? := by
  unfold timeout?
  refine .expect? (by decide) (.count? fun cycles => ?_)
  exact .expect? (by decide) (.const _)

lemma ignoresReturns_selfTime? : IgnoresReturns selfTime? := by
  unfold selfTime?
  refine .expect? (by decide) (.skipBlanks (.expect? (by decide) ?_))
  exact .skipBlanks (.fraction? fun ms => .const _)

lemma ignoresReturns_hostTime? : IgnoresReturns hostTime? := by
  unfold hostTime?
  refine .expect? (by decide) (.skipBlanks (.expect? (by decide) ?_))
  refine .skipBlanks (.count? fun us => ?_)
  exact .skipBlanks (.expect? (by decide) (.const _))

end Line

/-! ## The tag -/

namespace Tag

/-- Blanks before a fixed text without carriage returns take none of those behind it with them. -/
lemma afterBlanks_append_returns (s : List Char) (n : Nat) :
    [']'].isPrefixOf? ((s ++ returns n).dropWhile isBlank) =
      ([']'].isPrefixOf? (s.dropWhile isBlank)).map (· ++ returns n) := by
  induction s with
  | nil =>
    rw [List.nil_append, dropWhile_isBlank_returns]
    rfl
  | cons c s ih =>
    simp only [List.cons_append, List.dropWhile_cons]
    split
    · exact ih
    · exact isPrefixOf?_append_returns (by decide) (c :: s) n

lemma after?_append_returns (t : Tag) (s : List Char) (n : Nat) :
    t.after? (s ++ returns n) = (t.after? s).map (· ++ returns n) := by
  have hname : '\r' ∉ t.name.toList := by cases t <;> decide
  rw [after?, after?, isPrefixOf?_append_returns hname]
  cases t.name.toList.isPrefixOf? s with
  | none => rfl
  | some r => exact afterBlanks_append_returns r n

lemma read?_cons_of_ne {c : Char} (hc : c ≠ '[') (s : List Char) : read? (c :: s) = none := by
  unfold read?
  split
  · next heq => exact absurd (List.cons.inj heq).1 hc
  · rfl

/-- What stands behind a text does not matter for the tag at its beginning, if it does not matter
for any tag. -/
lemma read?_cons_append {u : List Char}
    (h : ∀ (t : Tag) (s : List Char), t.after? (s ++ u) = (t.after? s).map (· ++ u)) (c : Char)
    (s : List Char) :
    read? (c :: s ++ u) = (read? (c :: s)).map fun found => (found.1, found.2 ++ u) := by
  by_cases hc : c = '['
  · subst hc
    simp only [List.cons_append, read?, h, List.map_findSome?]
    congr 1
    funext t
    simp only [Function.comp_apply, Option.map_map]
    rfl
  · rw [List.cons_append, read?_cons_of_ne hc, read?_cons_of_ne hc]
    rfl

lemma read?_append_returns (s : List Char) (n : Nat) :
    read? (s ++ returns n) = (read? s).map fun x => (x.1, x.2 ++ returns n) := by
  cases s with
  | nil =>
    cases n with
    | zero => rfl
    | succ n => rfl
  | cons c s => exact read?_cons_append (fun t s => after?_append_returns t s n) c s

end Tag

lemma firstMatch_map {α β : Type} (read : List Char → Option α) (k : α → β) (s : List Char) :
    (firstMatch read s).map k = firstMatch (fun r => (read r).map k) s := by
  induction s with
  | nil => rfl
  | cons c s ih => rw [firstMatch, Option.map_or, ih, firstMatch]

/-- What is made of a tag and the text behind it ignores the carriage returns if it does so for
every tag. -/
lemma Tag.ignoresReturns_find? {α : Type} {k : Tag × List Char → α}
    (hk : ∀ t, IgnoresReturns fun s => k (t, s)) : IgnoresReturns fun s => (find? s).map k := by
  have hread : IgnoresReturns fun s => (read? s).map k := by
    intro s n
    simp only [read?_append_returns, Option.map_map]
    cases read? s with
    | none => rfl
    | some x => exact congrArg some (hk x.1 x.2 n)
  intro s n
  simp only [find?, firstMatch_map]
  exact hread.firstMatch s n

end PipelineProfile
