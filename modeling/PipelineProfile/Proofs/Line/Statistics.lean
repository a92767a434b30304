import PipelineProfile.Proofs.Line.TagSearch
import PipelineProfile.Proofs.Number.Reading

/-!
# The final statistics on a line

The final statistics are written as four figures, each behind its name and with blanks between them
(`RunStats.IsWritten`).  They are read wherever they stand in a line (`read_statistics`).  A tag or
another plain line on the same line, before or behind them, does not matter, because the statistics
are looked for first.  Nor do other statistics behind them, because the leftmost place counts.

Every step of the reader takes exactly the part of the text that is meant for it, because the text
behind that part does not go on with the characters of the part (`EndsRun`).  There is one lemma for
each step: `skipBlanks?_append`, `count?_append` and `fraction?_append`.  In the text before the
statistics nothing is read.  Their first character stands nowhere else in the name of the first
figure, so that the text before them and the name do not make another such name together
(`isPrefix_of_isPrefix_append`).
-/

namespace PipelineProfile

open Text

/-! ## Statistics as they are written -/

/-- A decimal fraction as it is written: digits, or digits, a point and more digits. -/
inductive Decimal.Literal.IsWritten : Decimal.Literal → List Char → Prop
  | whole {n : Nat} {ds : List Char} (h : Numeral.Digits 10 n ds) : IsWritten ⟨n, 0⟩ ds
  | point {n : Nat} {ds fs : List Char} (hds : ds ≠ []) (hfs : fs ≠ [])
      (h : Numeral.Digits 10 n (ds ++ fs)) : IsWritten ⟨n, fs.length⟩ (ds ++ '.' :: fs)

/-- A separator: blanks, and at least one. -/
structure Text.IsSeparator (g : List Char) : Prop where
  ne_nil : g ≠ []
  isGap : IsGap g

/-- The final statistics as they are written. -/
inductive RunStats.IsWritten : RunStats → List Char → Prop
  | mk {ipc cpi : Decimal.Literal} {cycles commits : UInt64} {a b c n g₁ g₂ g₃ : List Char}
      (ha : ipc.IsWritten a) (h₁ : IsSeparator g₁) (hb : cpi.IsWritten b) (h₂ : IsSeparator g₂)
      (hc : Numeral.Digits 10 cycles.toNat c) (h₃ : IsSeparator g₃)
      (hn : Numeral.Digits 10 commits.toNat n) :
      IsWritten ⟨ipc.toFloat, cpi.toFloat, cycles.toNat, commits.toNat⟩
        ("IPC=".toList ++ a ++ g₁ ++ "CPI=".toList ++ b ++ g₂ ++ "cycles=".toList ++ c ++ g₃ ++
          "commits=".toList ++ n)

/-! ## Where a run of characters ends -/

namespace Text

/-- The text does not go on with such a character. -/
def EndsRun (p : Char → Bool) (t : List Char) : Prop := ∀ c ∈ t.head?, p c = false

variable {p : Char → Bool} {r t : List Char}

lemma endsRun_cons {c : Char} (hc : p c = false) (t : List Char) : EndsRun p (c :: t) := by
  intro d hd
  obtain rfl : c = d := Option.some.inj hd
  exact hc

lemma takeWhile_append_of_endsRun (hr : ∀ c ∈ r, p c = true) (ht : EndsRun p t) :
    (r ++ t).takeWhile p = r := by
  have hnil : t.takeWhile p = [] := by
    cases t with
    | nil => rfl
    | cons c t => exact List.takeWhile_cons_of_neg (by simp [ht c rfl])
  rw [List.takeWhile_append_of_pos hr, hnil, List.append_nil]

lemma dropWhile_append_of_endsRun (hr : ∀ c ∈ r, p c = true) (ht : EndsRun p t) :
    (r ++ t).dropWhile p = t := by
  have hsplit := List.takeWhile_append_dropWhile (p := p) (l := r ++ t)
  rw [takeWhile_append_of_endsRun hr ht] at hsplit
  exact List.append_cancel_left hsplit

/-- A blank is not a digit of any script. -/
lemma isDecimalDigit_of_isBlank {c : Char} (hc : isBlank c = true) : isDecimalDigit c = false := by
  have hapart : ∀ r ∈ blankRanges, ∀ z ∈ digitZeros, r.2 < z ∨ z + 10 ≤ r.1 := by decide
  obtain ⟨r, hr, hrange⟩ := List.any_eq_true.mp hc
  apply List.any_eq_false.mpr
  intro z hz hdigit
  simp only [Bool.and_eq_true, decide_eq_true_eq] at hrange hdigit
  rcases hapart r hr z hz with hbefore | hafter
  · omega
  · omega

lemma IsSeparator.endsRun {g : List Char} (hg : IsSeparator g)
    (hp : ∀ c, isBlank c = true → p c = false) (t : List Char) : EndsRun p (g ++ t) := by
  obtain ⟨c, g', rfl⟩ := List.exists_cons_of_ne_nil hg.ne_nil
  exact endsRun_cons (hp c (hg.isGap c (List.mem_cons_self ..))) _

/-- A text whose first character does not occur in it again begins only where it is meant to: not in
the text before it, if it does not occur there. -/
lemma isPrefix_of_isPrefix_append {c : Char} {w v r : List Char} (hc : c ∉ w) (hv : v ≠ [])
    (h : c :: w <+: v ++ (c :: r)) : c :: w <+: v := by
  obtain ⟨d, v, rfl⟩ := List.exists_cons_of_ne_nil hv
  rw [List.cons_append, List.cons_prefix_cons] at h
  obtain ⟨rfl, u, hu⟩ := h
  have hafter : w.isPrefixOf? (v ++ c :: r) = some u :=
    List.isPrefixOf?_eq_some_iff_append_eq.mpr hu
  rw [isPrefixOf?_append_cons hc] at hafter
  obtain ⟨u', hu', -⟩ := Option.map_eq_some_iff.mp hafter
  rw [List.cons_prefix_cons]
  exact ⟨rfl, u', List.append_eq_of_isPrefixOf?_eq_some hu'⟩

end Text

lemma Numeral.Digits.isDigit {n : Nat} {ds : List Char} (h : Digits 10 n ds) :
    ∀ c ∈ ds, c.isDigit = true := h.forall_mem (by decide)

namespace Line

/-! ## The steps of the reader -/

lemma expect?_append (wording : String) (t : List Char) :
    expect? wording (wording.toList ++ t) = some t := isPrefixOf?_self_append _ _

lemma skipBlanks?_append {g t : List Char} (hg : IsSeparator g) (ht : EndsRun isBlank t) :
    skipBlanks? (g ++ t) = some t := by
  obtain ⟨c, g', rfl⟩ := List.exists_cons_of_ne_nil hg.ne_nil
  obtain ⟨hc, hg'⟩ := List.forall_mem_cons.mp hg.isGap
  rw [List.cons_append, skipBlanks?, if_pos hc, skipBlanks, dropWhile_append_of_endsRun hg' ht]

/-- A count is read up to the first character that is not a digit. -/
lemma count?_append {n : UInt64} {ds t : List Char} (hds : Numeral.Digits 10 n.toNat ds)
    (ht : EndsRun isDecimalDigit t) : count? (ds ++ t) = some (n.toNat, t) := by
  have hdigits : ∀ c ∈ ds, isDecimalDigit c = true := fun c hc =>
    isDecimalDigit_of_isDigit (hds.isDigit c hc)
  have hvalue : Numeral.value ds = n.toNat := Numeral.value_of_spells n.toNat_lt (.decimal hds)
  have hne : ds ≠ [] := hds.ne_nil
  rw [count?, takeWhile_append_of_endsRun hdigits ht, dropWhile_append_of_endsRun hdigits ht]
  split
  · exact absurd rfl hne
  · rw [hvalue]

/-- A fraction is read up to the first character that is neither a digit nor a point. -/
lemma fraction?_append {d : Decimal.Literal} {a t : List Char} (ha : d.IsWritten a)
    (hdigit : EndsRun Char.isDigit t) (hpoint : EndsRun (fun c => c = '.') t) :
    fraction? (a ++ t) = some (d, t) := by
  have hplaces : placesOf t = [] := by
    cases t with
    | nil => rfl
    | cons c t => exact placesOf_cons_of_ne (by simpa using hpoint c rfl) t
  rw [fraction?_eq]
  cases ha with
  | whole h =>
    have hne : a.isEmpty = false := by simpa using h.ne_nil
    rw [takeWhile_append_of_endsRun h.isDigit hdigit, dropWhile_append_of_endsRun h.isDigit hdigit,
      afterPlaces, hplaces, List.append_nil, h.digits?_eq, hne]
    rfl
  | @point n ds fs hds hfs h =>
    have hfront : ∀ c ∈ ds, c.isDigit = true := fun c hc => h.isDigit c (List.mem_append_left _ hc)
    have hback : ∀ c ∈ fs, c.isDigit = true := fun c hc => h.isDigit c (List.mem_append_right _ hc)
    have hend : EndsRun Char.isDigit ('.' :: (fs ++ t)) := endsRun_cons (by decide) _
    have htake : placesOf ('.' :: (fs ++ t)) = fs := takeWhile_append_of_endsRun hback hdigit
    have hdrop : afterPlaces ('.' :: (fs ++ t)) = t := by
      have hne : fs.isEmpty = false := by simpa using hfs
      rw [afterPlaces, htake, hne]
      simp
    have hne : ds.isEmpty = false := by simpa using hds
    rw [List.append_assoc, List.cons_append, takeWhile_append_of_endsRun hfront hend,
      dropWhile_append_of_endsRun hfront hend, htake, hdrop, h.digits?_eq, hne]
    rfl

/-! ## The statistics -/

/-- Statistics that are written at the beginning of a text are read. -/
lemma runStats?_append {stats : RunStats} {text t : List Char} (htext : stats.IsWritten text)
    (ht : EndsRun isDecimalDigit t) : runStats? (text ++ t) = some stats := by
  have hdigit : ∀ c, isBlank c = true → c.isDigit = false := by
    intro c hc
    apply Bool.eq_false_iff.mpr
    intro hd
    have hdecimal := isDecimalDigit_of_isDigit hd
    rw [isDecimalDigit_of_isBlank hc] at hdecimal
    cases hdecimal
  have hpoint : ∀ c, isBlank c = true → decide (c = '.') = false := by
    intro c hc
    rw [decide_eq_false_iff_not]
    rintro rfl
    exact absurd hc (by decide)
  cases htext with
  | @mk ipc cpi cycles commits a b c n g₁ g₂ g₃ ha h₁ hb h₂ hc h₃ hn =>
    have hcpi : ∀ t, EndsRun isBlank ("CPI=".toList ++ t) := fun t =>
      endsRun_cons (c := 'C') (by decide) _
    have hcycles : ∀ t, EndsRun isBlank ("cycles=".toList ++ t) := fun t =>
      endsRun_cons (c := 'c') (by decide) _
    have hcommits : ∀ t, EndsRun isBlank ("commits=".toList ++ t) := fun t =>
      endsRun_cons (c := 'c') (by decide) _
    simp only [List.append_assoc, runStats?, expect?_append, Option.bind_eq_bind, Option.bind_some,
      fraction?_append ha (h₁.endsRun hdigit _) (h₁.endsRun hpoint _),
      skipBlanks?_append h₁ (hcpi _),
      fraction?_append hb (h₂.endsRun hdigit _) (h₂.endsRun hpoint _),
      skipBlanks?_append h₂ (hcycles _),
      count?_append hc (h₃.endsRun (fun _ => isDecimalDigit_of_isBlank) _),
      skipBlanks?_append h₃ (hcommits _), count?_append hn ht]
    rfl

/-- What is read as statistics begins with the name of their first figure. -/
lemma isPrefix_of_runStats? {s : List Char} {stats : RunStats} (h : runStats? s = some stats) :
    "IPC=".toList <+: s := by
  obtain ⟨r, hr, -⟩ := Option.bind_eq_some_iff.mp h
  exact ⟨r, List.append_eq_of_isPrefixOf?_eq_some hr⟩

/-- Before the statistics nothing is read as statistics. -/
lemma runStats?_eq_none {v r : List Char} (hv : v ≠ []) (hbefore : ¬ "IPC=".toList <:+: v) :
    runStats? (v ++ ("IPC=".toList ++ r)) = none := by
  apply Option.eq_none_iff_forall_ne_some.mpr
  intro stats hstats
  apply hbefore
  have hbegins : "IPC=".toList <+: v ++ ("IPC=".toList ++ r) := isPrefix_of_runStats? hstats
  exact (isPrefix_of_isPrefix_append (w := "PC=".toList) (by decide) hv hbegins).isInfix

/-- **The final statistics are read wherever they stand in a line.**  The figures are read as they
are written, whatever blanks stand between them, if the text before them does not have the name of
the first figure and the last figure ends before the text behind them goes on.  Nothing else is
asked of these two texts: they may have tags, other plain lines, and behind the statistics even
other statistics. -/
theorem read_statistics {stats : RunStats} {before text after : List Char}
    (hbefore : ¬ "IPC=".toList <:+: before) (htext : stats.IsWritten text)
    (hafter : ∀ c ∈ after.head?, isDecimalDigit c = false) :
    read (String.ofList (before ++ (text ++ after))) = .runStats stats := by
  have hread : runStats? (text ++ after) = some stats := runStats?_append htext hafter
  have hsearch : firstMatch runStats? (before ++ (text ++ after)) = some stats := by
    obtain ⟨r, hr⟩ := isPrefix_of_runStats? hread
    rw [firstMatch_append]
    · exact firstMatch_eq_some_iff.mpr ⟨[], text ++ after, rfl, hread, fun _ _ _ h => by cases h⟩
    · intro v hv hne
      rw [← hr]
      exact runStats?_eq_none hne fun hin => hbefore (hin.trans hv.isInfix)
  rw [read, String.toList_ofList]
  simp only [hsearch]

/-! ### Statistics among other text -/

/-- The statistics of a run of a hundred cycles. -/
def hundredCycles : RunStats :=
  ⟨(Decimal.Literal.mk 50 2).toFloat, (Decimal.Literal.mk 2 0).toFloat, 100, 50⟩

/-- These statistics, with zeros in front of some figures and with different blanks. -/
def hundredCyclesText : List Char := "IPC=0.50  CPI=2\tcycles=0100 commits=050".toList

/-- A tag, half of a name, and a timeout. -/
def timeoutNoise : List Char := "[flush ] IPC TIMEOUT after 7 cycles ".toList

/-- A host time, a tag, and other statistics. -/
def hostTimeNoise : List Char :=
  " host time spent = 3us [stall ] IPC=9 CPI=9 cycles=9 commits=9".toList

/-- The statistics are read between these two texts. -/
theorem read_hundredCycles :
    ¬ "IPC=".toList <:+: timeoutNoise ∧ hundredCycles.IsWritten hundredCyclesText ∧
      (∀ c ∈ hostTimeNoise.head?, isDecimalDigit c = false) ∧
      read (String.ofList (timeoutNoise ++ (hundredCyclesText ++ hostTimeNoise))) =
        .runStats hundredCycles := by
  have hbefore : ¬ "IPC=".toList <:+: timeoutNoise := by decide
  have hafter : ∀ c ∈ hostTimeNoise.head?, isDecimalDigit c = false := by
    intro c hc
    obtain rfl : ' ' = c := Option.some.inj hc
    decide
  have hipc : Numeral.Digits 10 50 ("0".toList ++ "50".toList) :=
    Numeral.digits?_eq_some_iff.mp (by decide)
  have hcpi : Numeral.Digits 10 2 "2".toList := Numeral.digits?_eq_some_iff.mp (by decide)
  have hcycles : Numeral.Digits 10 (100 : UInt64).toNat "0100".toList :=
    Numeral.digits?_eq_some_iff.mp (by decide)
  have hcommits : Numeral.Digits 10 (50 : UInt64).toNat "050".toList :=
    Numeral.digits?_eq_some_iff.mp (by decide)
  have hseparator : ∀ g ∈ ["  ".toList, "\t".toList, " ".toList], IsSeparator g := by
    have hblanks : ∀ g ∈ ["  ".toList, "\t".toList, " ".toList],
        g ≠ [] ∧ g.all isBlank = true := by decide
    intro g hg
    obtain ⟨hne, hall⟩ := hblanks g hg
    exact ⟨hne, List.all_eq_true.mp hall⟩
  have htext : hundredCycles.IsWritten hundredCyclesText :=
    .mk (.point (by decide) (by decide) hipc) (hseparator "  ".toList (by simp)) (.whole hcpi)
      (hseparator "\t".toList (by simp)) hcycles (hseparator " ".toList (by simp)) hcommits
  exact ⟨hbefore, htext, hafter, read_statistics hbefore htext hafter⟩

end Line

end PipelineProfile
