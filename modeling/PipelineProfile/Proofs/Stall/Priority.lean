import Mathlib.Data.List.Basic
import PipelineProfile.Proofs.Line.Written
import PipelineProfile.Stall.Category

/-!
# The order of the categories

The conditions of the stall categories are asked in an order, and the first that holds decides.
Another order gives the same categories on all lines exactly if it keeps the order of every two
conditions, except perhaps for those of an empty front end and of a blocked decoder
(`firstOf_eq_iff_keepsPriority`).

If two orders disagree on a line, then two conditions hold on it and come in a different order
(`idxOf_lt_idxOf_of_find?`).  The two exceptions never hold together.  For the other direction there
has to be a line on which two given conditions hold and no others.  Every condition looks at a single
fact of the line (`holds_congr`), and only the two exceptions look at the same one
(`eq_or_of_key_eq`).  So two facts make such a line (`lineShowing`, `holds_lineShowing`).
-/

namespace PipelineProfile

/-- Whatever else satisfies the condition comes behind the first that does. -/
lemma idxOf_lt_idxOf_of_find? {α : Type} [DecidableEq α] {l : List α} {p : α → Bool} {a b : α}
    (h : l.find? p = some a) (hb : p b = true) (hne : a ≠ b) : l.idxOf a < l.idxOf b := by
  have ha : p a = true := List.find?_some h
  induction l with
  | nil => cases h
  | cons c l ih =>
    by_cases hc : p c = true
    · rw [List.find?_cons_of_pos hc] at h
      obtain rfl := Option.some.inj h
      rw [List.idxOf_cons_self, List.idxOf_cons_ne _ hne]
      exact Nat.succ_pos _
    · have hca : c ≠ a := fun heq => hc (heq ▸ ha)
      have hcb : c ≠ b := fun heq => hc (heq ▸ hb)
      rw [List.find?_cons_of_neg hc] at h
      rw [List.idxOf_cons_ne _ hca, List.idxOf_cons_ne _ hcb]
      exact Nat.succ_lt_succ (ih h)

namespace StallCategory

/-- The order of any two conditions is kept, except perhaps for those of an empty front end and of a
blocked decoder. -/
def KeepsPriority (order : List StallCategory) : Prop :=
  ∀ a ∈ priority, ∀ b ∈ priority, priority.idxOf a < priority.idxOf b →
    order.idxOf a < order.idxOf b ∨ a = frontendEmpty ∧ b = decodeBlocked

instance (order : List StallCategory) : Decidable (KeepsPriority order) :=
  inferInstanceAs (Decidable (∀ a ∈ priority, _))

/-! ## The fact that a condition looks at -/

/-- The key of the fact that the condition of a category looks at.  For `other`, which looks at none,
it is some other key. -/
def key : StallCategory → String
  | flushRecovery => "flush"
  | icacheMissWait => "ic_miss(v/r)"
  | dcacheMissWait => "dc_miss(v/r)"
  | robBackpressure => "rob_ready"
  | frontendEmpty | decodeBlocked => "dec(v/r)"
  | lsuRequestBlocked => "lsu_issue(v/r)"
  | other => "cycle"

/-- A value of that fact with which the condition holds. -/
def value : StallCategory → String
  | flushRecovery => "1"
  | robBackpressure | other => "0"
  | frontendEmpty => "0/1"
  | icacheMissWait | dcacheMissWait | decodeBlocked | lsuRequestBlocked => "1/0"

/-- Only the conditions of an empty front end and of a blocked decoder look at the same fact. -/
lemma eq_or_of_key_eq {a b : StallCategory} (h : a.key = b.key) :
    a = b ∨ a = frontendEmpty ∧ b = decodeBlocked ∨ a = decodeBlocked ∧ b = frontendEmpty := by
  revert h
  cases a <;> cases b <;> decide

/-- A condition looks at nothing but its fact. -/
lemma holds_congr {f g : Facts} (c : StallCategory) (h : f.get? c.key = g.get? c.key) :
    holds (.ofFacts f) c = holds (.ofFacts g) c := by
  cases c <;>
    simp only [key] at h <;>
    simp only [holds, StallSignals.ofFacts, StallSignals.handshake?, Facts.completeSlots?,
      Facts.flag?, Facts.num?, h]

/-! ## Lines on which two conditions hold -/

/-- The word of a line that shows a category. -/
def shown (c : StallCategory) : List Char := c.key.toList ++ '=' :: c.value.toList

/-- The facts of a line with nothing but that word. -/
def shownFacts (c : StallCategory) : Facts :=
  ⟨[{ key := c.key, value := c.value, span := c.value }]⟩

/-- The text of a line that shows two categories. -/
def lineShowing (a b : StallCategory) : List Char := [' '] ++ (a.shown ++ ([' '] ++ (b.shown ++ [])))

lemma holds_shownFacts {a c : StallCategory} (ha : a ∈ priority) (hc : c ∈ priority) :
    holds (.ofFacts a.shownFacts) c = decide (c = a) := by
  have hall : ∀ a ∈ priority, ∀ c ∈ priority, holds (.ofFacts a.shownFacts) c = decide (c = a) := by
    decide
  exact hall a ha c hc

lemma isKey_key (c : StallCategory) : Facts.Grammar.isKey c.key.toList = true := by
  cases c <;> decide

lemma isWord_value (c : StallCategory) : Text.IsWord c.value.toList := by
  have hall : (c.value.toList.all fun d => !Text.isBlank d) = true := by cases c <;> decide
  constructor
  · cases c <;> decide
  · simpa using List.all_eq_true.mp hall

lemma factOfWord?_shown (c : StallCategory) (t : List Char) :
    Facts.factOfWord? c.shown t = some
      { key := c.key
        value := c.value
        span := String.ofList (c.value.toList ++ Facts.spanBehind t) } := by
  rw [Facts.factOfWord?, shown, Facts.splitWord?_fact (isKey_key c) (isWord_value c).ne_nil]
  simp

/-- The line gives what the second category shows, and under another key what the first one shows. -/
lemma get?_lineShowing (a b : StallCategory) (key : String) :
    (Facts.read (lineShowing a b)).get? key =
      if b.key = key then some b.value else a.shownFacts.get? key := by
  have hgap : Text.IsGap [' '] := Text.isGap_singleton Text.isBlank_space
  have hword : ∀ c : StallCategory, Text.IsWord c.shown := fun c =>
    Facts.isWord_fact (isKey_key c) (isWord_value c)
  have hspace : Text.EndsWord ([' '] ++ (b.shown ++ [])) := hgap.endsWord
  rw [Facts.get?, Facts.last?, lineShowing, Facts.occurrences_word hgap (hword a) hspace,
    Facts.occurrences_word hgap (hword b) Text.isGap_nil.endsWord,
    Facts.occurrences_gap Text.isGap_nil, factOfWord?_shown, factOfWord?_shown]
  by_cases hb : b.key = key
  · simp [hb]
  · by_cases ha : a.key = key
    · simp [ha, hb, Facts.get?, Facts.last?, shownFacts]
    · simp [ha, hb, Facts.get?, Facts.last?, shownFacts]

/-- On the line the conditions of the two categories hold and no others. -/
lemma holds_lineShowing {a b c : StallCategory} (ha : a ∈ priority) (hb : b ∈ priority)
    (hkey : a.key ≠ b.key) (hc : c ∈ priority) :
    holds (.ofFacts (.read (lineShowing a b))) c = true ↔ c = a ∨ c = b := by
  by_cases hsame : b.key = c.key
  · have hget : (Facts.read (lineShowing a b)).get? c.key = b.shownFacts.get? c.key := by
      rw [get?_lineShowing, if_pos hsame]
      simp [Facts.get?, Facts.last?, shownFacts, hsame]
    have hne : c ≠ a := by
      rintro rfl
      exact hkey hsame.symm
    rw [holds_congr c hget, holds_shownFacts hb hc]
    simp [hne]
  · have hget : (Facts.read (lineShowing a b)).get? c.key = a.shownFacts.get? c.key := by
      rw [get?_lineShowing, if_neg hsame]
    have hne : c ≠ b := by
      rintro rfl
      exact hsame rfl
    rw [holds_congr c hget, holds_shownFacts ha hc]
    simp [hne]

/-! ## Orders -/

/-- An empty front end has no instruction for the decoder to be blocked on. -/
lemma not_decodeBlocked_of_frontendEmpty {s : StallSignals} (h : holds s frontendEmpty = true) :
    holds s decodeBlocked = false := by
  unfold holds at h ⊢
  cases hdecode : s.decode with
  | none => rfl
  | some handshake => simp_all [Handshake.blocked]

variable {order : List StallCategory} {s : StallSignals}

/-- The first of two conditions decides if no others hold. -/
lemma firstOf_eq_of_holds {a b : StallCategory} (ha : a ∈ order)
    (hholds : ∀ c ∈ order, holds s c = true ↔ c = a ∨ c = b)
    (hfirst : ¬ order.idxOf b < order.idxOf a) : firstOf order s = a := by
  have hsome : (order.find? fun c => holds s c).isSome :=
    List.find?_isSome.mpr ⟨a, ha, (hholds a ha).mpr (.inl rfl)⟩
  obtain ⟨c, hc⟩ := Option.isSome_iff_exists.mp hsome
  rw [firstOf, hc, Option.getD_some]
  by_contra hne
  have hcb : c = b :=
    ((hholds c (List.mem_of_find?_eq_some hc)).mp (List.find?_some hc)).resolve_left hne
  rw [hcb] at hc hne
  exact hfirst (idxOf_lt_idxOf_of_find? hc ((hholds a ha).mpr (.inl rfl)) hne)

/-- An order that keeps the priority gives the same category for all signals. -/
lemma firstOf_eq_ofSignals (hperm : order.Perm priority) (hkeeps : KeepsPriority order)
    (s : StallSignals) : firstOf order s = ofSignals s := by
  rw [ofSignals, firstOf, firstOf]
  cases hfirst : order.find? fun c => holds s c with
  | none =>
    have hnone : (priority.find? fun c => holds s c) = none := by
      rw [List.find?_eq_none] at hfirst ⊢
      exact fun c hc => hfirst c (hperm.mem_iff.mpr hc)
    rw [hnone]
  | some c =>
    have hc : holds s c = true := List.find?_some hfirst
    have hmem : c ∈ priority := hperm.mem_iff.mp (List.mem_of_find?_eq_some hfirst)
    have hsome : (priority.find? fun c => holds s c).isSome := List.find?_isSome.mpr ⟨c, hmem, hc⟩
    obtain ⟨d, hd⟩ := Option.isSome_iff_exists.mp hsome
    have hdholds : holds s d = true := List.find?_some hd
    rw [hd]
    by_contra hne
    -- Both conditions hold, and each comes first in one of the orders.
    have hcd : c ≠ d := fun h => hne (by rw [h])
    have horder : order.idxOf c < order.idxOf d := idxOf_lt_idxOf_of_find? hfirst hdholds hcd
    have hpriority : priority.idxOf d < priority.idxOf c :=
      idxOf_lt_idxOf_of_find? hd hc (Ne.symm hcd)
    rcases hkeeps d (List.mem_of_find?_eq_some hd) c hmem hpriority with hlt | ⟨rfl, rfl⟩
    · omega
    · rw [not_decodeBlocked_of_frontendEmpty hdholds] at hc
      cases hc

/-- Two categories whose order is not kept are told apart by a line. -/
lemma firstOf_lineShowing_ne (hperm : order.Perm priority) {a b : StallCategory} (ha : a ∈ priority)
    (hb : b ∈ priority) (hkey : a.key ≠ b.key) (hpriority : priority.idxOf a < priority.idxOf b)
    (horder : ¬ order.idxOf a < order.idxOf b) :
    firstOf order (.ofFacts (.read (lineShowing a b))) ≠
      ofSignals (.ofFacts (.read (lineShowing a b))) := by
  have hfirst : firstOf order (.ofFacts (.read (lineShowing a b))) = b :=
    firstOf_eq_of_holds (hperm.mem_iff.mpr hb)
      (fun c hc => (holds_lineShowing ha hb hkey (hperm.mem_iff.mp hc)).trans or_comm) horder
  have hcategory : ofSignals (.ofFacts (.read (lineShowing a b))) = a :=
    firstOf_eq_of_holds ha (fun c hc => holds_lineShowing ha hb hkey hc) (by omega)
  rw [hfirst, hcategory]
  rintro rfl
  exact hkey rfl

/-- Another order of the conditions gives the same categories on all lines exactly if it keeps the
order of any two, except perhaps for those of an empty front end and of a blocked decoder. -/
theorem firstOf_eq_iff_keepsPriority (hperm : order.Perm priority) :
    (∀ region : List Char, firstOf order (.ofFacts (.read region)) =
      ofSignals (.ofFacts (.read region))) ↔ KeepsPriority order := by
  constructor
  · intro hsame a ha b hb hpriority
    by_contra hnot
    rw [not_or] at hnot
    obtain ⟨horder, hexception⟩ := hnot
    have hkey : a.key ≠ b.key := by
      intro hkey
      rcases eq_or_of_key_eq hkey with rfl | hexception' | ⟨rfl, rfl⟩
      · exact absurd hpriority (Nat.lt_irrefl _)
      · exact hexception hexception'
      · exact absurd hpriority (by decide)
    exact firstOf_lineShowing_ne hperm ha hb hkey hpriority horder (hsame (lineShowing a b))
  · intro hkeeps region
    exact firstOf_eq_ofSignals hperm hkeeps _

/-- The order with the two exceptions exchanged. -/
def exchanged : List StallCategory :=
  [flushRecovery, icacheMissWait, dcacheMissWait, robBackpressure, decodeBlocked, frontendEmpty,
    lsuRequestBlocked]

/-- Exchanging the two exceptions changes the category of no line. -/
theorem firstOf_exchanged : exchanged.Perm priority ∧ KeepsPriority exchanged ∧
    ∀ region : List Char, firstOf exchanged (.ofFacts (.read region)) =
      ofSignals (.ofFacts (.read region)) := by
  have hperm : exchanged.Perm priority := by decide
  have hkeeps : KeepsPriority exchanged := by decide
  exact ⟨hperm, hkeeps, (firstOf_eq_iff_keepsPriority hperm).mpr hkeeps⟩

end StallCategory

end PipelineProfile
