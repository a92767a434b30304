import PipelineProfile.Proofs.Number.Spelling
import PipelineProfile.Proofs.Tally.Entries
import PipelineProfile.Proofs.Trace.Sources

/-!
# The hottest words

The hotspots of a run are the addresses and the instruction words that retired most often.  Without
a ranking from the simulator they are counted from the commit lines, put in order and cut off at a
limit.

`Hotspot.IsCounting` is a count of the words that occur, in any order, and `Hotspot.Outranks` the
order of a ranking: the greater count first, and of equal counts the smaller word.  No two words are
the same, so this order is strict and there is only one way to sort a count of the words
(`IsCounting.eq_of_sorted`).  It does not matter in which order the words come out of the count, nor
how they are sorted.

`Hotspot.IsTop` says what the first words of that order are.  All of it follows from the sorted
count before it is cut off (`isTop_take`), and the main result is `hotspots_areTop`.
-/

namespace PipelineProfile

/-! ## What the lines say -/

/-- The machine word under a key of a text, if the text is a commit line with all four facts. -/
def Commit.lineWord? (key : String) (text : String) : Option Nat :=
  ((Line.read text).facts? .commit).bind fun f =>
    if f.hasCommit then (f.num? key).map fun n => n % UInt32.size else none

/-- The machine words under a key of the commit lines, one for each line. -/
def retiredWords (key : String) (lines : List String) : List Nat :=
  lines.filterMap (Commit.lineWord? key)

namespace Trace

lemma map_pc_commits_ofLines (lines : List String) :
    (ofLines lines).commits.map (fun c => c.pc.toNat) = retiredWords "pc" lines :=
  map_commits_ofLines (fun _ => Commit.map_ofFacts? fun _ hc =>
    (Commit.num?_of_ofFacts? hc).2.2.1) lines

lemma map_inst_commits_ofLines (lines : List String) :
    (ofLines lines).commits.map (fun c => c.inst.toNat) = retiredWords "inst" lines :=
  map_commits_ofLines (fun _ => Commit.map_ofFacts? fun _ hc =>
    (Commit.num?_of_ofFacts? hc).2.2.2) lines

end Trace

namespace Hotspot

/-! ## Counts of words and their order -/

/-- One hotspot comes before another: it is hit more often, or as often and has the smaller
word. -/
def Outranks (a b : Hotspot) : Prop := b.count < a.count ∨ a.count = b.count ∧ a.word < b.word

/-- The hotspots are the words that occur, each once and with how often it does, in any order. -/
structure IsCounting (words : List Nat) (es : List Hotspot) : Prop where
  nodup : (es.map word).Nodup
  mem_iff : ∀ h, h ∈ es ↔ h.word ∈ words ∧ h.count = words.count h.word

/-- The hotspots are the first ones of a ranking of the words, up to a limit. -/
structure IsTop (words : List Nat) (limit : Nat) (hs : List Hotspot) : Prop where
  length : hs.length = min limit words.toFinset.card
  /-- The texts of the words are different too. -/
  texts : (hs.map text).Nodup
  occurs : ∀ h ∈ hs, h.word ∈ words
  count : ∀ h ∈ hs, h.count = words.count h.word
  ordered : hs.Pairwise Outranks
  /-- Every word that is not listed would come after those that are. -/
  unlisted : ∀ w ∈ words, w ∉ hs.map word → ∀ h ∈ hs, h.Outranks ⟨w, words.count w⟩
  sum_le : (hs.map Hotspot.count).sum ≤ words.length
  sum_eq : words.toFinset.card ≤ limit → (hs.map Hotspot.count).sum = words.length
  /-- The words may be counted and sorted in any way. -/
  unique : ∀ es rs : List Hotspot, IsCounting words es → rs.Perm es →
    (rs.Pairwise fun a b => ¬ b.Outranks a) → rs.take limit = hs

lemma Outranks.asymm {a b : Hotspot} (hab : a.Outranks b) : ¬ b.Outranks a := by
  unfold Outranks at hab ⊢
  omega

/-- Neither of two hotspots comes before the other only if they are the same. -/
lemma eq_of_not_outranks {a b : Hotspot} (hab : ¬ a.Outranks b) (hba : ¬ b.Outranks a) : a = b := by
  unfold Outranks at hab hba
  obtain ⟨w, m⟩ := a
  obtain ⟨v, n⟩ := b
  dsimp only at hab hba
  have hcount : m = n := by omega
  have hword : w = v := by omega
  rw [hcount, hword]

namespace IsCounting

variable {words : List Nat} {es rs : List Hotspot}

lemma perm (h : IsCounting words es) (hperm : rs.Perm es) : IsCounting words rs where
  nodup := (hperm.map word).nodup_iff.mpr h.nodup
  mem_iff a := by rw [hperm.mem_iff, h.mem_iff]

/-- There is only one sorted count. -/
lemma eq_of_sorted (hes : IsCounting words es) (hrs : IsCounting words rs)
    (hes' : es.Pairwise fun a b => ¬ b.Outranks a) (hrs' : rs.Pairwise fun a b => ¬ b.Outranks a) :
    es = rs := by
  have hperm : es.Perm rs := by
    rw [List.perm_ext_iff_of_nodup (.of_map word hes.nodup) (.of_map word hrs.nodup)]
    exact fun a => by rw [hes.mem_iff, hrs.mem_iff]
  exact hperm.eq_of_pairwise (fun a b _ _ hba hab => eq_of_not_outranks hab hba) hes' hrs'

lemma toFinset_map_word (h : IsCounting words es) : (es.map word).toFinset = words.toFinset := by
  ext w
  rw [List.mem_toFinset, List.mem_toFinset, List.mem_map]
  constructor
  · rintro ⟨a, ha, rfl⟩
    exact ((h.mem_iff a).mp ha).1
  · exact fun hw => ⟨⟨w, words.count w⟩, (h.mem_iff _).mpr ⟨hw, rfl⟩, rfl⟩

lemma length_eq (h : IsCounting words es) : es.length = words.toFinset.card := by
  rw [← h.toFinset_map_word, List.toFinset_card_of_nodup h.nodup, List.length_map]

/-- The counts of all words together are the occurrences. -/
lemma sum_eq (h : IsCounting words es) : (es.map Hotspot.count).sum = words.length := by
  have hcounts : es.map Hotspot.count =
      (es.map word).map fun w => words.countP fun v => v = w := by
    rw [List.map_map]
    refine List.map_congr_left fun a ha => ?_
    rw [((h.mem_iff a).mp ha).2, List.count]
    exact List.countP_congr fun v _ => by simp
  rw [hcounts, sum_map_countP (fun v => v) h.nodup, List.countP_eq_length]
  intro w hw
  rw [decide_eq_true_eq, ← List.mem_toFinset, h.toFinset_map_word, List.mem_toFinset]
  exact hw

end IsCounting

/-! ## Cutting off -/

/-- The texts of machine words are different if the words are. -/
lemma nodup_texts {hs : List Hotspot} (hbound : ∀ h ∈ hs, h.word < Numeral.bound)
    (hnodup : (hs.map word).Nodup) : (hs.map text).Nodup := by
  have htexts : hs.map text = (hs.map word).map Numeral.word := by
    rw [List.map_map]
    rfl
  rw [htexts]
  refine hnodup.map_on fun w hw v hv heq => ?_
  obtain ⟨a, ha, rfl⟩ := List.mem_map.mp hw
  obtain ⟨b, hb, rfl⟩ := List.mem_map.mp hv
  exact Numeral.word_injective (hbound a ha) (hbound b hb) heq

/-- What a sorted count begins with is the top of the ranking. -/
lemma isTop_take {words : List Nat} {es : List Hotspot} (hwords : ∀ w ∈ words, w < Numeral.bound)
    (hcounting : IsCounting words es) (hsorted : es.Pairwise Outranks) (limit : Nat) :
    IsTop words limit (es.take limit) := by
  have hmem : ∀ h ∈ es.take limit, h.word ∈ words ∧ h.count = words.count h.word := fun h hh =>
    (hcounting.mem_iff h).mp (List.mem_of_mem_take hh)
  have hnodup : ((es.take limit).map word).Nodup :=
    hcounting.nodup.sublist ((List.take_sublist limit es).map word)
  have hcut := hsorted
  rw [← List.take_append_drop limit es, List.pairwise_append] at hcut
  exact {
    length := by rw [List.length_take, hcounting.length_eq]
    texts := nodup_texts (fun h hh => hwords h.word (hmem h hh).1) hnodup
    occurs := fun h hh => (hmem h hh).1
    count := fun h hh => (hmem h hh).2
    ordered := hcut.1
    unlisted := by
      intro w hw hnot h hh
      -- The word has been counted, so it is behind the limit.
      have hlisted : ⟨w, words.count w⟩ ∈ es := (hcounting.mem_iff _).mpr ⟨hw, rfl⟩
      rw [← List.take_append_drop limit es, List.mem_append] at hlisted
      obtain htake | hdrop := hlisted
      · exact absurd (List.mem_map_of_mem htake) hnot
      · exact hcut.2.2 h hh _ hdrop
    sum_le := by
      rw [List.map_take, ← hcounting.sum_eq]
      exact (List.take_sublist ..).sum_le_sum fun n _ => Nat.zero_le n
    sum_eq := by
      intro hlimit
      rw [← hcounting.length_eq] at hlimit
      rw [List.take_of_length_le hlimit, hcounting.sum_eq]
    unique := by
      intro fs rs hfs hperm hrs
      have hes : es.Pairwise fun a b => ¬ b.Outranks a := hsorted.imp Outranks.asymm
      rw [(hfs.perm hperm).eq_of_sorted hcounting hrs hes] }

/-! ## Rankings of counted words -/

section Ranking

variable (ws : List UInt32)

/-- The ranking of all words. -/
def ranking : List Hotspot := (Tally.ofKeys ws).ranking.map fun e => ⟨e.1.toNat, e.2⟩

lemma top_eq_take (limit : Nat) : top ws limit = (ranking ws).take limit := by
  rw [top, Tally.top, List.map_take, ranking]

lemma isCounting_ranking : IsCounting (ws.map UInt32.toNat) (ranking ws) where
  nodup := by
    have hkeys : ((Tally.ofKeys ws).ranking.map Prod.fst).Nodup :=
      ((Tally.ranking_perm _).map Prod.fst).nodup_iff.mpr (Tally.nodup_keys _)
    have hwords : (ranking ws).map word =
        ((Tally.ofKeys ws).ranking.map Prod.fst).map UInt32.toNat := by
      rw [ranking, List.map_map, List.map_map]
      rfl
    rw [hwords]
    exact hkeys.map fun _ _ => UInt32.toNat_inj.mp
  mem_iff := by
    intro h
    have hentry : ∀ w n, (w, n) ∈ (Tally.ofKeys ws).entries ↔ w ∈ ws ∧ n = ws.count w := by
      intro w n
      rw [← Tally.count?_eq_some_iff, Tally.count?_ofKeys]
      split
      · next hw => simp [hw, eq_comm]
      · next hw => simp [hw]
    have hcount : ∀ w : UInt32, (ws.map UInt32.toNat).count w.toNat = ws.count w :=
      List.count_map_of_injective ws UInt32.toNat fun _ _ => UInt32.toNat_inj.mp
    rw [ranking, List.mem_map, List.mem_map]
    constructor
    · rintro ⟨⟨w, n⟩, hmem, rfl⟩
      obtain ⟨hw, hn⟩ := (hentry w n).mp ((Tally.ranking_perm _).mem_iff.mp hmem)
      exact ⟨⟨w, hw, rfl⟩, by rw [hcount, hn]⟩
    · rintro ⟨⟨w, hw, hword⟩, hcounted⟩
      rw [← hword, hcount] at hcounted
      refine ⟨(w, ws.count w), (Tally.ranking_perm _).mem_iff.mpr ((hentry _ _).mpr ⟨hw, rfl⟩), ?_⟩
      cases h
      exact congrArg₂ Hotspot.mk hword hcounted.symm

lemma pairwise_ranking : (ranking ws).Pairwise Outranks := by
  rw [ranking, List.pairwise_map]
  refine (Tally.pairwise_ranking _).imp fun {a b} h => ?_
  obtain hlt | ⟨heq, hcompare⟩ := h
  · exact .inl hlt
  · exact .inr ⟨heq, UInt32.lt_iff_toNat_lt.mp (Std.compare_eq_lt.mp hcompare)⟩

lemma isTop_top (limit : Nat) : IsTop (ws.map UInt32.toNat) limit (top ws limit) := by
  rw [top_eq_take]
  refine isTop_take (fun w hw => ?_) (isCounting_ranking ws) (pairwise_ranking ws) limit
  obtain ⟨v, -, rfl⟩ := List.mem_map.mp hw
  exact v.toNat_lt.trans (by decide)

end Ranking

end Hotspot

namespace RunSummary

/-- **The hotspots of a run are the words that retired most often.**  If the simulator ranks neither
addresses nor instructions, the two rankings are counted from the commit lines that have all their
facts: the listed words are the first ones by count and then by word, each with its number of lines,
and as many as the limit allows.  The order in which the words are counted does not matter. -/
theorem hotspots_areTop (config : Config) (path : String) {lines : List String}
    (hpcs : linesOf (.tagged .hotPcSummary) lines = [])
    (hinsts : linesOf (.tagged .hotInstSummary) lines = []) :
    Hotspot.IsTop (retiredWords "pc" lines) config.hotspotLimit (ofLines config path lines).hotPcs ∧
      Hotspot.IsTop (retiredWords "inst" lines) config.hotspotLimit
        (ofLines config path lines).hotInsts := by
  have hnone : (Trace.ofLines lines).hasSummary .hotspot = false := by
    rw [Trace.hasSummary, Trace.last?_ofLines_eq_none Event.shows_hotPcs? rfl hpcs,
      Trace.last?_ofLines_eq_none Event.shows_hotInsts? rfl hinsts]
    rfl
  have hpc := Hotspot.isTop_top ((Trace.ofLines lines).commits.map Commit.pc) config.hotspotLimit
  have hinst := Hotspot.isTop_top ((Trace.ofLines lines).commits.map Commit.inst)
    config.hotspotLimit
  rw [List.map_map] at hpc hinst
  rw [← Trace.map_pc_commits_ofLines, ← Trace.map_inst_commits_ofLines]
  simp only [ofLines, ofTrace, Trace.hotPcs, Trace.hotInsts, hnone]
  exact ⟨hpc, hinst⟩

/-! ### The hotspots of one log -/

/-- A log in which two addresses retire twice, one of them with a bit too many the first time. -/
def hotLog : List String := [
  "[commit] cycle=1 slot=0 pc=0x20 inst=0x13",
  "[commit] cycle=2 slot=0 pc=0x100000010 inst=0x13",
  "[commit] cycle=3 slot=0 pc=0x30 inst=0x6f",
  "[commit] cycle=4 slot=0 pc=0x10 inst=0x13",
  "[commit] cycle=5 slot=0 pc=0x20 inst=0x6f"]

/-- With two places in the ranking, one of the three addresses of the log is left out, and all
five lines count for the two instructions. -/
theorem hotspots_hotLog :
    linesOf (.tagged .hotPcSummary) hotLog = [] ∧ linesOf (.tagged .hotInstSummary) hotLog = [] ∧
      (ofLines { hotspotLimit := 2 } "run.log" hotLog).hotPcs.length = 2 ∧
      (∀ h ∈ (ofLines { hotspotLimit := 2 } "run.log" hotLog).hotPcs,
        h.count = [0x20, 0x10, 0x30, 0x10, 0x20].count h.word) ∧
      ((ofLines { hotspotLimit := 2 } "run.log" hotLog).hotInsts.map Hotspot.count).sum = 5 := by
  have hlines : linesOf (.tagged .hotPcSummary) hotLog = [] ∧
      linesOf (.tagged .hotInstSummary) hotLog = [] ∧
      retiredWords "pc" hotLog = [0x20, 0x10, 0x30, 0x10, 0x20] ∧
      retiredWords "inst" hotLog = [0x13, 0x13, 0x6f, 0x13, 0x6f] := by
    decide
  obtain ⟨hpcs, hinsts, hpcWords, hinstWords⟩ := hlines
  obtain ⟨hpc, hinst⟩ := hotspots_areTop { hotspotLimit := 2 } "run.log" hpcs hinsts
  rw [hpcWords] at hpc
  rw [hinstWords] at hinst
  exact ⟨hpcs, hinsts, hpc.length.trans (by decide), hpc.count, hinst.sum_eq (by decide)⟩

end RunSummary

end PipelineProfile
