import Mathlib.Data.List.Forall2
import PipelineProfile.Proofs.Commit.Widths
import PipelineProfile.Proofs.Stall.AfterFlush
import PipelineProfile.Proofs.Stall.Replay
import PipelineProfile.Summary.Json

/-!
# What the settings of a profile change

A profile has five settings, and each of them acts on the figures it is named for and on nothing
else.  The statements here compare two runs over the same lines whose settings differ in one number.
All other figures are the same in both, so the second summary is the first one with new values in a
few fields; and these fields change in one direction only.  The documents of the two summaries have
the same members and differ under a few names (`Json.SameBut`), of which some are ratios that follow
from the figures.

A greater window takes in more blocked decodes after flushes (`blockedAfter_mono`).  A greater limit
lengthens the rankings of hot addresses and words at their ends (`hotPcs_prefix_of_le`).  More
lanes let rename have room where it was full (`stallDetail_makesRoom`).  More buckets add empty
entries to the histogram of commit widths (`count?_fill_of_le`).  The number of bins has no such
direction.  The main result is `settings_confined`.
-/

namespace PipelineProfile

/-! ## The window after a flush -/

lemma isWithin_of_le {window window' : Nat} (h : window ≤ window') {c? f? : Option Nat}
    (hwithin : isWithin window c? f? = true) : isWithin window' c? f? = true := by
  obtain ⟨c, f, hc, hf, hle, hnear⟩ := isWithin_iff.mp hwithin
  exact isWithin_iff.mpr ⟨c, f, hc, hf, hle, by omega⟩

lemma Trace.blockedAfter_mono (counts : Flush → Bool) {window window' : Nat} (h : window ≤ window')
    (lines : List String) :
    (ofLines lines).blockedAfter counts window ≤ (ofLines lines).blockedAfter counts window' := by
  rw [blockedAfter_ofLines, blockedAfter_ofLines]
  exact List.countP_mono_left fun i _ hi => isWithin_of_le h hi

/-! ## The limit of the rankings -/

namespace Trace

variable {limit : Nat}

lemma hotPcs_prefix_of_le (config : Config) (h : config.hotspotLimit ≤ limit) (t : Trace) :
    t.hotPcs config <+: t.hotPcs { config with hotspotLimit := limit } := by
  unfold hotPcs
  split
  · exact List.take_prefix_take_left h
  · exact (List.take_prefix_take_left h).map _

lemma hotInsts_prefix_of_le (config : Config) (h : config.hotspotLimit ≤ limit) (t : Trace) :
    t.hotInsts config <+: t.hotInsts { config with hotspotLimit := limit } := by
  unfold hotInsts
  split
  · exact List.take_prefix_take_left h
  · exact (List.take_prefix_take_left h).map _

end Trace

/-! ## The buckets of the commit widths -/

/-- More buckets keep every entry and add some with the count zero. -/
lemma CommitWidths.count?_fill_of_le {buckets buckets' : Nat} (h : buckets ≤ buckets')
    (hist : Tally Nat) (w : Nat) :
    (fill buckets' hist).count? w = (fill buckets hist).count? w ∨
      (fill buckets hist).count? w = none ∧ (fill buckets' hist).count? w = some 0 := by
  rw [count?_fill, count?_fill]
  by_cases hw : w < buckets
  · rw [if_pos hw, if_pos (Nat.lt_of_lt_of_le hw h)]
    exact .inl rfl
  · rw [if_neg hw, Tally.count]
    cases hist.count? w with
    | none =>
      split
      · exact .inr ⟨rfl, rfl⟩
      · exact .inl rfl
    | some n => exact .inl (ite_self _)

/-! ## Documents -/

namespace Json

/-- Two members with the same name, and with the same value unless they have one of `names`. -/
def SameMember (names : List String) (m m' : String × Json) : Prop :=
  m'.1 = m.1 ∧ (m.1 ∉ names → m'.2 = m.2)

/-- Two objects with members of the same names, which differ under `names` at most. -/
inductive SameBut (names : List String) : Json → Json → Prop where
  | object {members members' : List (String × Json)}
    (h : List.Forall₂ (SameMember names) members members') :
    SameBut names (.object members) (.object members')

variable {names : List String}

lemma forall₂_sameMember_self (members : List (String × Json)) :
    List.Forall₂ (SameMember names) members members :=
  List.forall₂_same.mpr fun _ _ => ⟨rfl, fun _ => rfl⟩

end Json

namespace RunSummary

open Json

/-- The names of the window, of the blocked decodes after flushes within it, and of their ratios. -/
def windowNames : List String :=
  ["stall_post_flush_window_cycles", "stall_decode_blocked_post_flush",
    "stall_decode_blocked_post_flush_ratio", "stall_decode_blocked_post_branch_flush",
    "stall_decode_blocked_post_branch_flush_ratio"]

section Documents

variable {names : List String} (s : RunSummary)

/-- Other stalls show in the members for the stalls. -/
lemma sameBut_stalls {figures : StallFigures}
    (h : List.Forall₂ (SameMember names) s.stalls.members figures.members) :
    SameBut names s.toJson { s with stalls := figures }.toJson := by
  refine .object (List.rel_append (List.rel_append ?_ h) ?_)
  · exact forall₂_sameMember_self _
  · exact forall₂_sameMember_self _

/-- Other blocked decodes after flushes show with their ratios. -/
lemma sameBut_window (window afterFlush afterMispredict : Nat) :
    SameBut windowNames s.toJson { s with stalls := { s.stalls with
      window := window
      blockedAfterFlush := afterFlush
      blockedAfterMispredict := afterMispredict } }.toJson := by
  refine s.sameBut_stalls (List.rel_append (forall₂_sameMember_self _) ?_)
  simp [SameMember, windowNames]

/-- Other finer causes of blocked decodes show in one member. -/
lemma sameBut_decodeBlocked (detail : Tally String) :
    SameBut ["stall_decode_blocked_detail"] s.toJson { s with stalls := { s.stalls with
      decodeBlocked := { total := s.stalls.decodeBlocked.total, detail := detail } } }.toJson := by
  refine s.sameBut_stalls ?_
  refine List.rel_append (List.rel_append (List.rel_append (List.rel_append ?_ ?_) ?_) ?_) ?_
  · exact forall₂_sameMember_self _
  · simp [StallDetail.members, SameMember, StallCategory.label]
  · exact forall₂_sameMember_self _
  · exact forall₂_sameMember_self _
  · exact forall₂_sameMember_self _

/-- Other rankings show in the two members for them. -/
lemma sameBut_rankings (hotPcs hotInsts : List Hotspot) :
    SameBut ["top_pc", "top_inst"] s.toJson
      { s with hotPcs := hotPcs, hotInsts := hotInsts }.toJson := by
  refine .object (List.rel_append (List.rel_append (List.rel_append ?_ ?_) ?_) ?_)
  · exact forall₂_sameMember_self _
  · simp [SameMember]
  · exact forall₂_sameMember_self _
  · exact forall₂_sameMember_self _

/-- Other commit widths show in one member. -/
lemma sameBut_commitWidths (widths : Tally Nat) :
    SameBut ["commit_width_hist"] s.toJson { s with commitWidths := widths }.toJson := by
  refine .object (List.rel_append (List.rel_append (List.rel_append ?_ ?_) ?_) ?_)
  · exact forall₂_sameMember_self _
  · simp [SameMember]
  · exact forall₂_sameMember_self _
  · exact forall₂_sameMember_self _

/-- Another fetch queue shows in one member. -/
lemma sameBut_fetchQueue (queue : FetchQueue) :
    SameBut ["ifu_fq"] s.toJson { s with fetchQueue := queue }.toJson := by
  refine .object (List.rel_append (forall₂_sameMember_self _) ?_)
  simp [SameMember]

/-- Other occupancies of the fetch queue show in one of its members. -/
lemma sameBut_occupancies (queue : FetchQueue) (occupancies : Tally Nat) :
    SameBut ["fq_occ_hist"] queue.toJson { queue with occupancies := occupancies }.toJson := by
  refine .object ?_
  simp [SameMember, FetchQueue.average, FetchQueue.averageReported, FetchQueue.bypassRatio]

end Documents

/-! ## Two runs over the same lines -/

/-- Only the window differs and what follows flushes within it, which is no less. -/
structure WidensWindow (s s' : RunSummary) : Prop where
  rest : s' = { s with stalls := { s.stalls with
    window := s'.stalls.window
    blockedAfterFlush := s'.stalls.blockedAfterFlush
    blockedAfterMispredict := s'.stalls.blockedAfterMispredict } }
  afterFlush : s.stalls.blockedAfterFlush ≤ s'.stalls.blockedAfterFlush
  afterMispredict : s.stalls.blockedAfterMispredict ≤ s'.stalls.blockedAfterMispredict
  document : SameBut windowNames s.toJson s'.toJson

/-- Only the rankings differ, which are longer. -/
structure LengthensRankings (s s' : RunSummary) : Prop where
  rest : s' = { s with hotPcs := s'.hotPcs, hotInsts := s'.hotInsts }
  hotPcs : s.hotPcs <+: s'.hotPcs
  hotInsts : s.hotInsts <+: s'.hotInsts
  document : SameBut ["top_pc", "top_inst"] s.toJson s'.toJson

/-- Only the finer causes of blocked decodes differ, of which some that had rename full now have
room in it. -/
structure MakesRoom (s s' : RunSummary) : Prop where
  rest : s' = { s with stalls := { s.stalls with decodeBlocked := {
    total := s.stalls.decodeBlocked.total
    detail := s'.stalls.decodeBlocked.detail } } }
  decodeBlocked : s.stalls.decodeBlocked.MakesRoom s'.stalls.decodeBlocked
  document : SameBut ["stall_decode_blocked_detail"] s.toJson s'.toJson

/-- Only the histogram of the fetch queue differs. -/
structure Rebins (s s' : RunSummary) : Prop where
  rest : s' = { s with fetchQueue := { s.fetchQueue with
    occupancies := s'.fetchQueue.occupancies } }
  queue : SameBut ["fq_occ_hist"] s.fetchQueue.toJson s'.fetchQueue.toJson
  document : SameBut ["ifu_fq"] s.toJson s'.toJson

/-- Only the histogram of commit widths differs, which has more entries with the count zero. -/
structure AddsBuckets (s s' : RunSummary) : Prop where
  rest : s' = { s with commitWidths := s'.commitWidths }
  commitWidths : ∀ w, s'.commitWidths.count? w = s.commitWidths.count? w ∨
    s.commitWidths.count? w = none ∧ s'.commitWidths.count? w = some 0
  document : SameBut ["commit_width_hist"] s.toJson s'.toJson

variable (config : Config) (path : String) (lines : List String)

lemma widensWindow_of_le {window : Nat} (h : config.postFlushWindow ≤ window) :
    (ofLines config path lines).WidensWindow
      (ofLines { config with postFlushWindow := window } path lines) where
  rest := rfl
  afterFlush := Trace.blockedAfter_mono _ h lines
  afterMispredict := Trace.blockedAfter_mono _ h lines
  document := sameBut_window ..

lemma lengthensRankings_of_le {limit : Nat} (h : config.hotspotLimit ≤ limit) :
    (ofLines config path lines).LengthensRankings
      (ofLines { config with hotspotLimit := limit } path lines) where
  rest := rfl
  hotPcs := Trace.hotPcs_prefix_of_le config h _
  hotInsts := Trace.hotInsts_prefix_of_le config h _
  document := sameBut_rankings ..

lemma makesRoom_of_le {lanes : Nat} (h : config.replayFullLanes ≤ lanes) :
    (ofLines config path lines).MakesRoom
      (ofLines { config with replayFullLanes := lanes } path lines) := by
  have hmakes : (ofLines config path lines).stalls.decodeBlocked.MakesRoom
      (ofLines { config with replayFullLanes := lanes } path lines).stalls.decodeBlocked :=
    Trace.stallDetail_makesRoom h _ _
  have hrest : ofLines { config with replayFullLanes := lanes } path lines =
      { ofLines config path lines with stalls := { (ofLines config path lines).stalls with
        decodeBlocked := {
          total := (ofLines config path lines).stalls.decodeBlocked.total
          detail := (ofLines { config with replayFullLanes := lanes } path
            lines).stalls.decodeBlocked.detail } } } := by
    rw [← hmakes.total]
    rfl
  refine ⟨hrest, hmakes, ?_⟩
  rw [hrest]
  exact sameBut_decodeBlocked ..

lemma rebins (bins : Nat) : (ofLines config path lines).Rebins
    (ofLines { config with fetchQueueBins := bins } path lines) := by
  have hqueue : (Trace.ofLines lines).fetchQueue { config with fetchQueueBins := bins } =
      { (Trace.ofLines lines).fetchQueue config with occupancies :=
        ((Trace.ofLines lines).fetchQueue { config with fetchQueueBins := bins }).occupancies } := by
    unfold Trace.fetchQueue
    -- Only without a summary line are there bins at all.
    cases (Trace.ofLines lines).last? Event.fetchQueueSummary? with
    | some figures => rfl
    | none => rfl
  refine ⟨?_, ?_, sameBut_fetchQueue ..⟩
  · exact congrArg (fun queue => { ofLines config path lines with fetchQueue := queue }) hqueue
  · change SameBut _ _ ((Trace.ofLines lines).fetchQueue _).toJson
    rw [hqueue]
    exact sameBut_occupancies ..

lemma addsBuckets_of_le {buckets : Nat} (h : config.minWidthBuckets ≤ buckets) :
    (ofLines config path lines).AddsBuckets
      (ofLines { config with minWidthBuckets := buckets } path lines) where
  rest := rfl
  commitWidths := CommitWidths.count?_fill_of_le h _
  document := sameBut_commitWidths ..

/-- **Each setting is confined to its own figures.**  Of two runs over the same lines whose settings
differ in one number, the one with the greater number has the same summary but for these figures.
With a greater window, at least as many blocked decodes follow flushes.  With a greater limit, the
rankings go on.  With more lanes, rename has room in some of the finer causes of blocked decodes in
which it was full.  With another number of bins, the histogram of the fetch queue is another.  With
more buckets, the histogram of commit widths has more entries with the count zero.  The documents
differ under the names of these figures and of their ratios. -/
theorem settings_confined :
    (∀ window, config.postFlushWindow ≤ window → (ofLines config path lines).WidensWindow
      (ofLines { config with postFlushWindow := window } path lines)) ∧
    (∀ limit, config.hotspotLimit ≤ limit → (ofLines config path lines).LengthensRankings
      (ofLines { config with hotspotLimit := limit } path lines)) ∧
    (∀ lanes, config.replayFullLanes ≤ lanes → (ofLines config path lines).MakesRoom
      (ofLines { config with replayFullLanes := lanes } path lines)) ∧
    (∀ bins, (ofLines config path lines).Rebins
      (ofLines { config with fetchQueueBins := bins } path lines)) ∧
    (∀ buckets, config.minWidthBuckets ≤ buckets → (ofLines config path lines).AddsBuckets
      (ofLines { config with minWidthBuckets := buckets } path lines)) := by
  refine ⟨?_, ?_, ?_, rebins config path lines, ?_⟩
  · intro window h
    exact widensWindow_of_le config path lines h
  · intro limit h
    exact lengthensRankings_of_le config path lines h
  · intro lanes h
    exact makesRoom_of_le config path lines h
  · intro buckets h
    exact addsBuckets_of_le config path lines h

/-! ### The settings of one log -/

/-- A log with a blocked decode twenty cycles after a flush, while rename is full for the default
number of lanes, and with a ranking of two addresses. -/
def settingsLog : List String := [
  "[flush ] cycle=1 reason=branch_mispredict",
  "[stall ] cycle=21 dec(v/r)=1/0 ren(pend/src/sel/fire/rdy)=1/5/0/0/0",
  "[hotpcm] rank0_pc=0x10 rank0_count=3 rank1_pc=0x14 rank1_count=1"]

/-- Raising the settings one by one changes the figures of the log. -/
theorem settings_settingsLog :
    let s := ofLines { hotspotLimit := 1 } "run.log" settingsLog
    (s.WidensWindow
        (ofLines { hotspotLimit := 1, postFlushWindow := 32 } "run.log" settingsLog) ∧
      (ofLines { hotspotLimit := 1, postFlushWindow := 32 } "run.log"
        settingsLog).stalls.blockedAfterFlush = s.stalls.blockedAfterFlush + 1) ∧
    (s.LengthensRankings (ofLines { hotspotLimit := 2 } "run.log" settingsLog) ∧
      (ofLines { hotspotLimit := 2 } "run.log" settingsLog).hotPcs =
        s.hotPcs ++ [⟨0x14, 1⟩]) ∧
    (s.MakesRoom (ofLines { hotspotLimit := 1, replayFullLanes := 8 } "run.log" settingsLog) ∧
      s.stalls.decodeBlocked.detail.count "pending_replay_wait_full" = 1) ∧
    s.AddsBuckets (ofLines { hotspotLimit := 1, minWidthBuckets := 6 } "run.log" settingsLog) := by
  obtain ⟨hwindow, hlimit, hlanes, -, hbuckets⟩ :=
    settings_confined { hotspotLimit := 1 } "run.log" settingsLog
  have hvalues :
      (ofLines { hotspotLimit := 1, postFlushWindow := 32 } "run.log"
          settingsLog).stalls.blockedAfterFlush =
        (ofLines { hotspotLimit := 1 } "run.log" settingsLog).stalls.blockedAfterFlush + 1 ∧
      (ofLines { hotspotLimit := 2 } "run.log" settingsLog).hotPcs =
        (ofLines { hotspotLimit := 1 } "run.log" settingsLog).hotPcs ++ [⟨0x14, 1⟩] ∧
      (ofLines { hotspotLimit := 1 } "run.log" settingsLog).stalls.decodeBlocked.detail.count
        "pending_replay_wait_full" = 1 := by
    decide +kernel
  obtain ⟨hblocked, hranking, hlabel⟩ := hvalues
  exact ⟨⟨hwindow 32 (by decide), hblocked⟩, ⟨hlimit 2 (by decide), hranking⟩,
    ⟨hlanes 8 (by decide), hlabel⟩, hbuckets 6 (by decide)⟩

end RunSummary

end PipelineProfile
