import PipelineProfile.Proofs.Stall.Conservation
import PipelineProfile.Proofs.Stall.Pairs
import PipelineProfile.Proofs.Stall.Priority
import PipelineProfile.Proofs.Tally.Entries

/-!
# The busy miss port

Among the things that may keep the data cache from taking the request of a load is a miss that the
cache cannot send on.  The label for it, `rob_lsu_wait_ld_req_ready_miss_port_busy`, is never
counted as long as the stall lines of a trace give the handshake of data cache misses as a pair or
not at all (`missPort_never_counted`).

The cause is looked for only on lines of the category `robBackpressure`.  A valid miss puts a line
into the category `dcacheMissWait` or an earlier one (`idxOf_ofSignals_le`), if the categories read
the same miss as the causes do, and for a pair they do.  A handshake that is cut off is another
matter: the categories take it for absent and the causes for a miss that is not sent on, so the
label is counted then.
-/

namespace PipelineProfile

/-- The label of a load whose request waits for the miss port of the data cache. -/
def missPortLabel : String := "rob_lsu_wait_ld_req_ready_miss_port_busy"

/-! ## The cause behind the label -/

lemma RobBackpressureCause.eq_missPort_of_label {c : RobBackpressureCause}
    (h : c.label = missPortLabel) : c = load (.requestNotReady .missPort) := by
  revert h
  cases c with
  | store wait => cases wait <;> decide
  | compute unit => cases unit <;> decide
  | load wait =>
    cases wait with
    | requestNotReady blocker =>
      cases blocker with
      | owner response => cases response <;> decide
      | _ => decide
    | ownerResponse response => cases response <;> decide
    | _ => decide
  | _ => decide

lemma DecodeBlockedCause.label_ne_missPort (c : DecodeBlockedCause) : c.label ≠ missPortLabel := by
  cases c with
  | pendingReplay progress full => cases progress <;> cases full <;> decide
  | loadGroup owned => cases owned <;> decide
  | dispatchGate unit => cases unit <;> decide
  | _ => decide

lemma OtherCause.label_ne_missPort (c : OtherCause) : c.label ≠ missPortLabel := by
  cases c with
  | refill step => cases step <;> decide
  | writeback head => cases head <;> decide
  | headStore wait => cases wait <;> decide
  | headCompute unit => cases unit <;> decide
  | headLoad wait => cases wait <;> decide
  | _ => decide

section Probe

variable {p : StallProbe}

/-- The miss port is blamed only for a miss that is not sent on. -/
lemma RequestBlocker.blocked_of_missPort (h : ofProbe p = missPort) :
    p.dcacheMiss.any Handshake.blocked = true := by
  grind [ofProbe]

lemma LoadWait.blocker_eq {blocker : RequestBlocker} (h : ofProbe p = requestNotReady blocker) :
    RequestBlocker.ofProbe p = blocker := by
  grind [ofProbe, ofRequest, ofResponse]

lemma RobBackpressureCause.blocked_of_label (h : (ofProbe p).label = missPortLabel) :
    p.dcacheMiss.any Handshake.blocked = true := by
  have hcause : ofProbe p = load (.requestNotReady .missPort) := eq_missPort_of_label h
  have hwait : LoadWait.ofProbe p = .requestNotReady .missPort := by grind [ofProbe]
  exact RequestBlocker.blocked_of_missPort (LoadWait.blocker_eq hwait)

end Probe

/-! ## The category before the cause -/

namespace StallCategory

/-- If the condition of a category holds, the line is of that category or an earlier one. -/
lemma idxOf_ofSignals_le {s : StallSignals} {c : StallCategory} (hc : c ∈ priority)
    (hholds : holds s c = true) : priority.idxOf (ofSignals s) ≤ priority.idxOf c := by
  have hsome : (priority.find? fun c => holds s c).isSome := List.find?_isSome.mpr ⟨c, hc, hholds⟩
  obtain ⟨d, hd⟩ := Option.isSome_iff_exists.mp hsome
  rw [ofSignals, firstOf, hd, Option.getD_some]
  by_cases hdc : d = c
  · rw [hdc]
  · exact (idxOf_lt_idxOf_of_find? hd hholds hdc).le

variable {f : Facts} (hpair : ∀ value ∈ f.get? "dc_miss(v/r)", IsPair value)

include hpair

/-- The categories and the causes read the same misses. -/
lemma dcacheMiss_ofFacts : (StallSignals.ofFacts f).dcacheMiss =
    (StallProbe.ofFacts f).dcacheMiss.any Handshake.valid :=
  congrArg (Option.any Handshake.valid) (group?_eq_handshake? hpair).symm

/-- A valid miss puts the line into the category for misses or an earlier one. -/
lemma ofSignals_mem_of_probe (h : (StallProbe.ofFacts f).dcacheMiss.any Handshake.valid = true) :
    ofSignals (.ofFacts f) ∈ [flushRecovery, icacheMissWait, dcacheMissWait] := by
  have hle : priority.idxOf (ofSignals (.ofFacts f)) ≤ priority.idxOf dcacheMissWait :=
    idxOf_ofSignals_le (by decide) ((dcacheMiss_ofFacts hpair).trans h)
  generalize ofSignals (.ofFacts f) = c at hle ⊢
  revert hle
  cases c <;> decide

lemma detail?_ne_missPort (lanes : Nat) :
    (ofSignals (.ofFacts f)).detail? lanes (.ofFacts f) ≠ some missPortLabel := by
  intro hdetail
  cases hcategory : ofSignals (.ofFacts f) with
  | decodeBlocked =>
    rw [hcategory] at hdetail
    exact DecodeBlockedCause.label_ne_missPort _ (Option.some.inj hdetail)
  | other =>
    rw [hcategory] at hdetail
    exact OtherCause.label_ne_missPort _ (Option.some.inj hdetail)
  | robBackpressure =>
    rw [hcategory] at hdetail
    have hblocked := RobBackpressureCause.blocked_of_label (Option.some.inj hdetail)
    have hvalid : (StallProbe.ofFacts f).dcacheMiss.any Handshake.valid = true := by
      obtain ⟨handshake, hmiss, hhandshake⟩ := (Option.any_eq_true ..).mp hblocked
      rw [hmiss]
      exact (Bool.and_eq_true_iff.mp hhandshake).1
    have hearlier := ofSignals_mem_of_probe hpair hvalid
    rw [hcategory] at hearlier
    revert hearlier
    decide
  | _ =>
    rw [hcategory] at hdetail
    cases hdetail

end StallCategory

/-! ## The label in a run -/

namespace RunSummary

/-- What it means that the busy miss port is never counted. -/
structure NeverOnMissPort (config : Config) (path : String) (lines : List String) : Prop where
  /-- No sample shows the label, in whatever category. -/
  samples : ∀ text ∈ lines, ∀ c,
    StallSample.cause? config.replayFullLanes text ≠ some (c, missPortLabel)
  /-- Unless a summary line gives the finer causes, the label does not stand among them. -/
  detail : linesOf (.tagged .robBackpressureSummary) lines = [] →
    missPortLabel ∉ (ofLines config path lines).stalls.robBackpressure.detail.keys
  /-- The lines with a valid miss are all in other categories. -/
  taken : ∀ f ∈ factsOf .stall lines,
    (StallProbe.ofFacts f).dcacheMiss.any Handshake.valid = true →
      StallCategory.ofSignals (.ofFacts f) ∈ [.flushRecovery, .icacheMissWait, .dcacheMissWait]

/-- **A busy miss port is never counted.**  If every stall line lacks the handshake of data cache
misses or gives it as a pair, then no sample is put down to the miss port, because the lines with a
valid miss are in categories that are not asked for such a cause. -/
theorem missPort_never_counted (config : Config) (path : String) {lines : List String}
    (hpairs : ∀ f ∈ factsOf .stall lines, ∀ value ∈ f.get? "dc_miss(v/r)", IsPair value) :
    NeverOnMissPort config path lines := by
  have hsamples : ∀ text ∈ lines, ∀ c,
      StallSample.cause? config.replayFullLanes text ≠ some (c, missPortLabel) := by
    intro text htext c hcause
    obtain ⟨s, hs, hlabel⟩ := Option.bind_eq_some_iff.mp hcause
    obtain ⟨f, hf, rfl⟩ := Option.map_eq_some_iff.mp hs
    obtain ⟨label, hdetail, hpair⟩ := Option.map_eq_some_iff.mp hlabel
    obtain ⟨-, rfl⟩ := Prod.mk.inj hpair
    have hmem : f ∈ factsOf .stall lines := List.mem_filterMap.mpr ⟨text, htext, hf⟩
    exact StallCategory.detail?_ne_missPort (hpairs f hmem) config.replayFullLanes hdetail
  refine ⟨hsamples, ?_, fun f hf => StallCategory.ofSignals_mem_of_probe (hpairs f hf)⟩
  intro hnone hkey
  have hlast := Trace.last?_ofLines_eq_none Event.shows_robBackpressureSummary? rfl hnone
  simp only [ofLines, ofTrace, Trace.stallFigures, hlast] at hkey
  obtain ⟨text, htext, hcause⟩ := Trace.mem_keys_stallDetail_ofLines.mp hkey
  exact hsamples text htext .robBackpressure hcause

/-- A handshake of misses that is cut off is counted. -/
example : StallSample.cause? 4
    ("[stall ] rob_ready=0 rob_head(fu/comp/is_store/pc)=3 lsu_sm=1" ++
      " lsu_ld(v/r/addr)=1 dc_miss(v/r)=1") =
      some (.robBackpressure, missPortLabel) := by
  decide +kernel

/-- A log of loads that wait to send their requests, with a valid miss and without one. -/
def waitingLoadsLog : List String := [
  "[stall ] rob_ready=0 lsu_sm=1 lsu_ld(v/r/addr)=1 dc_miss(v/r)=0x1/0",
  "[stall ] rob_ready=0 rob_head(fu/comp/is_store/pc)=3 lsu_sm=1 lsu_ld(v/r/addr)=1" ++
    " dc_miss(v/r)=0/0"]

/-- The log has one full reorder buffer, and it is not put down to the miss port. -/
theorem missPort_waitingLoadsLog :
    (∀ f ∈ factsOf .stall waitingLoadsLog, ∀ value ∈ f.get? "dc_miss(v/r)", IsPair value) ∧
      linesOf (.tagged .robBackpressureSummary) waitingLoadsLog = [] ∧
      (ofLines {} "run.log" waitingLoadsLog).stalls.byCategory .robBackpressure = 1 ∧
      missPortLabel ∉
        (ofLines {} "run.log" waitingLoadsLog).stalls.robBackpressure.detail.keys := by
  have hlog :
      (∀ f ∈ factsOf .stall waitingLoadsLog, ∀ value ∈ f.get? "dc_miss(v/r)", IsPair value) ∧
      linesOf (.tagged .robBackpressureSummary) waitingLoadsLog = [] ∧
      (ofLines {} "run.log" waitingLoadsLog).stalls.byCategory .robBackpressure = 1 := by
    decide +kernel
  obtain ⟨hpairs, hnone, hone⟩ := hlog
  exact ⟨hpairs, hnone, hone, (missPort_never_counted {} "run.log" hpairs).detail hnone⟩

end RunSummary

end PipelineProfile
