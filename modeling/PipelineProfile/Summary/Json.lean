import PipelineProfile.Json
import PipelineProfile.Summary

/-!
# Summaries as JSON

The document of a summary: its figures under the names that tools downstream know, in one level
but for control flow, prediction and the fetch queue, which are objects of their own. Figures
that follow from others are written out, so that a reader need not compute them.

Histograms of labels hold only labels that occur; the stall categories and the metric families
are all there.
-/

namespace PipelineProfile

/-! ## The objects within -/

/-- The control flow of a run. -/
def ControlFlow.toJson (c : ControlFlow) : Json :=
  .object [
    ("branch_count", .nat c.counts.branches),
    ("jal_count", .nat c.counts.jals),
    ("jalr_count", .nat c.counts.jalrs),
    ("branch_taken_count", .nat c.counts.branchesTaken),
    ("call_count", .nat c.counts.calls),
    ("ret_count", .nat c.counts.returns),
    ("control_count", .nat c.counts.transfers),
    ("control_ratio", .float c.ratio),
    ("est_misp_count", .nat c.counts.estimatedMisses),
    ("est_misp_per_kinst", .float c.missesPerThousand)]

/-- The figures of the fetch queue. -/
def FetchQueue.toJson (q : FetchQueue) : Json :=
  .object [
    ("fq_samples", .nat q.samples),
    ("fq_enq", .nat q.enqueued),
    ("fq_deq", .nat q.dequeued),
    ("fq_bypass", .nat q.bypassed),
    ("fq_enq_blocked", .nat q.enqueueBlocked),
    ("fq_full_cycles", .nat q.fullCycles),
    ("fq_empty_cycles", .nat q.emptyCycles),
    ("fq_nonempty_cycles", .nat q.nonemptyCycles),
    ("fq_occ_sum", .nat q.occupancySum),
    ("fq_occ_max", .nat q.occupancyMax),
    ("fq_occ_avg", .float q.average),
    ("fq_occ_avg_from_line", .optional .float q.averageReported),
    ("fq_bypass_ratio", .float q.bypassRatio),
    ("fq_occ_hist", .ofTally Numeral.decimal q.occupancies)]

/-- A hot word under the name of what it is. -/
def Hotspot.toJson (what : String) (h : Hotspot) : Json :=
  .object [(what, .string h.text), ("count", .nat h.count)]

namespace PredictionCounts

/-- The counters, whose names begin with `stem`. -/
def members (stem : String) (c : PredictionCounts) : List (String × Json) :=
  [(stem ++ "_total", .nat c.total), (stem ++ "_miss", .nat c.miss), (stem ++ "_hit", .nat c.hit)]

end PredictionCounts

namespace PredictCounters

/-- The counters as the simulator names them. -/
def counterMembers (c : PredictCounters) : List (String × Json) :=
  c.cond.members "cond" ++ c.jump.members "jump" ++ c.jumpDirect.members "jump_direct" ++
    c.jumpIndirect.members "jump_indirect" ++ c.ret.members "ret" ++
  [("call_total", .nat c.calls),
    ("cond_update_total", .nat c.chooser.updates),
    ("cond_local_correct", .nat c.chooser.localCorrect),
    ("cond_global_correct", .nat c.chooser.globalCorrect),
    ("cond_selected_correct", .nat c.chooser.selectedCorrect),
    ("cond_choose_local", .nat c.chooser.choseLocal),
    ("cond_choose_global", .nat c.chooser.choseGlobal),
    ("tage_lookup_total", .nat c.tage.lookups),
    ("tage_hit_total", .nat c.tage.hits),
    ("tage_override_total", .nat c.tage.overrides),
    ("tage_override_correct", .nat c.tage.overridesCorrect),
    ("sc_lookup_total", .nat c.corrector.lookups),
    ("sc_confident_total", .nat c.corrector.confident),
    ("sc_override_total", .nat c.corrector.overrides),
    ("sc_override_correct", .nat c.corrector.overridesCorrect),
    ("loop_lookup_total", .nat c.loop.lookups),
    ("loop_hit_total", .nat c.loop.hits),
    ("loop_confident_total", .nat c.loop.confident),
    ("loop_override_total", .nat c.loop.overrides),
    ("loop_override_correct", .nat c.loop.overridesCorrect)] ++
  (Provider.all.map fun p =>
    ("cond_provider_" ++ p.label ++ "_selected", .nat (c.provider p).selected)) ++
  (Provider.all.map fun p =>
    ("cond_provider_" ++ p.label ++ "_correct", .nat (c.provider p).correct)) ++
  (Provider.all.map fun p =>
    ("cond_selected_wrong_alt_" ++ p.label ++ "_correct", .nat (c.provider p).correctInstead)) ++
  [("cond_selected_wrong_alt_any_correct", .nat c.anyCorrectInstead)]

/-- The rates that follow from the counters. -/
def rateMembers (c : PredictCounters) : List (String × Json) :=
  [("cond_miss_rate", .float c.cond.missRate),
    ("jump_miss_rate", .float c.jump.missRate),
    ("jump_direct_miss_rate", .float c.jumpDirect.missRate),
    ("jump_indirect_miss_rate", .float c.jumpIndirect.missRate),
    ("ret_miss_rate", .float c.ret.missRate),
    ("cond_local_accuracy", .float c.chooser.localAccuracy),
    ("cond_global_accuracy", .float c.chooser.globalAccuracy),
    ("cond_selected_accuracy", .float c.chooser.selectedAccuracy),
    ("cond_choose_global_ratio", .float c.chooser.globalRatio),
    ("tage_hit_rate", .float c.tage.hitRate),
    ("tage_override_ratio", .float c.tage.overrideRatio),
    ("tage_override_accuracy", .float c.tage.overrideAccuracy),
    ("sc_confident_ratio", .float c.corrector.confidentRatio),
    ("sc_override_ratio", .float c.corrector.overrideRatio),
    ("sc_override_accuracy", .float c.corrector.overrideAccuracy),
    ("loop_hit_rate", .float c.loop.hitRate),
    ("loop_confident_ratio", .float c.loop.confidentRatio),
    ("loop_override_ratio", .float c.loop.overrideRatio),
    ("loop_override_accuracy", .float c.loop.overrideAccuracy),
    ("cond_provider_total_selected", .nat c.selected),
    ("cond_provider_coverage", .float c.coverage)] ++
  (Provider.all.map fun p => ("cond_provider_" ++ p.label ++ "_accuracy", .float (c.accuracy p))) ++
  (Provider.all.map fun p => ("cond_provider_" ++ p.label ++ "_share", .float (c.share p))) ++
  [("cond_selected_wrong_total", .nat c.selectedWrong),
    ("cond_selected_wrong_alt_any_ratio", .float c.correctInsteadRatio)]

/-- The counters of the branch predictor and the rates that follow from them. -/
def toJson (c : PredictCounters) : Json := .object (c.counterMembers ++ c.rateMembers)

end PredictCounters

/-! ## Groups of members -/

/-- The totals of a run. -/
def RunTotals.members (t : RunTotals) : List (String × Json) :=
  [("ipc", .float t.ipc), ("cpi", .float t.cpi), ("cycles", .nat t.cycles),
    ("commits", .nat t.commits)]

/-- The times of a run. -/
def RunTime.members (r : RunTime) : List (String × Json) :=
  [("bench_reported_time_ms", .optional .float r.selfReported),
    ("host_time_us", .optional .nat r.hostMicros),
    ("host_time_ms", .optional .float r.hostMillis),
    ("effective_benchmark_time_ms", .optional .float r.effective),
    ("benchmark_time_source", .string r.source.label)]

/-- A histogram of those labels of a list that occur. -/
def Json.ofLabels {α : Type} (labels : List α) (label : α → String) (count : α → Nat) : Json :=
  .object ((labels.filter fun a => 0 < count a).map fun a => (label a, .nat (count a)))

/-- The flushes of a run, behind their number. -/
def FlushFigures.members (f : FlushFigures) : List (String × Json) :=
  [("flush_reason_histogram", .ofLabels FlushReason.all FlushReason.label f.byReason),
    ("flush_source_histogram", .ofLabels FlushSource.all FlushSource.label f.bySource),
    ("mispredict_flush_count", .nat f.mispredicts),
    ("mispredict_cond_count", .nat f.misses.cond),
    ("mispredict_jump_count", .nat f.misses.jump),
    ("mispredict_jump_direct_count", .nat f.misses.jumpDirect),
    ("mispredict_jump_indirect_count", .nat f.misses.jumpIndirect),
    ("mispredict_ret_count", .nat f.misses.ret),
    ("mispredict_control_unknown_count", .nat f.missesUnknown),
    ("wrong_path_kill_uops", .nat f.effects.killedUops),
    ("flush_penalty_cycles", .nat f.penaltyCycles),
    ("branch_penalty_cycles", .nat f.branchPenaltyCycles),
    ("redirect_distance_samples", .nat f.effects.redirects),
    ("redirect_distance_sum", .nat f.effects.redirectSum),
    ("redirect_distance_max", .nat f.effects.redirectMax),
    ("redirect_distance_avg", .float f.effects.redirectAverage)]

/-- The finer causes of a category. -/
def StallDetail.members (category : StallCategory) (d : StallDetail) : List (String × Json) :=
  [("stall_" ++ category.label ++ "_total", .nat d.total),
    ("stall_" ++ category.label ++ "_detail", .ofTally id d.detail)]

/-- The stalls of a run. -/
def StallFigures.members (s : StallFigures) : List (String × Json) :=
  [("stall_total", .nat s.total),
    ("stall_category",
      .object (StallCategory.all.map fun c => (c.label, .nat (s.byCategory c))))] ++
  s.frontendEmpty.members .frontendEmpty ++
  s.decodeBlocked.members .decodeBlocked ++
  s.robBackpressure.members .robBackpressure ++
  s.other.members .other ++
  [("stall_other_aux", .ofTally id s.otherAux),
    ("stall_post_flush_window_cycles", .nat s.window),
    ("stall_decode_blocked_post_flush", .nat s.blockedAfterFlush),
    ("stall_decode_blocked_post_flush_ratio", .float s.afterFlushRatio),
    ("stall_decode_blocked_post_branch_flush", .nat s.blockedAfterMispredict),
    ("stall_decode_blocked_post_branch_flush_ratio", .float s.afterMispredictRatio)]

/-! ## The whole -/

namespace RunSummary

/-- The document of a summary. -/
def toJson (s : RunSummary) : Json :=
  .object (
    [("log_path", .string s.logPath)] ++
    s.totals.members ++
    s.time.members ++
    [("flush_count", .nat s.flushes.count),
      ("flush_per_kinst", .float (s.perThousand s.flushes.count)),
      ("bru_count", .nat s.branchResolves),
      ("bru_per_kinst", .float (s.perThousand s.branchResolves))] ++
    s.flushes.members ++
    [("has_commit_detail", .bool s.hasCommitDetail),
      ("has_commit_summary", .bool s.hasCommitSummary),
      ("commit_width_hist", .ofTally Numeral.decimal s.commitWidths),
      ("control", s.control.toJson),
      ("top_pc", .array (s.hotPcs.map (Hotspot.toJson "pc"))),
      ("top_inst", .array (s.hotInsts.map (Hotspot.toJson "inst"))),
      ("stall_mode", .string (s.sources .stall).stallMode)] ++
    s.stalls.members ++
    [("predict", s.predict.toJson),
      ("ifu_fq", s.fetchQueue.toJson),
      ("metric_sources",
        .object (MetricFamily.all.map fun f => (f.label, .string (s.sources f).label))),
      ("quality_warnings", .array (s.warnings.map fun w => .string w.message))])

end RunSummary

end PipelineProfile
