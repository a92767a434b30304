import PipelineProfile.Summary

/-!
# The section of a benchmark

A report has a section for each benchmark: a list of lines in Markdown. It begins with the
headline figures and the branch predictor. Blocks follow, each behind an empty line and under a
title of its own: the commit widths, the stall categories, the finer causes of stalls, the
fetch queue, the hottest addresses, the families whose figures are not from summary lines, and
the warnings. A block without content is left out, title and all, but for the first two.

Breakdowns list the larger counts first. Equal counts are in alphabetic order, and equal stall
categories in their order of priority.
-/

namespace PipelineProfile.Section

/-! ## Figures -/

/-- A text set off as a figure. -/
def figure (text : String) : String := "`" ++ text ++ "`"

/-- A count as a figure. -/
def count (n : Nat) : String := figure (Numeral.decimal n)

/-- Counts as figures. -/
def counts (ns : List Nat) : String := " / ".intercalate (ns.map count)

/-- A number with a set number of places as a figure. -/
def number (places : Nat) (x : Float) : String := figure (Decimal.fixed places x)

/-- A ratio in percent. -/
def percent (x : Float) : String := Decimal.fixed 2 (x * 100) ++ "%"

/-- A part of a total in percent. -/
def share (part total : Nat) : String :=
  Decimal.fixed 2 (Binary64.scaledRatio 100 part total) ++ "%"

/-- One line of a list. -/
def item (label value : String) : String := "- " ++ label ++ ": " ++ value

/-- One line of a list with a count and its share in a total. -/
def shareItem (label : String) (n total : Nat) : String :=
  item label (count n ++ " (" ++ share n total ++ ")")

/-- Lines under a title. -/
def block (title : String) (lines : List String) : List String := "" :: title :: lines

/-- Lines under a title, if there are any. -/
def optionalBlock (title : String) (lines : List String) : List String :=
  if lines.isEmpty then [] else block title lines

/-! ## Headline figures -/

/-- The time of a run and the clock it is taken from. -/
def time (r : RunTime) : String :=
  match r.effective with
  | some ms => number 3 ms ++ " (" ++ r.source.label ++ ")"
  | none => figure "N/A"

/-- The headline figures. -/
def headline (s : RunSummary) : List String :=
  let misses := s.flushes.misses
  [item "IPC/CPI" (number 6 s.totals.ipc ++ " / " ++ number 6 s.totals.cpi),
    item "cycles/commits" (counts [s.totals.cycles, s.totals.commits]),
    item "benchmark_time_ms" (time s.time),
    item "flush_per_kinst" (number 3 (s.perThousand s.flushes.count)),
    item "bru_per_kinst" (number 3 (s.perThousand s.branchResolves)),
    item "mispredict_flush(cond/jump/ret/unknown)"
      (counts [misses.cond, misses.jump, misses.ret, s.flushes.missesUnknown]),
    item "wrong_path_kill_uops" (count s.flushes.effects.killedUops),
    item "flush_penalty/branch_penalty cycles"
      (counts [s.flushes.penaltyCycles, s.flushes.branchPenaltyCycles]),
    item "redirect_distance(avg/max)"
      (number 2 s.flushes.effects.redirectAverage ++ " / " ++ count s.flushes.effects.redirectMax),
    item "control_ratio" (figure (percent s.control.ratio)),
    item "est_misp_per_kinst(static NT proxy)" (number 3 s.control.missesPerThousand)]

/-! ## The branch predictor -/

/-- One line about the branch predictor. -/
def predictItem (label value : String) : String := item ("predict(" ++ label ++ ")") value

/-- A rate that explains the figures before it. -/
def remark (what : String) (x : Float) : String := " (" ++ what ++ " " ++ percent x ++ ")"

/-- The branch predictor. -/
def predictor (c : PredictCounters) : List String :=
  [predictItem "cond hit/miss/total"
      (counts [c.cond.hit, c.cond.miss, c.cond.total] ++ remark "miss" c.cond.missRate),
    predictItem "cond local/global/selected acc"
      (" / ".intercalate ([c.chooser.localAccuracy, c.chooser.globalAccuracy,
        c.chooser.selectedAccuracy].map fun x => figure (percent x))),
    predictItem "cond chooser local/global" (counts [c.chooser.choseLocal, c.chooser.choseGlobal]),
    predictItem "jump hit/miss" (counts [c.jump.hit, c.jump.miss] ++ remark "miss" c.jump.missRate),
    predictItem "jump direct hit/miss" (counts [c.jumpDirect.hit, c.jumpDirect.miss]),
    predictItem "jump indirect hit/miss" (counts [c.jumpIndirect.hit, c.jumpIndirect.miss]),
    predictItem "ret hit/miss" (counts [c.ret.hit, c.ret.miss] ++ remark "miss" c.ret.missRate),
    predictItem "tage lookup/hit/override/correct"
      (counts [c.tage.lookups, c.tage.hits, c.tage.overrides, c.tage.overridesCorrect]),
    predictItem "sc lookup/confident/override/correct"
      (counts [c.corrector.lookups, c.corrector.confident, c.corrector.overrides,
        c.corrector.overridesCorrect]),
    predictItem "loop lookup/hit/confident/override/correct"
      (counts [c.loop.lookups, c.loop.hits, c.loop.confident, c.loop.overrides,
        c.loop.overridesCorrect]),
    predictItem "cond provider selected legacy/tage/sc/loop"
      (counts (Provider.all.map fun p => (c.provider p).selected) ++ remark "coverage" c.coverage),
    predictItem "cond wrong-selected alt-correct legacy/tage/sc/loop/any"
      (counts
          ((Provider.all.map fun p => (c.provider p).correctInstead) ++ [c.anyCorrectInstead]) ++
        " (of " ++ count c.selectedWrong ++ ")")]

/-! ## Blocks -/

/-- The histogram of commit widths. -/
def widths (hist : Tally Nat) : List String :=
  block "Commit Width Histogram:"
    (hist.entries.map fun e => item ("width" ++ Numeral.decimal e.1) (count e.2))

/-- The stall categories, largest first. -/
def categories (s : StallFigures) : List StallCategory :=
  StallCategory.all.mergeSort fun a b => s.byCategory b ≤ s.byCategory a

/-- The stall categories with their shares. -/
def stalls (mode : String) (s : StallFigures) : List String :=
  block ("Stall Categories (" ++ mode ++ "):")
    (if s.total = 0 then ["- (no stall samples)"]
    else
      (categories s).map (fun c => shareItem c.label (s.byCategory c) s.total) ++
        [item ("decode_blocked within " ++ Numeral.decimal s.window ++
            " cycles of flush/branch flush")
          (counts [s.blockedAfterFlush, s.blockedAfterMispredict])])

/-- The finer causes of a category with their shares, largest first. -/
def breakdown (title : String) (d : StallDetail) : List String :=
  if d.detail.isEmpty then []
  else
    block (title ++ " Breakdown:")
      (item "total" (count d.total) ::
        d.detail.ranking.map fun e => shareItem e.1 e.2 d.total)

/-- The fetch queue, if anything is known about it. -/
def fetchQueue (q : FetchQueue) : List String :=
  if q.samples = 0 && q.enqueued = 0 then []
  else
    block "Fetch Queue Effectiveness:"
      ([item "enq/deq/bypass"
          (counts [q.enqueued, q.dequeued, q.bypassed] ++ remark "bypass" q.bypassRatio),
        item "enq_blocked" (count q.enqueueBlocked),
        item "full/empty/nonempty cycles"
          (counts [q.fullCycles, q.emptyCycles, q.nonemptyCycles]),
        item "occupancy(avg/max)" (number 3 q.average ++ " / " ++ count q.occupancyMax)] ++
      q.occupancies.entries.map fun e =>
        shareItem ("occ=" ++ Numeral.decimal e.1) e.2 q.samples)

/-- How many of the hottest addresses are shown. -/
def hotspotsShown : Nat := 5

/-- The hottest addresses. -/
def hotspots (hs : List Hotspot) : List String :=
  optionalBlock "Top PC Hotspots:"
    ((hs.take hotspotsShown).map fun h => item h.text (count h.count))

/-- The families whose figures are not from summary lines. -/
def sources (source : MetricFamily → MetricSource) : List String :=
  optionalBlock "Metric Sources (non-summary):"
    ((MetricFamily.all.filter fun f => source f ≠ .summary).map fun f =>
      item f.label (figure (source f).label))

/-- The warnings. -/
def warnings (ws : List Warning) : List String :=
  optionalBlock "Quality Warnings:" (ws.map fun w => "- " ++ w.message)

/-! ## The whole -/

/-- The lines of the section of a benchmark. -/
def lines (name : String) (s : RunSummary) : List String :=
  ["### " ++ name, ""] ++
    headline s ++
    predictor s.predict ++
    widths s.commitWidths ++
    stalls (s.sources .stall).stallMode s.stalls ++
    breakdown "Frontend Empty" s.stalls.frontendEmpty ++
    breakdown "Decode Blocked" s.stalls.decodeBlocked ++
    breakdown "ROB Backpressure" s.stalls.robBackpressure ++
    breakdown "Other" s.stalls.other ++
    fetchQueue s.fetchQueue ++
    hotspots s.hotPcs ++
    sources s.sources ++
    warnings s.warnings

/-- The section of a benchmark. -/
def render (name : String) (s : RunSummary) : String := "\n".intercalate (lines name s)

end PipelineProfile.Section
