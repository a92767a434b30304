import PipelineProfile.Benchmark
import PipelineProfile.Path
import PipelineProfile.Report.Section
import PipelineProfile.Report.Template

/-!
# Reports

A report is a template whose placeholders are filled: with the time it was made, the directory
of the traces, and the sections of the benchmarks for which there is a summary. The directory
is the one that holds the trace of the first of these benchmarks.
-/

namespace PipelineProfile.Report

/-- The benchmarks with a summary, in the order of reports. -/
def present (summary? : Benchmark → Option RunSummary) : List (Benchmark × RunSummary) :=
  Benchmark.all.filterMap fun b => (summary? b).map fun s => (b, s)

/-- The sections of the benchmarks with a summary. -/
def sections (summary? : Benchmark → Option RunSummary) : String :=
  match present summary? with
  | [] => "(No benchmark logs found)"
  | bs => "\n\n".intercalate (bs.map fun e => Section.render e.1.name e.2)

/-- The directory of the traces. -/
def profileDir (summary? : Benchmark → Option RunSummary) : String :=
  (((present summary?).head?.bind fun e => Path.parent? e.2.logPath)).getD "N/A"

/-- The values of the placeholders. -/
def values (generatedAt : String) (summary? : Benchmark → Option RunSummary) :
    Placeholder → String
  | .generatedAt => generatedAt
  | .profileDir => profileDir summary?
  | .benchmarkSections => sections summary?

/-- The report on some summaries. -/
def render (template : String) (generatedAt : String) (summary? : Benchmark → Option RunSummary) :
    String :=
  Template.fill (values generatedAt summary?) template

end PipelineProfile.Report
