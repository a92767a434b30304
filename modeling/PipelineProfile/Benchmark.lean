/-!
# Benchmarks

The programs whose runs are profiled. A profile directory holds the trace of each under one of
a few names, and the first of these that is there is the one to read.
-/

namespace PipelineProfile

/-- The benchmarks. -/
inductive Benchmark where
  | dhrystone
  | coremark
  /-- A part of the same program with every retired instruction in the trace. -/
  | coremarkSample
  deriving DecidableEq, Repr

namespace Benchmark

/-- Every benchmark, in the order of reports. -/
def all : List Benchmark := [dhrystone, coremark, coremarkSample]

theorem mem_all (b : Benchmark) : b ∈ all := by cases b <;> decide

/-- Every benchmark, in the alphabetic order of the names. -/
def byName : List Benchmark := [coremark, coremarkSample, dhrystone]

/-- The name of a benchmark. -/
def name : Benchmark → String
  | dhrystone => "dhrystone"
  | coremark => "coremark"
  | coremarkSample => "coremark_sample"

/-- The names of files that may hold the trace of a benchmark, the preferred one first. -/
def candidates : Benchmark → List String
  | dhrystone => ["dhrystone.log", "dhrystone_full.log"]
  | coremark => ["coremark.log", "coremark_full.log"]
  | coremarkSample => ["coremark_commit_sample.log"]

end Benchmark

end PipelineProfile
