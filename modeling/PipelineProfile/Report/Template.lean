import PipelineProfile.Text.Search

/-!
# Templates

A template is a text with placeholders, names in double braces. Filling it puts a value in the
place of every occurrence of each placeholder, one placeholder after the other. So a placeholder
in the value of an earlier one is filled as well, and one in the value of a later one is not.
-/

namespace PipelineProfile

/-- What a template leaves open. -/
inductive Placeholder where
  /-- When the report was made. -/
  | generatedAt
  /-- The directory with the traces. -/
  | profileDir
  /-- A section for each benchmark. -/
  | benchmarkSections
  deriving DecidableEq, Repr

namespace Placeholder

/-- Every placeholder, in the order of filling. -/
def all : List Placeholder := [generatedAt, profileDir, benchmarkSections]

/-- The name of a placeholder. -/
def name : Placeholder → String
  | generatedAt => "GENERATED_AT"
  | profileDir => "PROFILE_DIR"
  | benchmarkSections => "BENCHMARK_SECTIONS"

/-- A placeholder as it stands in a template. -/
def mark (p : Placeholder) : List Char := '{' :: '{' :: (p.name.toList ++ ['}', '}'])

end Placeholder

namespace Template

/-- The template with its placeholders filled. -/
def fill (value : Placeholder → String) (template : String) : String :=
  String.ofList (Placeholder.all.foldl
    (fun text p => Text.replaceAll p.mark (value p).toList text) template.toList)

/-- The template of reports for which the user gives none. -/
def builtIn : String :=
  "# NPC Performance Profile\n" ++
  "\n" ++
  "- Generated at: \x7b\x7bGENERATED_AT\x7d\x7d\n" ++
  "- Profile directory: `\x7b\x7bPROFILE_DIR\x7d\x7d`\n" ++
  "\n" ++
  "Stall and fetch-queue figures marked `sampled` come from `[stall]` lines\n" ++
  "emitted only after a run of non-retiring cycles; treat their shares as\n" ++
  "indicative. Figures marked `summary` are per-cycle counters.\n" ++
  "\n" ++
  "## Benchmarks\n" ++
  "\n" ++
  "\x7b\x7bBENCHMARK_SECTIONS\x7d\x7d\n"

end Template

end PipelineProfile
