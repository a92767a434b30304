import PipelineProfile.CommandLine.Options
import PipelineProfile.Directory
import PipelineProfile.Report

/-!
# The command line

One call of the program: it summarizes the traces in a directory, writes the summaries as a JSON
document, and then writes the report. What is written before a failure stays.
-/

namespace PipelineProfile.CommandLine

/-- What a call leaves behind, besides files. -/
structure Outcome where
  /-- Zero for success, one for a failure, two for wrong arguments. -/
  status : UInt8
  /-- What is printed. -/
  output : String
  /-- What is said about a failure or wrong arguments. -/
  complaint : String
  deriving DecidableEq, Repr

/-- The text printed on a call for help. -/
def usage : String :=
  "Summarize NPC simulator traces into JSON and a markdown report\n\n" ++
  "Options:\n" ++
  "  -l, --log-dir <DIR>            Directory holding the benchmark logs\n" ++
  "  -t, --template <FILE>          Markdown template; the built-in one is used when omitted\n" ++
  "      --out-json <FILE>          Relative to the log directory [default: summary.json]\n" ++
  "      --out-md <FILE>            Relative to the log directory [default: report.md]\n" ++
  "      --post-flush-window <N>    Cycles after a flush that blocked decode belongs to it\n" ++
  "      --replay-full-lanes <N>    Pending replay sources at which rename counts as full\n" ++
  "      --hotspots <N>             Hotspots kept per benchmark\n" ++
  "  -v, --verbose\n" ++
  "  -h, --help\n"

variable {m : Type → Type} [Monad m] [MonadFiles m]

/-- Write a text, or fail. -/
def writeText (path text : String) : ExceptT FileError m Unit := do
  if ← (MonadFiles.write path text.toUTF8.toList : m Bool) then return ()
  else throw (.unwritable path)

/-- The text of the template to use. -/
def loadTemplate : Option String → ExceptT FileError m String
  | none => return Template.builtIn
  | some path => do
    let bytes? ← (MonadFiles.read? path : m (Option (List UInt8)))
    match bytes?.bind fun bytes => String.fromUTF8? ⟨bytes.toArray⟩ with
    | some text => return text
    | none => throw (.template path)

/-- Profile a directory, and tell what was written. -/
def profile (generatedAt : String) (o : Options) : ExceptT FileError m String := do
  let found ← ExceptT.mk (Directory.summaries o.config o.logDir)
  let outJson := o.resolve o.outJson
  writeText outJson ((Directory.toJson found).render ++ "\n")
  let template ← loadTemplate o.template
  let outMd := o.resolve o.outMd
  writeText outMd (Report.render template generatedAt (Directory.find? found))
  return "[profiler] summary json: " ++ outJson ++ "\n[profiler] report md: " ++ outMd ++ "\n"

/-- One call of the program. -/
def run (generatedAt : String) (arguments : List String) : m Outcome := do
  match Options.read arguments with
  | .error .help => return ⟨0, usage, ""⟩
  | .error (.mistake e) => return ⟨2, "", "error: " ++ e.message ++ "\n"⟩
  | .ok o =>
    match ← (profile generatedAt o).run with
    | .ok output => return ⟨0, output, ""⟩
    | .error e => return ⟨1, "", "Error: " ++ e.message ++ "\n"⟩

end PipelineProfile.CommandLine
