import PipelineProfile.Benchmark
import PipelineProfile.FileTree
import PipelineProfile.Summary.Json

/-!
# Profile directories

A profile directory holds the traces of benchmarks. Profiling it means to look for the trace of
each benchmark and to summarize each one that is there, independently of the others.

Files are reached through `MonadFiles`, so that the same program runs on a real file system and
on a `FileTree`, about which statements can be made.
-/

namespace PipelineProfile

/-- Computations that can read and write files. -/
class MonadFiles (m : Type → Type) where
  /-- Whether a path leads to a file. -/
  isFile : String → m Bool
  /-- The bytes of the file that a path leads to, if it can be read. -/
  read? : String → m (Option (List UInt8))
  /-- Write a file, and tell whether that was possible. -/
  write : String → List UInt8 → m Bool

instance : MonadFiles (StateM FileTree) where
  isFile path := do return (← get).isFile path
  read? path := do return (← get).read? path
  write path bytes := do
    match (← get).write? path bytes with
    | some t => set t; return true
    | none => return false

/-- A file that cannot be used. -/
inductive FileError where
  /-- There is no trace at the path. -/
  | traceNotFound (path : String)
  /-- There is a trace at the path, but it cannot be read. -/
  | traceUnreadable (path : String)
  /-- The template is missing or is not text. -/
  | template (path : String)
  /-- The file cannot be written. -/
  | unwritable (path : String)
  deriving DecidableEq, Repr

/-- The text of an error. -/
def FileError.message : FileError → String
  | traceNotFound path => "trace not found: " ++ path
  | traceUnreadable path => "failed to access " ++ path
  | template path => "failed to read report template " ++ path
  | unwritable path => "failed to write " ++ path

namespace RunSummary

/-- The summary of the trace at a path. -/
def ofFile {m : Type → Type} [Monad m] [MonadFiles m] (config : Config) (path : String) :
    m (Except FileError RunSummary) := do
  if ← MonadFiles.isFile path then
    match ← MonadFiles.read? path with
    | some bytes => return .ok (ofBytes config path bytes)
    | none => return .error (.traceUnreadable path)
  else return .error (.traceNotFound path)

end RunSummary

namespace Directory

/-- The first path of a list that leads to a file. -/
def firstFile? {m : Type → Type} [Monad m] [MonadFiles m] : List String → m (Option String)
  | [] => return none
  | path :: paths => do if ← MonadFiles.isFile path then return some path else firstFile? paths

/-- The traces of some benchmarks in a directory. -/
def tracesOf {m : Type → Type} [Monad m] [MonadFiles m] (dir : String) :
    List Benchmark → m (List (Benchmark × String))
  | [] => return []
  | b :: bs => do
    let path? ← firstFile? (b.candidates.map (Path.join dir))
    let rest ← tracesOf dir bs
    return (path?.map fun path => (b, path)).toList ++ rest

/-- The traces in a directory. -/
def traces {m : Type → Type} [Monad m] [MonadFiles m] (dir : String) :
    m (List (Benchmark × String)) :=
  tracesOf dir Benchmark.all

/-- The summaries of some traces, unless one of them cannot be read. -/
def summariesOf {m : Type → Type} [Monad m] [MonadFiles m] (config : Config) :
    List (Benchmark × String) → m (Except FileError (List (Benchmark × RunSummary)))
  | [] => return .ok []
  | (b, path) :: found => do
    let summary ← RunSummary.ofFile config path
    let rest ← summariesOf config found
    return do return (b, ← summary) :: (← rest)

/-- The summaries of the traces in a directory, unless one of them cannot be read. -/
def summaries {m : Type → Type} [Monad m] [MonadFiles m] (config : Config) (dir : String) :
    m (Except FileError (List (Benchmark × RunSummary))) := do
  summariesOf config (← traces dir)

/-- The summary of a benchmark. -/
def find? (found : List (Benchmark × RunSummary)) (b : Benchmark) : Option RunSummary :=
  (found.find? fun e => e.1 = b).map Prod.snd

/-- The document of some summaries, in the order of the names. -/
def toJson (found : List (Benchmark × RunSummary)) : Json :=
  .object (Benchmark.byName.filterMap fun b =>
    (find? found b).map fun s => (b.name, s.toJson))

end Directory

end PipelineProfile
