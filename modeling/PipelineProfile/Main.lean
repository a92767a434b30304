import PipelineProfile.CommandLine
import Std.Time.Format
import Std.Time.Zoned

/-!
# The program

The command line on the real file system and the real clock. What it does is `CommandLine.run`.
-/

namespace PipelineProfile

instance : MonadFiles IO where
  isFile path := do
    try
      match (← (← IO.FS.realPath path).metadata).type with
      | .file => return true
      | _ => return false
    catch _ => return false
  read? path := do
    try return some (← IO.FS.readBinFile path).toList
    catch _ => return none
  write path bytes := do
    try
      IO.FS.writeBinFile path ⟨bytes.toArray⟩
      return true
    catch _ => return false

end PipelineProfile

/-- Run the program with its arguments. -/
def main (arguments : List String) : IO UInt32 := do
  let now ← Std.Time.PlainDateTime.now
  let outcome : PipelineProfile.CommandLine.Outcome ←
    PipelineProfile.CommandLine.run (now.format "uuuu-MM-dd HH:mm:ss") arguments
  IO.print outcome.output
  IO.eprint outcome.complaint
  return outcome.status.toUInt32
