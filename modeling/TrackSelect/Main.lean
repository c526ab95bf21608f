import TrackSelect.CommandLine
import TrackSelect.Machine

/-!
# The program

The outer layer of the command line. It puts the files that a run needs on a disk, which are the
settings and the tools they name; runs the command line on it, the tools being scripts; then
writes the files that are new or have changed, prints the reports and the complaints, and ends
with 0 if all went well, else with 1.
-/

namespace TrackSelect.CommandLine

/-- Put a file on a disk, if it can be read. -/
def fetch (disk : Disk) (path : String) : IO Disk := do
  match ← (IO.FS.readBinFile path).toBaseIO with
  | .ok content => return disk.supply path content.toList
  | .error _ => return disk

/-- Write a file, and the folders above it. -/
def deliver (path : String) (content : List UInt8) : IO Unit := do
  let folder := (Path.parent? path).getD ""
  unless folder.isEmpty do IO.FS.createDirAll folder
  IO.FS.writeBinFile path (ByteArray.mk content.toArray)

end TrackSelect.CommandLine

open TrackSelect in
def main (arguments : List String) : IO UInt32 := do
  let path := CommandLine.settingsPath arguments
  let disk ← CommandLine.fetch .fresh path
  let disk ← (CommandLine.tools disk path).foldlM CommandLine.fetch disk
  let (outcome, world) := CommandLine.run Machine.host arguments (Machine.start disk)
  for (name, content) in world.disk.files do
    unless (name, content) ∈ disk.files do CommandLine.deliver name content
  IO.print outcome.output
  outcome.complaints.forM IO.eprintln
  return if outcome.succeeded then 0 else 1
