/-
The program: it reads the files that a command needs, runs the command, prints
what it says and writes the files that it gives.
-/
import DataContract.Console.Run

open DataContract DataContract.Console

/-- The disk with the file at a path, if there is one. -/
def gatherFile (disk : Disk) (path : String) : IO Disk := do
  try
    let content ← IO.FS.readBinFile path
    match disk.write (Path.parse path) content with
    | .ok disk => return disk
    | .error _ => return disk
  catch _ => return disk

/-- The files that a command may read. -/
def gather (args : List String) : IO Disk :=
  match readArguments args with
  | .ok invocation => (inputPaths invocation).foldlM gatherFile Disk.empty
  | .error _ => return Disk.empty

/-- Write a file and create the directories that lead to it. -/
def writeOut (path : Path) (text : String) : IO Unit := do
  IO.FS.createDirAll path.parent.text
  IO.FS.writeFile path.text text

/-- Run the command that the arguments ask for. -/
def main (args : List String) : IO UInt32 := do
  let outcome := run (← gather args) args
  for (path, text) in outcome.world.written do
    writeOut path text
  IO.print outcome.world.output
  for notice in outcome.world.notices do
    if isVerbose args || notice.level != .debug then
      IO.eprintln (notice.level.name ++ " " ++ notice.message)
  if let some e := outcome.usage then
    IO.eprintln ("Error: " ++ e.message)
  if let some c := outcome.crash then
    IO.eprintln ("Error: " ++ c.description)
  return outcome.exitCode.toUInt32
