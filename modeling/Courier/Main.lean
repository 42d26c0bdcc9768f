import Courier.Process.Run

/-!
# The command

Runs the command with the arguments of the process and the files of its directory.
-/

open Courier

/-- The content of a file, if it can be read. -/
def content? (path : String) : IO (Option String) := do
  try
    return some (← IO.FS.readFile path)
  catch _ => return none

def main (arguments : List String) : IO UInt32 := do
  let path := (Process.parse arguments).toOption.bind Process.Request.config
  let content ← match path with
    | none => pure none
    | some path => content? path
  let result := Process.run arguments fun name => if some name = path then content else none
  for line in result.output do
    IO.println line
  for report in result.log do
    IO.println report.entry.line
  for line in result.errors do
    IO.eprintln line
  return result.exit.toUInt32
