import DocPath.CommandLine.Run

/-!
# The command

Reads what a run needs from the file system and standard input, and shows its outcome.
-/

namespace DocPath.CommandLine

/-- What a path leads to in the file system. -/
def readState (path : String) : IO FileState := do
  match ← (IO.FS.Handle.mk path .read).toBaseIO with
  | .error _ => return .missing
  | .ok handle =>
    match ← handle.readBinToEnd.toBaseIO with
    | .error _ => return .directory
    | .ok content => return .file content

/-- The part of the world that an invocation reads. -/
def readWorld (invocation : Invocation) : IO World := do
  let home := (← IO.getEnv "HOME").getD ""
  let configPath := invocation.configPath home
  let config ← readState configPath
  let document ←
    match invocation.file with
    | some path => readState path
    | none => pure .missing
  let input ←
    if invocation.readsInput then (← IO.getStdin).readBinToEnd else pure .empty
  return { file := fun path => if path == configPath then config else document, input, home }

/-- Shows an outcome and gives the status to exit with. -/
def Outcome.present (outcome : Outcome) : IO UInt32 := do
  IO.print outcome.output
  for line in outcome.report do
    IO.eprintln line
  return outcome.status

/-- Runs the command in the real world. -/
def perform (arguments : List String) : IO UInt32 := do
  match Invocation.ofArguments? arguments with
  | some invocation => (invocation.run (← readWorld invocation)).present
  | none => Outcome.usage.present

end DocPath.CommandLine

/-- The entry point of the command. -/
def main (arguments : List String) : IO UInt32 := DocPath.CommandLine.perform arguments
