import IndexPlanner.CommandLine.Run

/-! The program: it reads files, prints results, and prints errors apart from them. -/
namespace IndexPlanner

open CommandLine

/-- The text of a file, if it can be read. -/
def readTextFile (path : String) : IO (Option String) := do
  try
    return some (← IO.FS.readFile path)
  catch _ =>
    return none

end IndexPlanner

open IndexPlanner IndexPlanner.CommandLine

/-- Runs the program. -/
def main (args : List String) : IO UInt32 := do
  let outcome ← run readTextFile args
  match outcome with
  | .printed text => IO.print text
  | .failed e => IO.eprintln (e.code ++ ": " ++ e.message)
  | .misused => IO.eprint usage
  | .brokenOff => IO.eprintln "the log filter is cut inside a character"
  return outcome.exitCode.toUInt32
