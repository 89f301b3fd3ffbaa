/-
# The demo as a program

Reads the environment and the arguments, runs the demo, and delivers what it leaves
to the file system and to standard output.

Key definitions: `Demo.program`, `main`.
-/
import CallChain.Demo.CommandLine

namespace CallChain.Demo

/-- Prints a line at once. -/
def printNow (line : String) : IO Unit := do
  IO.println line
  (← IO.getStdout).flush

/-- Writes an artifact to its file, or prints it if that fails. -/
def deliver (sink : Sink) (artifact : String) : IO Unit :=
  match sink with
  | .console => printNow artifact
  | .file path =>
    try
      match path.ancestors with
      | directory :: _ => IO.FS.createDirAll directory.text
      | [] => pure ()
      IO.FS.writeFile path.text artifact
    catch _ => printNow artifact

/-- The demo in the environment of this process. -/
def program (args : List String) : IO Unit := do
  let rules ← IO.getEnv rulesVariable
  let output ← IO.getEnv Settings.outputVariable
  let log ← IO.getEnv Settings.logVariable
  let settings := Settings.read fun name =>
    if name = Settings.outputVariable then output else log
  let trace := run (.read rules) args
  trace.artifacts.forM (deliver settings.sink)
  trace.line.forM printNow

end CallChain.Demo

def main (args : List String) : IO Unit :=
  CallChain.Demo.program args
