/-
# The command line of the demo

The demo runs its program under the probe that its rules ask for. When the session
completes the program ends there; otherwise it prints its result.

Key definitions: `Demo.rulesVariable`, `Demo.Trace`, `Demo.run`, `Demo.runOn`.
-/
import CallChain.Scene.Program

namespace CallChain.Demo

/-- The variable of the rules. -/
def rulesVariable : String := "FRAMEWATCH_DEMO_RULES"

/-- The calls that are under way when the terminal method is called, most recent
call first. -/
def walk : List String :=
  ["end_chain(i64) i64", "mid_chain(i64) i64", "begin_chain(App) i64", "main(Vec<String>)"].map
    fun signature => (method signature).text

/-- What a run leaves: the artifacts sent, and the line that it prints if it gets to
its end. -/
structure Trace where
  artifacts : List String
  line : Option String

/-- Runs the demo. -/
def run (rules : Rules) (args : List String) : Trace :=
  let ran := Scene.asHost.run Scene.levels (body ⟨rules, true⟩ args) (Program.start .agent walk)
  { artifacts := (ran.2.session 0).sent
    line :=
      if ran.2.host.ended then none
      else some ("chain finished without a match: " ++ toString ran.1) }

/-- Runs the demo in an environment, and delivers what it leaves. -/
def runOn (environment : String → Option String) (args : List String) (d : Disk) : Disk :=
  let trace := run (.read (environment rulesVariable)) args
  let d := (Settings.read environment).sink.emitAll d trace.artifacts
  trace.line.elim d d.printLine

end CallChain.Demo
