/-
# A program with an agent of its own

A program has one agent, made from the settings that are installed first or else
from its environment, when it is first needed. What the agent sends is delivered to
the sink of its settings.

Key definitions: `Program.settings`, `Program.run`, `Program.matchText`.
-/
import CallChain.Scene.Play

namespace CallChain.Program

/-- The world of a program with an agent. -/
def start (role : Role) (walk : List String) : World Scene :=
  .start (.empty role) (some ⟨walk, []⟩)

/-- The settings of the agent. Every operation but an installation makes the agent
exist, so only the first one can install any. -/
def settings (environment : String → Option String) : List Op → Settings
  | .mk _ (.install settings) :: _ => settings
  | _ => .read environment

/-- Runs a program: the reports of the operations before its end, and what it has
written. -/
def run (environment : String → Option String) (ops : List Op) (d : Disk) :
    List (Report × List Report) × Disk :=
  let played := Scene.play ops (start .agent [])
  (played.1, (settings environment ops).sink.emitAll d (played.2.session 0).sent)

/-- A new agent reports a match whose terminal frame holds one text. -/
def matchText (settings : Settings) (m : Method) (text : String) (d : Disk) : Outcome × Disk :=
  let played := Scene.asHost.run Scene.levels (.request (.matchChain 0 m [.text text]))
    (start .agent [])
  (.ofCompletion played.1, settings.sink.emitAll d (played.2.session 0).sent)

end CallChain.Program
