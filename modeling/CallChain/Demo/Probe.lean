/-
# The probe of the demo

The instrumentation woven into the methods of the demo. It reports to the agent of
session 0 as far as its rules ask for it and swallows every fault. A probe keeps
the completion of its session; one that terminates ends the program with it.

Key definitions: `Probe`, `Probe.entry`, `Probe.exitEntry`, `Probe.candidate`,
`Probe.exitCandidate`, `Probe.terminal`.
-/
import CallChain.Scene.Recipe

namespace CallChain

/-- What a probe does, and whether the program ends when its session completes. -/
structure Probe where
  rules : Rules
  terminates : Bool

namespace Probe

/-- Makes a request, whatever comes of it, when the chain is to be recorded. -/
def report (p : Probe) (r : Request) : Activity Scene Unit := do
  if p.rules = .serialize then
    let _ ← .request r

/-- The entry method was called. -/
def entry (p : Probe) (m : Method) (vs : List Value) : Activity Scene Unit :=
  p.report (.enterEntry 0 m vs)

/-- The entry method returned. -/
def exitEntry (p : Probe) : Activity Scene Unit :=
  p.report (.exitEntry 0)

/-- A candidate was called. -/
def candidate (p : Probe) (m : Method) (vs : List Value) : Activity Scene Unit :=
  p.report (.enterCandidate 0 m vs)

/-- A candidate returned. -/
def exitCandidate (p : Probe) : Activity Scene Unit :=
  p.report (.exitCandidate 0)

/-- Keeps a completion, if there is one. -/
def keep (p : Probe) : Except Fault Completion → Activity Scene Unit
  | .error _ => return ()
  | .ok completion => .modify fun s =>
    { s with kept := some completion, ended := s.ended || p.terminates }

/-- The terminal method was called. -/
def terminal (p : Probe) (m : Method) (vs : List Value) : Activity Scene Unit :=
  match p.rules with
  | .off => return ()
  | .discover => do
    let reply ← .request (.discover 0 [])
    p.keep reply
  | .serialize => do
    let reply ← .request (.matchChain 0 m vs)
    p.keep reply

end Probe

end CallChain
