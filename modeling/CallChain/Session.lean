/-
# Capture sessions

A session records one chain until it completes, by a match or by a report of the
call stack; after that it refuses everything. It uses one of the registries of
its world, and one that belongs to an agent has an outlet: the call stack as the
agent sees it, and the artifacts sent so far. The operations here are the part
that works on the session alone; what a frame holds was rendered before.

Key definitions: `Session`, `Phase`, `Session.phase`, `Session.enterEntry`,
`Session.exitEntry`, `Session.enterCandidate`, `Session.exitCandidate`,
`Session.matchChain`, `Session.discover`.
-/
import CallChain.Chain
import CallChain.Completion

namespace CallChain

/-- What connects the session of an agent to the outside. -/
structure Outlet where
  /-- the call stack that the agent reports, most recent call first -/
  walk : List String
  /-- the artifacts sent, oldest first -/
  sent : List String

/-- A capture session. -/
structure Session where
  /-- the number of its registry -/
  registry : Nat
  chain : Chain
  complete : Bool
  outlet : Option Outlet

/-- What a session is doing. -/
inductive Phase where
  | idle
  | inTarget
  | matched
deriving DecidableEq

/-- A session as seen from outside: its phase, whether a chain is active, how many
frames are recorded, and how many slots its registry has. -/
structure Standing where
  phase : Phase
  inTarget : Bool
  depth : Nat
  slots : Nat

namespace Session

/-- A new session on a registry. -/
def fresh (registry : Nat) (outlet : Option Outlet) : Session :=
  ⟨registry, .empty, false, outlet⟩

/-- A session that refuses everything stands for one that was never opened. -/
def closed : Session :=
  ⟨0, .empty, true, none⟩

instance : Inhabited Session := ⟨closed⟩

def phase (s : Session) : Phase :=
  if s.complete then .matched else if s.chain.inTarget then .inTarget else .idle

/-- The call stack that a report shows: the agent's own, or the one offered. -/
def walk (s : Session) (offered : List String) : List String :=
  match s.outlet with
  | some outlet => outlet.walk
  | none => offered

/-- The artifacts that the session's agent has sent. -/
def sent (s : Session) : List String :=
  match s.outlet with
  | some outlet => outlet.sent
  | none => []

/-- The session at its end; an agent sends the artifact. -/
def finish (s : Session) (c : Completion) : Session :=
  { s with
    complete := true
    outlet := s.outlet.map fun outlet => { outlet with sent := outlet.sent ++ [c.artifact] } }

/-! ### Operations on a live session -/

/-- The entry frame was entered. -/
def enterEntry (entry : Frame) (s : Session) : Except Fault (Unit × Session) :=
  (s.chain.enter entry).map fun chain => ((), { s with chain })

/-- The entry frame returned without a match. -/
def exitEntry (s : Session) : Except Fault (Unit × Session) :=
  s.chain.leave.map fun left => ((), { s with chain := left.2 })

/-- A candidate was entered inside the chain. -/
def enterCandidate (candidate : Frame) (s : Session) : Except Fault (Bool × Session) :=
  (s.chain.push candidate).map fun chain => (true, { s with chain })

/-- A candidate returned; outside of a chain nobody cares. -/
def exitCandidate (s : Session) : Except Fault (Bool × Session) :=
  if !s.chain.inTarget then .ok (false, s)
  else s.chain.pop.map fun popped => (true, { s with chain := popped.2 })

/-- The terminal frame was entered: the chain ends with it. -/
def matchChain (terminal : Frame) (s : Session) : Except Fault (Completion × Session) :=
  let completion := Completion.matching (s.chain.snapshot terminal)
  .ok (completion, s.finish completion)

/-- The call stack is reported, whatever has been recorded. -/
def discover (offered : List String) (s : Session) : Except Fault (Completion × Session) :=
  let completion := Completion.discovering (s.walk offered)
  .ok (completion, s.finish completion)

end Session

end CallChain
