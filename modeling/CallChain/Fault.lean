/-
# Faults

Why an operation was refused. The first four say that the instrumentation does
not respect the order of enter and exit.

Key definitions: `Fault`, `Fault.message`, `Fault.isStackDiscipline`.
-/

namespace CallChain

inductive Fault where
  /-- the entry frame was left while `remaining` candidates were recorded -/
  | unbalanced (remaining : Nat)
  /-- a candidate was left while none was recorded -/
  | noCandidate
  /-- `operation` was called outside of a chain -/
  | notInTarget (operation : String)
  /-- an entry frame was entered inside a chain -/
  | alreadyInTarget
  /-- the session had completed before -/
  | sessionComplete
  /-- the system refused a step of writing the output -/
  | output (reason : String)
  /-- a frame could not be written as JSON -/
  | encoding (reason : String)
deriving DecidableEq

namespace Fault

/-- What is reported. -/
def message : Fault → String
  | .unbalanced remaining =>
    "exiting the entry frame with " ++ toString remaining ++
      " candidate frame(s) still on the capture stack"
  | .noCandidate => "no candidate frame to exit, only the entry frame is on the capture stack"
  | .notInTarget operation => operation ++ " requires an active target chain"
  | .alreadyInTarget => "entry frame entered while a target chain is already active"
  | .sessionComplete => "capture session already completed"
  | .output reason => "i/o error: " ++ reason
  | .encoding reason => "json error: " ++ reason

/-- Whether the instrumentation is to blame. -/
def isStackDiscipline : Fault → Bool
  | .unbalanced _ | .noCandidate | .notInTarget _ | .alreadyInTarget => true
  | .sessionComplete | .output _ | .encoding _ => false

end Fault

end CallChain
