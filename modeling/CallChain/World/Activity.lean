/-
# What host code does

Host code is an arbitrary program as far as a capture is concerned: it works on a
state `H` of its own, gives birth to objects, and calls the capture machinery
through requests, whose replies it may act upon. An `Activity` is such a program
as data, so that statements can speak of all of them. Value descriptors are
activities too, and that is how the machinery is entered again while it is at
work.

Key definitions: `Request`, `Request.Reply`, `Activity`, `Host`.
-/
import CallChain.Session

namespace CallChain

/-- A call of the capture machinery. Sessions go by number; the requests on a
registry go to that of the session. -/
inductive Request where
  | enterEntry (session : Nat) (method : Method) (values : List Value)
  | exitEntry (session : Nat)
  | enterCandidate (session : Nat) (method : Method) (values : List Value)
  | exitCandidate (session : Nat)
  | matchChain (session : Nat) (method : Method) (values : List Value)
  | discover (session : Nat) (offered : List String)
  /-- how the session stands -/
  | look (session : Nat)
  /-- the frames recorded so far -/
  | frames (session : Nat)
  /-- the artifacts sent so far -/
  | sent (session : Nat)
  /-- the identity of a value, given out if need be -/
  | identify (session : Nat) (value : Value)
  /-- the identity that a value has already -/
  | lookup (session : Nat) (value : Value)
  /-- releases the slots of dead objects -/
  | purge (session : Nat)
  /-- one pass over some values -/
  | render (session : Nat) (values : List Value)
  /-- a pass for each value -/
  | renderEach (session : Nat) (values : List Value)
  /-- a new session, on the registry of another one or on a new one -/
  | openSession (share : Option Nat)

/-- What a request is answered with. -/
@[reducible]
def Request.Reply : Request → Type
  | .enterEntry .. => Except Fault Unit
  | .exitEntry .. => Except Fault Unit
  | .enterCandidate .. => Except Fault Bool
  | .exitCandidate .. => Except Fault Bool
  | .matchChain .. => Except Fault Completion
  | .discover .. => Except Fault Completion
  | .look .. => Standing
  | .frames .. => List Frame
  | .sent .. => List String
  | .identify .. => Nat
  | .lookup .. => Option Nat
  | .purge .. => Nat
  | .render .. => List (Rendered Nat)
  | .renderEach .. => List (Rendered Nat)
  | .openSession .. => Nat

/-- A program of host code with state `H` and result `α`. -/
inductive Activity (H α : Type) : Type where
  | done (result : α)
  /-- changes the state, and goes on with the new one -/
  | host (change : H → H) (next : H → Activity H α)
  /-- gives birth to an object, at the given place if that is free, and stores its
  handle -/
  | create (typeName : String) (place : Nat) (store : ObjectRef → H → H)
      (next : ObjectRef → Activity H α)
  /-- calls the machinery -/
  | call (request : Request) (next : request.Reply → Activity H α)

namespace Activity

variable {H α β : Type}

/-- One program after another. -/
def bind : Activity H α → (α → Activity H β) → Activity H β
  | .done result, go => go result
  | .host change next, go => .host change fun h => (next h).bind go
  | .create typeName place store next, go => .create typeName place store fun o => (next o).bind go
  | .call request next, go => .call request fun reply => (next reply).bind go

instance : Monad (Activity H) where
  pure := .done
  bind := bind

/-- Calls the machinery and returns its reply. -/
def request (r : Request) : Activity H r.Reply :=
  .call r .done

/-- The state of the host. -/
def get : Activity H H :=
  .host id .done

/-- Changes the state of the host. -/
def modify (change : H → H) : Activity H Unit :=
  .host change fun _ => .done ()

/-- Gives birth to an object anywhere and stores its handle. -/
def birth (typeName : String) (store : ObjectRef → H → H) : Activity H ObjectRef :=
  .create typeName 0 store .done

end Activity

/-- A host: how its objects describe themselves, and which of them it keeps alive
in a state. Both depend on the handles that are held elsewhere, because a link that
does not keep its object alive leads somewhere only as long as something else does. -/
structure Host (H : Type) where
  describe : List ObjectRef → ObjectRef → Activity H Answer
  keeps : H → List ObjectRef → List ObjectRef

end CallChain
