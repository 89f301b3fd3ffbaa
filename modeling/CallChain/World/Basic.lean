/-
# The world of a capture

Everything that a run changes: the state of the host, the objects born so far
that have not been found dead, the registries, the sessions, and a journal of what
the machinery did. An object that has been found dead stays dead: a handle to it
counts as null from then on.

Key definitions: `Moment`, `Event`, `World`, `World.grasp`, `World.create`,
`World.tag`, `World.purge`.
-/
import CallChain.Registry
import CallChain.World.Activity

namespace CallChain

/-- How the machinery stands at a point of a run. -/
structure Moment where
  /-- the objects that have not been found dead -/
  known : List ObjectRef
  registries : List Registry
  sessions : List Session

namespace Moment

/-- A session by its number. -/
def session (m : Moment) (n : Nat) : Session :=
  m.sessions.getD n .closed

/-- A registry by its number. -/
def registry (m : Moment) (n : Nat) : Registry :=
  m.registries.getD n .empty

/-- The number of the registry that a session uses, if there is such a session. -/
def registryOf? (m : Moment) (n : Nat) : Option Nat :=
  m.sessions[n]?.map Session.registry

/-- How a session stands. -/
def standing (m : Moment) (n : Nat) : Standing where
  phase := (m.session n).phase
  inTarget := (m.session n).chain.inTarget
  depth := (m.session n).chain.depth
  slots := (m.registry (m.session n).registry).size

end Moment

/-- Something the machinery did. -/
inductive Event where
  /-- an object was shown by the identity that a registry gave it -/
  | tagged (registry : Nat) (o : ObjectRef) (id : Nat)
  /-- an object was asked to describe itself -/
  | asked (o : ObjectRef)
  /-- an object that was asked gave this answer -/
  | answered (o : ObjectRef) (answer : Answer)
  /-- a pass over some values ended, with the identities of a registry -/
  | rendered (registry : Nat) (values : List Value) (results : List (Rendered Nat))
  /-- the values of a frame were rendered for a session -/
  | captured (session : Nat) (frame : Frame)
  /-- a purge released so many slots of a registry -/
  | released (registry : Nat) (count : Nat)
  /-- a request was answered, and this is how the machinery stood then -/
  | returned (request : Request) (reply : request.Reply) (after : Moment)

/-- The state of a run over a host with state `H`. -/
structure World (H : Type) extends Moment where
  host : H
  /-- the number of objects born so far -/
  births : Nat
  /-- what happened, latest first -/
  journal : List Event

namespace World

variable {H : Type}

/-- A world with one session on one registry. -/
def start (host : H) (outlet : Option Outlet) : World H where
  host := host
  births := 0
  known := []
  registries := [.empty]
  sessions := [.fresh 0 outlet]
  journal := []

def note (w : World H) (e : Event) : World H :=
  { w with journal := e :: w.journal }

def setSession (w : World H) (n : Nat) (s : Session) : World H :=
  { w with sessions := w.sessions.set n s }

def setRegistry (w : World H) (n : Nat) (r : Registry) : World H :=
  { w with registries := w.registries.set n r }

/-- A new session on the registry of another one, or on a new one. -/
def openSession (w : World H) (share : Option Nat) : Nat × World H :=
  match share.bind w.registryOf? with
  | some n => (w.sessions.length, { w with sessions := w.sessions ++ [.fresh n none] })
  | none =>
    (w.sessions.length,
      { w with
        registries := w.registries ++ [.empty]
        sessions := w.sessions ++ [.fresh w.registries.length none] })

/-! ### Objects -/

/-- A value as the machinery sees it: a handle to a dead object is null. -/
def grasp (w : World H) : Value → Value
  | .scalar s => .scalar s
  | .object o => if o ∈ w.known then .object o else .null

/-- Whether an address is taken, by an object or by the slot of a dead one. -/
def taken (w : World H) (address : Nat) : Bool :=
  w.known.any (·.address = address) || w.registries.any (·.reserves address)

/-- An address beyond all that are taken. -/
def beyond (w : World H) : Nat :=
  let top := w.known.foldl (fun top o => max top o.address) 0
  1 + w.registries.foldl (fun top r => r.slots.foldl (fun top s => max top s.address) top) top

/-- A new object, at the given place if that is free. -/
def newborn (w : World H) (typeName : String) (place : Nat) : ObjectRef where
  serial := w.births
  address := if w.taken place then w.beyond else place
  typeName := typeName

/-- The birth of an object, whose handle the host stores. -/
def create (w : World H) (typeName : String) (place : Nat) (store : ObjectRef → H → H) :
    ObjectRef × World H :=
  let o := w.newborn typeName place
  (o, { w with host := store o w.host, births := w.births + 1, known := o :: w.known })

/-- Forgets the objects that neither the host nor a held handle keeps alive. -/
def sweep (w : World H) (keeps : H → List ObjectRef → List ObjectRef) (held : List ObjectRef) :
    World H :=
  let alive := held ++ keeps w.host held
  { w with known := w.known.filter (· ∈ alive) }

/-- Whether the object of that birth has not been found dead. -/
def isKnown (w : World H) (serial : Nat) : Bool :=
  w.known.any (·.serial = serial)

/-! ### Registries -/

/-- Names an object by a registry. -/
def tag (n : Nat) (o : ObjectRef) (w : World H) : Nat × World H :=
  let named := (w.registry n).idOf o
  (named.1, (w.setRegistry n named.2).note (.tagged n o named.1))

/-- Releases the slots of the objects that are dead now, and counts them. -/
def purge (w : World H) (keeps : H → List ObjectRef → List ObjectRef) (held : List ObjectRef)
    (n : Nat) : Nat × World H :=
  let swept := w.sweep keeps held
  let purged := (swept.registry n).purge swept.isKnown
  (purged.1, (swept.setRegistry n purged.2).note (.released n purged.1))

end World

end CallChain
