/-
# Scenes

A scene is a small host program to capture: objects of a few kinds, some of them
under names, and operations that build and change them and call the capture
machinery. Scripted objects answer from a list of scripts, and a script may carry
operations of its own, which run while the object is being asked.

Values are given by recipes, which are followed when they are needed: a name means
the object of that name at that time.

Key definitions: `Recipe`, `Script`, `Op`, `Deed`, `Thing`, `Scene`.
-/
import CallChain.Demo.Rules
import CallChain.Output.Settings
import CallChain.World.Activity

namespace CallChain

/-- The kinds of objects that a value is nested in. -/
inductive Nesting where
  | record
  | sequence
  | mapping
deriving DecidableEq

/-- How a value is made. All but the first two forms make a new object. -/
inductive Recipe where
  | scalar (s : Scalar)
  /-- the object of that name, or null -/
  | named (name : String)
  /-- an object with the type and the scripts of a scripted one, or null -/
  | again (name : String)
  /-- a record whose fields are made with it -/
  | record (typeName : String) (fields : List (String × Recipe))
  /-- an object whose contents are made each time it is asked -/
  | made (typeName : String) (contents : Shape Recipe)
  | broken (f : Failure)
  | panicking (message : String)
  /-- a value inside so many objects of one child each -/
  | nest (count : Nat) (nesting : Nesting) (inner : Recipe)

instance : Inhabited Recipe := ⟨.scalar .null⟩

/-- How a script ends: the answer of the object, its values still to be made. -/
inductive Ending where
  | shape (contents : Shape Recipe)
  | failed (f : Failure)
  | panicked (text : Option String)

mutual

/-- One answer of a scripted object, and the operations that run before it. -/
inductive Script where
  | mk (hook : List Op) (ending : Ending)

/-- An operation on a session. -/
inductive Op where
  | mk (session : Nat) (deed : Deed)

/-- What an operation does. -/
inductive Deed where
  | enter (method : Method) (values : List Recipe)
  | exit
  | candidate (method : Method) (values : List Recipe)
  | uncandidate
  | matchChain (method : Method) (values : List Recipe)
  | discover (walk : List String)
  /-- a match after which the program ends -/
  | matchExit (method : Method) (values : List Recipe)
  /-- a report after which the program ends -/
  | discoverExit
  | inTarget
  | frames
  | look
  | openSession (share : Option Nat)
  | identify (value : Recipe)
  | recall (value : Recipe)
  | isEmpty
  | purge
  | render (values : List Recipe)
  | renderEach (values : List Recipe)
  | define (name typeName : String) (scripts : List Script)
  | rescript (name : String) (scripts : List Script)
  | calls (name : String)
  | node (name label : String)
  | adopt (parent child : String)
  | rename (name label : String)
  | children (name : String)
  | app (name label : String)
  | adoptApp (parent child : String)
  | alias (name old : String)
  | same (a b : Recipe)
  | drop (name : String)
  | beginChain (app other : String)
  | runDemo (args : List String)
  /-- installs the agent of the program, unless it has one -/
  | install (settings : Settings)

end

/-- The two kinds of families: a member has a label, a roster of the members it
adopted, and a link to the member that adopted it last. -/
inductive Family where
  | node
  | app
deriving DecidableEq

namespace Family

/-- The type name of a member. -/
def typeName : Family → String
  | .node => "Node"
  | .app => "demo.App"

/-- The type name of a roster. -/
def rosterType : Family → String
  | .node => "Vec<Node>"
  | .app => "Vec<demo.App>"

/-- The name under which a member shows its roster. -/
def rosterField : Family → String
  | .node => "children"
  | .app => "apps"

end Family

/-- The contents of an object of a scene. -/
inductive Thing where
  | scripted (scripts : List Script) (calls : Nat)
  | fixed (shape : Shape Value)
  | made (contents : Shape Recipe)
  | broken (f : Failure)
  | panicking (message : String)
  /-- the link to the parent does not keep the parent alive -/
  | member (family : Family) (label : String) (roster : ObjectRef) (parent : Option ObjectRef)
  | roster (members : List ObjectRef)

/-- What stands behind session 0 of a scene. -/
inductive Role where
  | session
  | agent
  | probe (rules : Rules)

/-- What an operation returns. -/
inductive Outcome where
  | nothing
  | ok
  | flag (b : Bool)
  | number (n : Int)
  | text (s : String)
  | texts (ss : List String)
  | completion (c : Completion)
  | fault (f : Fault)

/-- The report on an operation: what it returned, how its session stands after it,
and which artifacts the agent sent during it. -/
structure Report where
  outcome : Outcome
  standing : Standing
  sent : List String

/-- The state of a scene. -/
structure Scene where
  role : Role
  /-- the objects under names, latest name first -/
  names : List (String × ObjectRef)
  /-- the contents of the objects, by their birth -/
  things : List (Nat × Thing)
  /-- the objects without a name that live until the operation ends -/
  fresh : List ObjectRef
  /-- the reports of the operations in scripts, oldest first -/
  hooks : List Report
  /-- the completion that a probe keeps -/
  kept : Option Completion
  /-- whether the program has ended -/
  ended : Bool

namespace Scene

def empty (role : Role) : Scene :=
  ⟨role, [], [], [], [], none, false⟩

/-- The object of a name. -/
def object? (s : Scene) (name : String) : Option ObjectRef :=
  s.names.lookup name

/-- The contents of an object. -/
def thing? (s : Scene) (o : ObjectRef) : Option Thing :=
  s.things.lookup o.serial

/-- A list of pairs without a key. -/
def without {κ α : Type} [BEq κ] (key : κ) (pairs : List (κ × α)) : List (κ × α) :=
  pairs.filter fun pair => pair.1 != key

/-- Gives an object a name, which it may have had before. -/
def setName (name : String) (o : ObjectRef) (s : Scene) : Scene :=
  { s with names := (name, o) :: without name s.names }

/-- Changes the contents of an object. -/
def setThing (o : ObjectRef) (t : Thing) (s : Scene) : Scene :=
  { s with things := (o.serial, t) :: without o.serial s.things }

/-- A new object without a name. -/
def addFresh (t : Thing) (o : ObjectRef) (s : Scene) : Scene :=
  { s with things := (o.serial, t) :: s.things, fresh := o :: s.fresh }

/-- The scripts of the scripted object of a name, with the object. -/
def scripted? (s : Scene) (name : String) : Option (ObjectRef × List Script × Nat) := do
  let o ← s.object? name
  match ← s.thing? o with
  | .scripted scripts calls => some (o, scripts, calls)
  | _ => none

/-- A member of a family, by its handle. -/
structure Member where
  object : ObjectRef
  label : String
  roster : ObjectRef
  parent : Option ObjectRef

/-- The member of a family behind a handle. -/
def memberAt? (s : Scene) (family : Family) (o : ObjectRef) : Option Member :=
  match s.thing? o with
  | some (.member family' label roster parent) =>
    if family = family' then some ⟨o, label, roster, parent⟩ else none
  | _ => none

/-- The member of a family of a name. -/
def member? (s : Scene) (family : Family) (name : String) : Option Member :=
  (s.object? name).bind (s.memberAt? family)

/-- The members on a roster. -/
def rosterOf (s : Scene) (roster : ObjectRef) : List ObjectRef :=
  match s.thing? roster with
  | some (.roster members) => members
  | _ => []

/-! ### Which objects are alive -/

/-- The objects that an object keeps alive. -/
def Thing.keeps : Thing → List ObjectRef
  | .fixed shape => Value.objects shape.children
  | .member _ _ roster _ => [roster]
  | .roster members => members
  | _ => []

/-- The objects reached from the ones still to be visited. The fuel bounds the
visits. -/
def reach (next : ObjectRef → List ObjectRef) : Nat → List ObjectRef → List ObjectRef → List ObjectRef
  | 0, _, seen => seen
  | _, [], seen => seen
  | fuel + 1, o :: rest, seen =>
    if o ∈ seen then reach next fuel rest seen else reach next fuel (next o ++ rest) (o :: seen)

/-- The objects that a scene keeps alive: those under names, those of the operation
under way, and what these and the held ones keep alive in turn. Every object is
visited once for each handle to it. -/
def keeps (s : Scene) (held : List ObjectRef) : List ObjectRef :=
  let roots := s.names.map (·.2) ++ s.fresh ++ held
  let visits := s.things.foldl (fun n thing => n + (Thing.keeps thing.2).length) roots.length
  reach (fun o => (s.thing? o).elim [] Thing.keeps) (visits + 1) roots []

end Scene

end CallChain
