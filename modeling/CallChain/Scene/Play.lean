/-
# Playing a scene

How the objects of a scene describe themselves, and how a list of operations is
played: one after the other, each with the reports of the operations that its
scripts ran, until the program ends.

Key definitions: `Scene.describe`, `Scene.asHost`, `Scene.step`, `Scene.play`.
-/
import CallChain.Scene.Deed
import CallChain.World.Run

namespace CallChain

namespace Scene

/-- Runs the operations of a script and keeps their reports. -/
def runHook : List Op → Activity Scene Unit
  | [] => return ()
  | op :: rest => do
    let report ← op.run
    .modify fun s => { s with hooks := s.hooks ++ [report] }
    runHook rest

/-- The script of a call: the first call takes the first one, and the last one
serves all calls after it. -/
def scriptOf (scripts : List Script) (call : Nat) : Option Script :=
  scripts[min call (scripts.length - 1)]?

/-- The answer at the end of a script. -/
def answer : Ending → Activity Scene Answer
  | .shape contents => do
    let shape ← Recipe.followShape contents
    return .shape shape
  | .failed f => return .failed f
  | .panicked text => return .panicked text

/-- How an object of a scene describes itself. -/
def describe (held : List ObjectRef) (o : ObjectRef) : Activity Scene Answer := do
  let scene ← .get
  match scene.thing? o with
  | none => return .shape (.sequence [])
  | some (.scripted scripts calls) =>
    .modify (setThing o (.scripted scripts (calls + 1)))
    match scriptOf scripts calls with
    | none => return .shape (.sequence [])
    | some (.mk hook ending) =>
      runHook hook
      answer ending
  | some (.fixed shape) => return .shape shape
  | some (.made contents) => do
    let shape ← Recipe.followShape contents
    return .shape shape
  | some (.broken f) => return .failed f
  | some (.panicking message) => return .panicked (some message)
  | some (.member family label roster parent) =>
    let alive := scene.keeps held
    let parent := parent.filter (· ∈ alive)
    return .shape (.record [("name", .text label), (family.rosterField, .object roster),
      ("parent", parent.elim .null .object)])
  | some (.roster members) => return .shape (.sequence (members.map .object))

/-- A scene as the host of a capture. -/
def asHost : Host Scene where
  describe := describe
  keeps := keeps

/-- How deeply host code may call host code. -/
def levels : Nat := 10000

/-- Plays one operation: its report, and those of the operations in scripts. What it
made without naming it is dead when it has ended. -/
def step (op : Op) (w : World Scene) : (Report × List Report) × World Scene :=
  let played := asHost.run levels op.run w
  let scene := played.2.host
  ((played.1, scene.hooks), { played.2 with host := { scene with fresh := [], hooks := [] } })

/-- Plays operations until the program ends. The one that ends it has no report. -/
def play : List Op → World Scene → List (Report × List Report) × World Scene
  | [], w => ([], w)
  | op :: rest, w =>
    let stepped := step op w
    if stepped.2.host.ended then ([], stepped.2)
    else
      let others := play rest stepped.2
      (stepped.1 :: others.1, others.2)

end Scene

end CallChain
