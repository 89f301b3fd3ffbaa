/-
# Following recipes

How a recipe becomes a value. A new object gets its contents at its birth and lives
until the operation that made it ends; a new member of a family comes with a roster
of its own.

Key definitions: `Scene.make`, `Scene.makeMember`, `Recipe.follow`,
`Recipe.followAll`, `Recipe.followShape`.
-/
import CallChain.Scene.Basic

namespace CallChain

namespace Scene

/-- A new object with these contents. -/
def make (typeName : String) (t : Thing) : Activity Scene Value := do
  let o ← .birth typeName (addFresh t)
  return .object o

/-- A value inside so many new objects of one child each. -/
def wrap (nesting : Nesting) : Nat → Value → Activity Scene Value
  | 0, v => return v
  | count + 1, v => do
    let inner ← wrap nesting count v
    match nesting with
    | .record => make "Wrapper" (.fixed (.record [("inner", inner)]))
    | .sequence => make "Nest" (.fixed (.sequence [inner]))
    | .mapping => make "Nest" (.fixed (.mapping [("inner", inner)]))

/-- A new member of a family, under a name. Its roster is an object of its own. -/
def makeMember (family : Family) (name label : String) : Activity Scene Unit := do
  let roster ← .birth family.rosterType (addFresh (.roster []))
  let _ ← .birth family.typeName fun o s =>
    (s.setThing o (.member family label roster none)).setName name o
  return ()

/-- A new member of a family without a name. -/
def makeFreshMember (family : Family) (label : String) : Activity Scene Member := do
  let roster ← .birth family.rosterType (addFresh (.roster []))
  let o ← .birth family.typeName (addFresh (.member family label roster none))
  return ⟨o, label, roster, none⟩

/-- Adds a child to the roster of its parent, and links it to the parent. -/
def adoptMember (family : Family) (parent child : Member) (s : Scene) : Scene :=
  let s := s.setThing child.object (.member family child.label child.roster (some parent.object))
  s.setThing parent.roster (.roster (s.rosterOf parent.roster ++ [child.object]))

end Scene

namespace Recipe

mutual

/-- Follows a recipe. -/
def follow : Recipe → Activity Scene Value
  | .scalar s => return .scalar s
  | .named name => do
    let scene ← .get
    return (scene.object? name).elim .null .object
  | .again name => do
    let scene ← .get
    match scene.scripted? name with
    | some (o, scripts, _) => Scene.make o.typeName (.scripted scripts 0)
    | none => return .null
  | .record typeName fields => do
    let fields ← followFields fields
    Scene.make typeName (.fixed (.record fields))
  | .made typeName contents => Scene.make typeName (.made contents)
  | .broken f => Scene.make "Broken" (.broken f)
  | .panicking message => Scene.make "Panicking" (.panicking message)
  | .nest count nesting inner => do
    let value ← follow inner
    Scene.wrap nesting count value

/-- Follows the recipes of named children, in order. -/
def followFields : List (String × Recipe) → Activity Scene (List (String × Value))
  | [] => return []
  | (name, recipe) :: rest => do
    let value ← follow recipe
    let others ← followFields rest
    return (name, value) :: others

end

/-- Follows some recipes, in order. -/
def followAll : List Recipe → Activity Scene (List Value)
  | [] => return []
  | recipe :: rest => do
    let value ← follow recipe
    let others ← followAll rest
    return value :: others

/-- Follows the recipes in a shape. -/
def followShape : Shape Recipe → Activity Scene (Shape Value)
  | .record fields => do
    let fields ← followFields fields
    return .record fields
  | .sequence items => do
    let items ← followAll items
    return .sequence items
  | .mapping entries => do
    let entries ← followFields entries
    return .mapping entries

end Recipe

end CallChain
