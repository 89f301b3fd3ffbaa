/-
# Rendered values

What is left of a host value once it has been captured: a finite tree. An object
carries its identity and its type name; where it occurs again in the same pass
only a reference to that identity is kept, and where its structure could not be
read a failure stands in its place. Identities are taken from any type `ι`:
numbers in an artifact, objects where a theorem compares the two.

Key definitions: `Rendered`, `Rendered.map`, `Rendered.field?`,
`Rendered.items?`, `Rendered.at?`.
-/
import CallChain.Value.Basic

namespace CallChain

/-- A captured value with identities in `ι`. -/
inductive Rendered (ι : Type) where
  | scalar (s : Scalar)
  | object (id : ι) (typeName : String) (body : Shape (Rendered ι))
  | reference (id : ι)
  | failed (f : Failure)

namespace Rendered

variable {ι κ : Type}

instance : Inhabited (Rendered ι) := ⟨.scalar .null⟩

/-- The identity that a value shows: an object's own, or the one referred to. -/
def identity? : Rendered ι → Option ι
  | .object id _ _ => some id
  | .reference id => some id
  | _ => none

/-- The body of an object. -/
def body? : Rendered ι → Option (Shape (Rendered ι))
  | .object _ _ body => some body
  | _ => none

/-- The first child of that name, in a record or a mapping. -/
def field? (name : String) (r : Rendered ι) : Option (Rendered ι) :=
  match r.body? with
  | some (.record fields) => fields.lookup name
  | some (.mapping entries) => entries.lookup name
  | _ => none

/-- The items of a sequence. -/
def items? (r : Rendered ι) : Option (List (Rendered ι)) :=
  match r.body? with
  | some (.sequence items) => some items
  | _ => none

mutual

/-- The same value with other identities. -/
def map (f : ι → κ) : Rendered ι → Rendered κ
  | .scalar s => .scalar s
  | .object id typeName (.record fields) => .object (f id) typeName (.record (mapFields f fields))
  | .object id typeName (.sequence items) => .object (f id) typeName (.sequence (mapItems f items))
  | .object id typeName (.mapping entries) => .object (f id) typeName (.mapping (mapFields f entries))
  | .reference id => .reference (f id)
  | .failed failure => .failed failure

/-- `map` on the items of a sequence. -/
def mapItems (f : ι → κ) : List (Rendered ι) → List (Rendered κ)
  | [] => []
  | item :: rest => map f item :: mapItems f rest

/-- `map` on named children. -/
def mapFields (f : ι → κ) : List (String × Rendered ι) → List (String × Rendered κ)
  | [] => []
  | (name, value) :: rest => (name, map f value) :: mapFields f rest

end

/-- A step into a value: to a child by its name, or to an item by its place. -/
inductive Step where
  | field (name : String)
  | item (place : Nat)

/-- The value that a path of steps leads to. -/
def at? : List Step → Rendered ι → Option (Rendered ι)
  | [], r => some r
  | .field name :: rest, r => (r.field? name).bind (at? rest)
  | .item place :: rest, r => r.items?.bind fun items => items[place]?.bind (at? rest)

end Rendered

end CallChain
