/-
# The JSON layout of rendered values

Scalars are plain JSON scalars: a character is a text of one character, and the
doubles that JSON cannot spell are texts. An object is a JSON object that opens
with `@id` and `@type`; a record adds its fields, a sequence `@items`, a mapping
`@entries`. A reference is `@ref` alone, a failure `@error` alone.

Key definitions: `artifactNumeral`, `Scalar.layout`, `Rendered.layout`.
-/
import CallChain.Json
import CallChain.Number.Numeral
import CallChain.Rendered.Basic

namespace CallChain

/-- Doubles in artifacts are positional from `0.00001` up to sixteen digits before
the point, and whole ones keep `.0`; a tie between two shortest decimals goes to
the even digit. -/
def artifactNumeral : NumeralStyle where
  plainFrom := some (-5)
  plainTo := some 15
  pointZero := true
  tie := .even

/-- A scalar as JSON. -/
def Scalar.layout : Scalar → Json
  | .null => .null
  | .bool b => .bool b
  | .char c => .string c.toString
  | .int n => .number (intNumeral n.toInt)
  | .uint n => .number (natNumeral n.toNat)
  | .float x =>
    if x.isFinite then .number (artifactNumeral.write x)
    else .string (String.ofList (artifactNumeral.write x))
  | .str s => .string s

/-- An identity as JSON. -/
def identityLayout (id : Nat) : Json :=
  .number (natNumeral id)

/-- A failure as JSON. -/
def Failure.layout (f : Failure) : Json :=
  .object [("@error", .object [("kind", .string f.kind), ("message", .string f.message)])]

namespace Rendered

mutual

/-- A rendered value as JSON. -/
def layout : Rendered Nat → Json
  | .scalar s => s.layout
  | .object id typeName (.record fields) =>
    .object (("@id", identityLayout id) :: ("@type", .string typeName) :: layoutFields fields)
  | .object id typeName (.sequence items) =>
    .object [("@id", identityLayout id), ("@type", .string typeName), ("@items", .array (layoutItems items))]
  | .object id typeName (.mapping entries) =>
    .object [("@id", identityLayout id), ("@type", .string typeName),
      ("@entries", .object (layoutFields entries))]
  | .reference id => .object [("@ref", identityLayout id)]
  | .failed failure => failure.layout

/-- The items of a sequence as JSON. -/
def layoutItems : List (Rendered Nat) → List Json
  | [] => []
  | item :: rest => item.layout :: layoutItems rest

/-- Named children as JSON pairs. -/
def layoutFields : List (String × Rendered Nat) → List (String × Json)
  | [] => []
  | (name, value) :: rest => (name, value.layout) :: layoutFields rest

end

end Rendered

end CallChain
