/-
# JSON trees

Artifacts are JSON. A tree keeps what the text shows: the order of the pairs of
an object, repeated keys, and the spelling of numbers. `Json.write` is the
compact text of a tree.

Key definitions: `Json`, `Json.write`, `Json.text`.
-/
import CallChain.Text.Quoted

namespace CallChain

/-- A JSON document. A number is the token that spells it. -/
inductive Json where
  | null
  | bool (b : Bool)
  | number (token : List Char)
  | string (s : String)
  | array (items : List Json)
  | object (pairs : List (String × Json))

namespace Json

instance : Inhabited Json := ⟨.null⟩

mutual

/-- The compact text of a tree. -/
def write : Json → List Char
  | .null => ['n', 'u', 'l', 'l']
  | .bool true => ['t', 'r', 'u', 'e']
  | .bool false => ['f', 'a', 'l', 's', 'e']
  | .number token => token
  | .string s => Quoted.literal s
  | .array items => '[' :: writeItems items ++ [']']
  | .object pairs => '\x7b' :: writePairs pairs ++ ['\x7d']

/-- The items of an array, with commas between them. -/
def writeItems : List Json → List Char
  | [] => []
  | [item] => item.write
  | item :: rest => item.write ++ ',' :: writeItems rest

/-- The pairs of an object, with commas between them. -/
def writePairs : List (String × Json) → List Char
  | [] => []
  | [(key, value)] => Quoted.literal key ++ ':' :: value.write
  | (key, value) :: rest => Quoted.literal key ++ ':' :: value.write ++ ',' :: writePairs rest

end

/-- The compact text of a tree. -/
def text (j : Json) : String :=
  String.ofList j.write

end Json

end CallChain
