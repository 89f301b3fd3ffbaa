/-
# Values spelled out

The text of a value in diagnostics: its kind, and its contents in parentheses.
Numbers are written positionally however long that gets.

Key definitions: `diagnosticNumeral`, `Value.spelled`.
-/
import CallChain.Number.Numeral
import CallChain.Text.Spelled
import CallChain.Value.Basic

namespace CallChain

/-- Doubles in diagnostics have neither an exponent nor a `.0`; of two equally
near shortest decimals the larger is written. -/
def diagnosticNumeral : NumeralStyle where
  plainFrom := none
  plainTo := none
  pointZero := false
  tie := .up

/-- A kind and its contents. -/
def kindOf (kind : String) (contents : List Char) : String :=
  kind ++ "(" ++ String.ofList contents ++ ")"

/-- A scalar spelled out. -/
def Scalar.spelled : Scalar → String
  | .null => "Null"
  | .bool b => kindOf "Bool" (if b then "true" else "false").toList
  | .char c => kindOf "Char" (Spelled.char c)
  | .int n => kindOf "Int" (intNumeral n.toInt)
  | .uint n => kindOf "UInt" (natNumeral n.toNat)
  | .float x => kindOf "Float" (diagnosticNumeral.write x)
  | .str s => kindOf "Str" (Spelled.text s)

/-- A value spelled out; `place` spells the address of an object. -/
def Value.spelled (place : Nat → String) : Value → String
  | .scalar s => s.spelled
  | .object o => kindOf "Object" (o.typeName ++ "@" ++ place o.address).toList

end CallChain
