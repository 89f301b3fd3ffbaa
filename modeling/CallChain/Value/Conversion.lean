/-
# Values of host types

How the plain types of a host program become values: a narrow integer is widened, a
missing optional value is null, an optional value that is there stands for what it
holds. The values are read from text here.

Key definitions: `HostType`, `HostType.read?`, `HostType.value?`.
-/
import CallChain.Value.Basic

namespace CallChain

/-- The plain types of a host program. -/
inductive HostType where
  | bool
  | char
  /-- signed integers of so many bits -/
  | signed (bits : Nat)
  /-- unsigned integers of so many bits -/
  | unsigned (bits : Nat)
  | double
  | text
  | optional (t : HostType)

/-- A number from its digits; there has to be one. -/
def readDigits (cs : List Char) : Option Nat :=
  if cs.isEmpty || !cs.all Char.isDigit then none
  else some (cs.foldl (fun n c => 10 * n + (c.toNat - '0'.toNat)) 0)

/-- An integer from its digits, behind an optional sign. -/
def readInteger : List Char → Option Int
  | '+' :: cs => (readDigits cs).map Int.ofNat
  | '-' :: cs => (readDigits cs).map fun n => -Int.ofNat n
  | cs => (readDigits cs).map Int.ofNat

/-- A natural number from its digits, behind an optional plus. -/
def readNatural : List Char → Option Nat
  | '+' :: cs => readDigits cs
  | cs => readDigits cs

/-- The double nearest to `m * 10 ^ e`. What is far beyond the largest double is
infinite, what is far below the smallest is zero. -/
def nearestDouble (m : Nat) (e : Int) : Float :=
  let top : Int := (Nat.toDigits 10 m).length + e
  if m = 0 then 0
  else if 400 < top then 1 / 0
  else if top < -400 then 0
  else if e < 0 then .ofScientific m true e.natAbs
  else .ofScientific m false e.natAbs

/-- A positive decimal: digits with at most one point, of which there has to be one,
and an optional power of ten. -/
def readDecimal (cs : List Char) : Option Float := do
  let isExponent (c : Char) := c = 'e' || c = 'E'
  let mantissa := cs.takeWhile (!isExponent ·)
  let power ← match cs.dropWhile (!isExponent ·) with
    | [] => some 0
    | _ :: digits => readInteger digits
  let whole := mantissa.takeWhile (· ≠ '.')
  let fraction := (mantissa.dropWhile (· ≠ '.')).drop 1
  let m ← readDigits (whole ++ fraction)
  return nearestDouble m (power - fraction.length)

/-- A double from its decimal text or its name, behind an optional sign. -/
def readDouble (cs : List Char) : Option Binary64 := do
  let unsigned := match cs with
    | '+' :: rest => rest
    | '-' :: rest => rest
    | rest => rest
  let word := String.ofList (unsigned.map Char.toLower)
  let x : Float ←
    if word = "nan" then some (0 / 0)
    else if word = "inf" || word = "infinity" then some (1 / 0)
    else readDecimal unsigned
  return ⟨(if cs.head? = some '-' then -x else x).toBits⟩

namespace HostType

/-- The value of a type that a text spells; the missing optional value has no
text. -/
def read? : HostType → String → Option Value
  | .bool, "true" => some (.scalar (.bool true))
  | .bool, "false" => some (.scalar (.bool false))
  | .bool, _ => none
  | .char, s =>
    match s.toList with
    | [c] => some (.scalar (.char c))
    | _ => none
  | .signed bits, s => do
    let n ← readInteger s.toList
    let top : Int := Nat.pow 2 (bits - 1)
    if -top ≤ n ∧ n < top then some (.scalar (.int (.ofInt n))) else none
  | .unsigned bits, s => do
    let n ← readNatural s.toList
    if n < Nat.pow 2 bits then some (.scalar (.uint (.ofNat n))) else none
  | .double, s => (readDouble s.toList).map fun x => .scalar (.float x)
  | .text, s => some (.text s)
  | .optional t, s => some ((t.read? s).getD .null)

/-- The value of a type from a text that may be missing. -/
def value? : HostType → Option String → Option Value
  | .optional _, none => some .null
  | _, none => none
  | t, some s => t.read? s

end HostType

end CallChain
