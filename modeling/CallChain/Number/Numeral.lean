/-
# Numerals

How a number is spelled. Whole numbers have their decimal digits and a leading
minus; a double has its shortest decimal, laid out as a `NumeralStyle` says: the
range of exponents that are written positionally, whether a whole number keeps
`.0`, and which way a tie between two shortest decimals goes.

Key definitions: `natNumeral`, `intNumeral`, `NumeralStyle`,
`NumeralStyle.write`.
-/
import CallChain.Number.Shortest

namespace CallChain

/-- The decimal digits of a natural number. -/
def natNumeral (n : Nat) : List Char :=
  Nat.toDigits 10 n

/-- The decimal digits of an integer, after a minus when it is negative. -/
def intNumeral : Int → List Char
  | .ofNat n => natNumeral n
  | .negSucc n => '-' :: natNumeral (n + 1)

/-- The spelling of a double. -/
structure NumeralStyle where
  /-- the smallest exponent written positionally; `none` is no bound -/
  plainFrom : Option Int
  /-- the largest exponent written positionally; `none` is no bound -/
  plainTo : Option Int
  /-- whether a whole number written positionally ends in `.0` -/
  pointZero : Bool
  /-- which of two equally near shortest decimals is written -/
  tie : Tie

namespace NumeralStyle

/-- Whether a number of this exponent is written positionally. -/
def isPlain (style : NumeralStyle) (exponent : Int) : Bool :=
  style.plainFrom.all (· ≤ exponent) && style.plainTo.all (exponent ≤ ·)

/-- Positional notation: the digits with the point where the exponent puts it. -/
def plain (style : NumeralStyle) (digits : List Char) (exponent : Int) : List Char :=
  if exponent < 0 then
    '0' :: '.' :: List.replicate (-exponent - 1).toNat '0' ++ digits
  else
    let whole := exponent.toNat + 1
    if digits.length ≤ whole then
      digits ++ List.replicate (whole - digits.length) '0' ++ if style.pointZero then ['.', '0'] else []
    else
      digits.take whole ++ '.' :: digits.drop whole

/-- Scientific notation: one digit before the point, no point after a single
digit, and the sign of the exponent always written. -/
def scientific (digits : List Char) (exponent : Int) : List Char :=
  let mantissa := match digits with
    | [] => []
    | [d] => [d]
    | d :: rest => d :: '.' :: rest
  mantissa ++ 'e' :: (if exponent < 0 then '-' else '+') :: natNumeral exponent.natAbs

/-- A positive decimal in this style. -/
def writeDecimal (style : NumeralStyle) (d : Decimal) : List Char :=
  if style.isPlain d.exponent then style.plain d.digits d.exponent
  else scientific d.digits d.exponent

/-- A double in this style: `NaN` has no sign, everything else shows its minus. -/
def write (style : NumeralStyle) (x : Binary64) : List Char :=
  let signed (text : List Char) := if x.isNegative then '-' :: text else text
  match x.magnitude with
  | .nan => "NaN".toList
  | .infinite => signed "inf".toList
  | .zero => signed ('0' :: if style.pointZero then ['.', '0'] else [])
  | .finite m q atPower => signed (style.writeDecimal (shortest style.tie m q atPower))

end NumeralStyle

end CallChain
