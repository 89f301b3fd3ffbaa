/-
# The shortest decimal that reads back

A double is written with the fewest significant digits that still lie in its
rounding interval, the reals that read back as it. For 1, 2, … 17 digits the two
neighbours of the value on the decimal grid of that many digits are tried; the
first grid with a hit wins, and of two hits the nearer one. Everything is exact
arithmetic on naturals: the value, the ends of its interval and the unit of the
grid are brought to one denominator (`Grid`).

Key definitions: `Decimal`, `Grid`, `Grid.nearest?`, `shortest`.
-/
import CallChain.Number.Binary64

namespace CallChain

/-- The positive decimal number `coefficient * 10 ^ power`. -/
structure Decimal where
  coefficient : Nat
  power : Int
deriving DecidableEq, Inhabited

namespace Decimal

/-- The digits of the coefficient, most significant first. -/
def digits (d : Decimal) : List Char :=
  Nat.toDigits 10 d.coefficient

/-- The power of ten of the first digit: `d.ddd * 10 ^ exponent`. -/
def exponent (d : Decimal) : Int :=
  d.power + d.digits.length - 1

/-- The same number without trailing zeros in the coefficient. The fuel bounds
the zeros that are dropped. -/
def trim : Nat → Decimal → Decimal
  | 0, d => d
  | fuel + 1, d =>
    if d.coefficient ≠ 0 ∧ d.coefficient % 10 = 0 then
      trim fuel ⟨d.coefficient / 10, d.power + 1⟩
    else d

end Decimal

/-- Which of two equally near decimals is taken. -/
inductive Tie where
  /-- the one whose last digit is even -/
  | even
  /-- the larger one -/
  | up
deriving DecidableEq

/-- A value, the ends of its rounding interval and the unit of a decimal grid,
over one denominator. -/
structure Grid where
  value : Nat
  low : Nat
  high : Nat
  /-- whether the ends themselves read back as the value -/
  closed : Bool
  unit : Nat

namespace Grid

/-- The grid of the multiples of `10 ^ power` around the value `m * 2 ^ q`. The
interval reaches half way to the neighbours; its ends belong to it when `m` is
even, because ties go to even when a decimal is read. -/
def around (m : Nat) (q : Int) (atPower : Bool) (power : Int) : Grid :=
  let scale := Nat.pow 2 (q - 2).toNat * Nat.pow 10 (-power).toNat
  { value := 4 * m * scale
    low := (if atPower then 4 * m - 1 else 4 * m - 2) * scale
    high := (4 * m + 2) * scale
    closed := m % 2 = 0
    unit := Nat.pow 10 power.toNat * Nat.pow 2 (2 - q).toNat }

/-- Whether `k` units read back as the value. -/
def holds (g : Grid) (k : Nat) : Bool :=
  if g.closed then g.low ≤ k * g.unit && k * g.unit ≤ g.high
  else g.low < k * g.unit && k * g.unit < g.high

/-- The number of units nearest to the value, if it reads back as the value. -/
def nearest? (g : Grid) (tie : Tie) : Option Nat :=
  let k := g.value / g.unit
  match g.holds k, g.holds (k + 1) with
  | false, false => none
  | true, false => some k
  | false, true => some (k + 1)
  | true, true =>
    let below := 2 * (g.value - k * g.unit)
    if below < g.unit then some k
    else if g.unit < below then some (k + 1)
    else match tie with
      | .up => some (k + 1)
      | .even => if k % 2 = 0 then some k else some (k + 1)

end Grid

/-- The power of ten just below or at `num / den`, for a positive quotient. -/
def decimalExponent (num den : Nat) : Int :=
  if den ≤ num then (Nat.toDigits 10 (num / den)).length - 1
  else -(Nat.toDigits 10 ((den - 1) / num)).length

/-- The first grid with a hit, from `count` digits on, trying `fuel` grids. Seventeen
digits always suffice, so the coefficient 0 of the last line is never seen. -/
def shortestFrom (tie : Tie) (m : Nat) (q : Int) (atPower : Bool) (top : Int) : Nat → Nat → Decimal
  | 0, _ => ⟨0, 0⟩
  | fuel + 1, count =>
    let power := top - count + 1
    match (Grid.around m q atPower power).nearest? tie with
    | some k => Decimal.trim 20 ⟨k, power⟩
    | none => shortestFrom tie m q atPower top fuel (count + 1)

/-- The shortest decimal that reads back as `m * 2 ^ q`, and the nearest of those. -/
def shortest (tie : Tie) (m : Nat) (q : Int) (atPower : Bool) : Decimal :=
  shortestFrom tie m q atPower (decimalExponent (m * Nat.pow 2 q.toNat) (Nat.pow 2 (-q).toNat)) 17 1

end CallChain
