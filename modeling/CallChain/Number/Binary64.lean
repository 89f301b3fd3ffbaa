/-
# Binary floating point numbers as words

A `Binary64` is the 64 bit word of an IEEE 754 double. Nothing here computes
with it: a captured number is only ever written down, so what matters is the
exact value that the word stands for. `Binary64.magnitude` reads it off: zero,
infinite, not a number, or the positive rational `m * 2 ^ q`.

Key definitions: `Binary64`, `Binary64.isNegative`, `Magnitude`,
`Binary64.magnitude`.
-/

namespace CallChain

/-- The word of a double: one sign bit, eleven exponent bits, 52 fraction
bits. Two words are equal when their bits are, so `-0` differs from `0` and a
NaN equals itself. -/
structure Binary64 where
  bits : UInt64
deriving DecidableEq, Inhabited

/-- What a word stands for, its sign aside. In `finite m q atPower` the value is
`m * 2 ^ q` with `m` positive; `atPower` says that the next smaller number is
only half as far away as the next larger one. -/
inductive Magnitude where
  | zero
  | finite (m : Nat) (q : Int) (atPower : Bool)
  | infinite
  | nan
deriving DecidableEq

namespace Binary64

/-- The sign bit. -/
def isNegative (x : Binary64) : Bool :=
  Nat.pow 2 63 ≤ x.bits.toNat

/-- The exponent field, as stored. -/
def exponentField (x : Binary64) : Nat :=
  x.bits.toNat / Nat.pow 2 52 % Nat.pow 2 11

/-- The fraction field. -/
def fraction (x : Binary64) : Nat :=
  x.bits.toNat % Nat.pow 2 52

/-- The exact value of a word, its sign aside. The smallest exponent field holds
zero and the subnormal numbers, which have no hidden bit; the largest holds the
infinities and the NaNs. -/
def magnitude (x : Binary64) : Magnitude :=
  if x.exponentField = 2047 then
    if x.fraction = 0 then .infinite else .nan
  else if x.exponentField = 0 then
    if x.fraction = 0 then .zero else .finite x.fraction (-1074) false
  else
    .finite (Nat.pow 2 52 + x.fraction) (x.exponentField - 1075)
      (x.fraction = 0 && 1 < x.exponentField)

/-- Whether the word stands for a real number. -/
def isFinite (x : Binary64) : Bool :=
  x.exponentField ≠ 2047

end Binary64

end CallChain
