/-
# Scalars

The simple values of a host program. They are captured by copy: a scalar has no
identity and is never tagged.

Key definition: `Scalar`.
-/
import CallChain.Number.Binary64

namespace CallChain

/-- A simple value. Integers are words of 64 bits, signed or not. -/
inductive Scalar where
  | null
  | bool (b : Bool)
  | char (c : Char)
  | int (n : Int64)
  | uint (n : UInt64)
  | float (x : Binary64)
  | str (s : String)
deriving DecidableEq

instance : Inhabited Scalar := ⟨.null⟩

end CallChain
