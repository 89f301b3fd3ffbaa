/-
# Rules of the demo

What the instrumentation of the demo program does: nothing, report the call stack
at the terminal method, or record the chain and serialize it there. The rules are
read from a setting, without regard to blanks around it and to the case of ASCII
letters; anything else means nothing is done.

Key definitions: `Rules`, `Rules.read`.
-/
import CallChain.Text.Blank

namespace CallChain

inductive Rules where
  | off
  | discover
  | serialize
deriving DecidableEq

/-- The rules that a setting asks for. -/
def Rules.read (setting : Option String) : Rules :=
  let word := (setting.map trimBlank).getD [] |>.map Char.toLower
  if word = "discover".toList then .discover
  else if word = "serialize".toList then .serialize
  else .off

end CallChain
