/-
# Spelled-out text

A text or a character between quotes, for the eye of a reader: the usual short
escapes, hidden characters by their number in braces, and only the quote that
encloses the text is escaped.

Key definitions: `Spelled.text`, `Spelled.char`.
-/
import CallChain.Text.Hidden

namespace CallChain.Spelled

/-- The number of a character, in lower case hexadecimal digits between braces. -/
def numbered (c : Char) : List Char :=
  ['\\', 'u', '\x7b'] ++ Nat.toDigits 16 c.toNat ++ ['\x7d']

/-- One character inside a literal that is enclosed in `quote`. -/
def escape (quote c : Char) : List Char :=
  if c = '\x00' then ['\\', '0']
  else if c = '\t' then ['\\', 't']
  else if c = '\r' then ['\\', 'r']
  else if c = '\n' then ['\\', 'n']
  else if c = '\\' then ['\\', '\\']
  else if c = quote then ['\\', quote]
  else if isHidden c then numbered c
  else [c]

/-- A text between double quotes. -/
def text (s : String) : List Char :=
  '"' :: s.toList.flatMap (escape '"') ++ ['"']

/-- A character between single quotes. -/
def char (c : Char) : List Char :=
  '\'' :: escape '\'' c ++ ['\'']

end CallChain.Spelled
