/-
# Quoted text

The string literals of JSON. A quote, a backslash and the control characters
below a space are escaped, the five of them that have a short form by it and the
others by four hexadecimal digits; every other character stands for itself.

Key definitions: `Quoted.escape`, `Quoted.body`, `Quoted.literal`.
-/

namespace CallChain.Quoted

/-- The digit of a number below 16, in lower case. -/
def hexDigit (n : Nat) : Char :=
  if n < 10 then Char.ofNat (48 + n) else Char.ofNat (87 + n)

/-- How one character is written inside a literal. -/
def escape (c : Char) : List Char :=
  if c = '"' then ['\\', '"']
  else if c = '\\' then ['\\', '\\']
  else if c = '\x08' then ['\\', 'b']
  else if c = '\t' then ['\\', 't']
  else if c = '\n' then ['\\', 'n']
  else if c = '\x0c' then ['\\', 'f']
  else if c = '\r' then ['\\', 'r']
  else if c.toNat < 32 then
    ['\\', 'u', '0', '0', hexDigit (c.toNat / 16), hexDigit (c.toNat % 16)]
  else [c]

/-- The characters between the quotes. -/
def body : List Char → List Char
  | [] => []
  | c :: rest => escape c ++ body rest

/-- A text as a string literal. -/
def literal (s : String) : List Char :=
  '"' :: body s.toList ++ ['"']

end CallChain.Quoted
