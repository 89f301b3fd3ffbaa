/-
# Reading JSON

A strict reader of JSON texts: white space only between tokens, no leading zeros, no raw
control characters in a string, no lone surrogates, no commas too many, and nothing after
the document. It returns the tree with all that the text shows: the order of the pairs,
repeated keys and the spelling of numbers.

Every reader takes a text and returns what it read and what follows. The readers of values
count down a fuel, of which each character of the text is worth one.

Key definitions: `Json.readNumber`, `Json.readString`, `Json.readValue`, `Json.read`.
-/
import CallChain.Json

namespace CallChain.Json

/-- White space between tokens. -/
def isSpace (c : Char) : Bool :=
  c = ' ' || c = '\t' || c = '\n' || c = '\r'

def skip (text : List Char) : List Char :=
  text.dropWhile isSpace

/-! ### Numbers -/

/-- All digits that come, one at least. -/
def readDigits (text : List Char) : Option (List Char × List Char) :=
  if text.takeWhile Char.isDigit = [] then none
  else some (text.takeWhile Char.isDigit, text.dropWhile Char.isDigit)

def readSign : List Char → Option (List Char × List Char)
  | '-' :: rest => some (['-'], rest)
  | text => some ([], text)

/-- A zero stands alone. -/
def readWhole : List Char → Option (List Char × List Char)
  | '0' :: rest => some (['0'], rest)
  | text => readDigits text

def readFraction : List Char → Option (List Char × List Char)
  | '.' :: rest => (readDigits rest).map fun read => ('.' :: read.1, read.2)
  | text => some ([], text)

/-- The power of ten after its letter. -/
def readExponent : List Char → Option (List Char × List Char)
  | '+' :: rest => (readDigits rest).map fun read => ('+' :: read.1, read.2)
  | '-' :: rest => (readDigits rest).map fun read => ('-' :: read.1, read.2)
  | text => readDigits text

def readPower : List Char → Option (List Char × List Char)
  | 'e' :: rest => (readExponent rest).map fun read => ('e' :: read.1, read.2)
  | 'E' :: rest => (readExponent rest).map fun read => ('E' :: read.1, read.2)
  | text => some ([], text)

/-- One piece of a token, and then another. -/
def readBoth (first second : List Char → Option (List Char × List Char)) (text : List Char) :
    Option (List Char × List Char) :=
  (first text).bind fun read => (second read.2).map fun more => (read.1 ++ more.1, more.2)

/-- A number, as the token that spells it. -/
def readNumber : List Char → Option (List Char × List Char) :=
  readBoth readSign (readBoth readWhole (readBoth readFraction readPower))

/-! ### Strings -/

/-- The value of a hexadecimal digit. -/
def hexValue? (c : Char) : Option Nat :=
  if 48 ≤ c.toNat ∧ c.toNat ≤ 57 then some (c.toNat - 48)
  else if 97 ≤ c.toNat ∧ c.toNat ≤ 102 then some (c.toNat - 87)
  else if 65 ≤ c.toNat ∧ c.toNat ≤ 70 then some (c.toNat - 55)
  else none

/-- Four hexadecimal digits. -/
def readUnit : List Char → Option (Nat × List Char)
  | a :: b :: c :: d :: rest => do
    let a ← hexValue? a
    let b ← hexValue? b
    let c ← hexValue? c
    let d ← hexValue? d
    return (((a * 16 + b) * 16 + c) * 16 + d, rest)
  | _ => none

/-- The character of a code unit, or of a pair of surrogates. -/
def readCoded (text : List Char) : Option (Char × List Char) :=
  (readUnit text).bind fun high =>
    if 0xd800 ≤ high.1 ∧ high.1 < 0xdc00 then
      match high.2 with
      | '\\' :: 'u' :: rest => (readUnit rest).bind fun low =>
        if 0xdc00 ≤ low.1 ∧ low.1 < 0xe000 then
          some (Char.ofNat (0x10000 + (high.1 - 0xd800) * 0x400 + (low.1 - 0xdc00)), low.2)
        else none
      | _ => none
    else if 0xdc00 ≤ high.1 ∧ high.1 < 0xe000 then none
    else some (Char.ofNat high.1, high.2)

/-- The character that a letter stands for after a backslash. -/
def escaped? : Char → Option Char
  | '"' => some '"'
  | '\\' => some '\\'
  | '/' => some '/'
  | 'b' => some '\x08'
  | 'f' => some '\x0c'
  | 'n' => some '\n'
  | 'r' => some '\r'
  | 't' => some '\t'
  | _ => none

/-- One character of a string. -/
def readCharacter : List Char → Option (Char × List Char)
  | [] => none
  | c :: rest =>
    if c = '\\' then
      match rest with
      | [] => none
      | d :: rest => if d = 'u' then readCoded rest else (escaped? d).map fun e => (e, rest)
    else if c.toNat < 32 then none
    else some (c, rest)

/-- The characters up to the closing quote. -/
def readBody : Nat → List Char → Option (List Char × List Char)
  | 0, _ => none
  | _ + 1, [] => none
  | fuel + 1, c :: rest =>
    if c = '"' then some ([], rest)
    else (readCharacter (c :: rest)).bind fun read =>
      (readBody fuel read.2).map fun more => (read.1 :: more.1, more.2)

def readString : List Char → Option (String × List Char)
  | '"' :: rest => (readBody rest.length rest).map fun read => (String.ofList read.1, read.2)
  | _ => none

/-! ### Values -/

/-- A word that stands for a value. -/
def readWord (word : List Char) (value : Json) (text : List Char) : Option (Json × List Char) :=
  if text.take word.length = word then some (value, text.drop word.length) else none

mutual

def readValue : Nat → List Char → Option (Json × List Char)
  | 0, _ => none
  | fuel + 1, text =>
    match skip text with
    | [] => none
    | c :: rest =>
      if c = '\x7b' then
        match skip rest with
        | '\x7d' :: rest => some (.object [], rest)
        | rest => (readPairs fuel rest).map fun read => (.object read.1, read.2)
      else if c = '[' then
        match skip rest with
        | ']' :: rest => some (.array [], rest)
        | rest => (readItems fuel rest).map fun read => (.array read.1, read.2)
      else if c = '"' then (readString (c :: rest)).map fun read => (.string read.1, read.2)
      else if c = 'n' then readWord ['n', 'u', 'l', 'l'] .null (c :: rest)
      else if c = 't' then readWord ['t', 'r', 'u', 'e'] (.bool true) (c :: rest)
      else if c = 'f' then readWord ['f', 'a', 'l', 's', 'e'] (.bool false) (c :: rest)
      else (readNumber (c :: rest)).map fun read => (.number read.1, read.2)

/-- The items of an array that is not empty, up to its end. -/
def readItems : Nat → List Char → Option (List Json × List Char)
  | 0, _ => none
  | fuel + 1, text =>
    (readValue fuel text).bind fun item =>
      match skip item.2 with
      | ',' :: rest => (readItems fuel rest).map fun others => (item.1 :: others.1, others.2)
      | ']' :: rest => some ([item.1], rest)
      | _ => none

/-- The pairs of an object that is not empty, up to its end. -/
def readPairs : Nat → List Char → Option (List (String × Json) × List Char)
  | 0, _ => none
  | fuel + 1, text =>
    (readString (skip text)).bind fun key =>
      match skip key.2 with
      | ':' :: rest => (readValue fuel rest).bind fun value =>
        match skip value.2 with
        | ',' :: rest =>
          (readPairs fuel rest).map fun others => ((key.1, value.1) :: others.1, others.2)
        | '\x7d' :: rest => some ([(key.1, value.1)], rest)
        | _ => none
      | _ => none

end

/-- The tree of a JSON text. -/
def read (text : String) : Option Json :=
  (readValue (text.toList.length + 1) text.toList).bind fun read =>
    if skip read.2 = [] then some read.1 else none

end CallChain.Json
