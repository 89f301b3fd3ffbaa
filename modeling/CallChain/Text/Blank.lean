/-
# Blank characters

The Unicode property White_Space: 25 characters. Settings and rules that hold
nothing else count as unset, and are trimmed of it at both ends before they are
compared.

Key definitions: `isBlank`, `blankText`, `trimBlank`.
Key theorem: `isBlank_of_isWhitespace`.
-/

namespace CallChain

/-- The property White_Space. -/
def isBlank (c : Char) : Bool :=
  let n := c.toNat
  (9 ≤ n && n ≤ 13) || n = 32 || n = 0x85 || n = 0xa0 || n = 0x1680 ||
    (0x2000 ≤ n && n ≤ 0x200a) || n = 0x2028 || n = 0x2029 || n = 0x202f ||
    n = 0x205f || n = 0x3000

/-- Whether a text holds blank characters only; the empty text does. -/
def blankText (s : String) : Bool :=
  s.toList.all isBlank

/-- A text without the blank characters at its two ends. -/
def trimBlank (s : String) : List Char :=
  ((s.toList.dropWhile isBlank).reverse.dropWhile isBlank).reverse

/-- Every character that core calls white space is blank. -/
theorem isBlank_of_isWhitespace {c : Char} (h : c.isWhitespace) : isBlank c := by
  simp only [Char.isWhitespace, Bool.or_eq_true, decide_eq_true_eq] at h
  rcases h with ((rfl | rfl) | rfl) | rfl <;> rfl

end CallChain
