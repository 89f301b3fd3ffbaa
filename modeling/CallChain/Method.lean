/-
# Methods

A captured call names its method by one text: the declaring type, a dot, the
method's name and the parameter types in parentheses. The return type is not
part of it.

Key definitions: `Method`, `Method.ofParts`, `Method.name`.
-/

namespace CallChain

/-- A method, by its full name. -/
structure Method where
  text : String
deriving DecidableEq, Inhabited

namespace Method

/-- A text up to and with the last closing parenthesis, and what follows it. -/
def splitAtParameters (signature : List Char) : List Char × List Char :=
  ((signature.reverse.dropWhile (· ≠ ')')).reverse, (signature.reverse.takeWhile (· ≠ ')')).reverse)

/-- A signature without its return type: what follows the parameters is cut at
the first space. -/
def dropReturn (signature : List Char) : List Char :=
  (splitAtParameters signature).1 ++ (splitAtParameters signature).2.takeWhile (· ≠ ' ')

/-- The method of a declaring type whose signature may end in a return type. -/
def ofParts (typeName signature : String) : Method :=
  ⟨typeName ++ "." ++ String.ofList (dropReturn signature.toList)⟩

/-- The name in a full text: what stands before the parameters, after the last
dot there. -/
def nameIn (text : List Char) : List Char :=
  ((text.takeWhile (· ≠ '(')).reverse.takeWhile (· ≠ '.')).reverse

/-- The method's name, without its declaring type or parameters. -/
def name (m : Method) : String :=
  String.ofList (nameIn m.text.toList)

theorem splitAtParameters_append (s : List Char) :
    (splitAtParameters s).1 ++ (splitAtParameters s).2 = s := by
  simp only [splitAtParameters, ← List.reverse_append, List.takeWhile_append_dropWhile,
    List.reverse_reverse]

end Method

end CallChain
