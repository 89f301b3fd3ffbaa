/-
# Paths

A path is kept as the text it was given as, and compared by its parts: repeated and
trailing slashes do not count, nor does a `.` behind the first part. A leading `.`
and every `..` count.

Key definitions: `PathPart`, `Path`, `Path.parts`, `Path.same`, `Path.ancestors`,
`Path.join`.
-/

namespace CallChain

/-- One part of a path. -/
inductive PathPart where
  | root
  | here
  | up
  | name (n : String)
deriving DecidableEq

/-- A path, as it was written. -/
structure Path where
  text : String
deriving DecidableEq, Inhabited

namespace Path

/-- The pieces between slashes, the empty ones included. -/
def pieces (p : Path) : List String :=
  (p.text.toList.splitOn '/').map String.ofList

/-- The part that a piece behind the first one stands for. -/
def innerPart? : String → Option PathPart
  | "" => none
  | "." => none
  | ".." => some .up
  | n => some (.name n)

/-- The parts of a path. The first piece is empty when the path starts at the root,
and only there does a `.` count. -/
def parts (p : Path) : List PathPart :=
  match p.pieces with
  | [] => []
  | [""] => []
  | "" :: rest => .root :: rest.filterMap innerPart?
  | "." :: rest => .here :: rest.filterMap innerPart?
  | pieces => pieces.filterMap innerPart?

/-- Two paths are the same when their parts are. -/
def same (p q : Path) : Bool :=
  p.parts = q.parts

/-- Whether the path ends in a slash. -/
def endsInSlash (p : Path) : Bool :=
  p.text.toList.getLast? = some '/'

/-- How a part is written. -/
def partText : PathPart → String
  | .root => ""
  | .here => "."
  | .up => ".."
  | .name n => n

/-- The path of some parts. -/
def ofParts : List PathPart → Path
  | [.root] => ⟨"/"⟩
  | parts => ⟨"/".intercalate (parts.map partText)⟩

/-- The paths that a path lies below, the longest first: itself without its last
part, then without the last two, and so on. Neither the empty path nor the root is
among them. -/
def ancestors (p : Path) : List Path :=
  go p.parts.dropLast.reverse
where
  /-- The paths of some parts, last part first, and of what remains of them. -/
  go : List PathPart → List Path
    | [] => []
    | [.root] => []
    | part :: rest => ofParts (part :: rest).reverse :: go rest

/-- A relative path below another path. -/
def join (p : Path) (below : String) : Path :=
  if p.text = "" || p.endsInSlash then ⟨p.text ++ below⟩ else ⟨p.text ++ "/" ++ below⟩

end Path

end CallChain
