/-
# A tree of files

A file tree as the operating system shows it to a program: directories, files,
symbolic links and devices below one root, and the directory that relative paths
start from. A file may have several names, so an entry says which file it names, and
what the file holds is kept apart. The two steps that an output needs are here, each
with the refusals of the system: to make a directory, and to open what a path leads
to for writing, which empties a file and leaves a device as it is.

A step goes along its path from part to part, and where a part is a link it goes on
along the link. It is refused where a part is missing, or would have to be a
directory and is none, or has a name that is too long, and after too many links; the
order in which the parts are looked at decides which of these is reported.

Key definitions: `Refusal`, `Device`, `Entry`, `FileTree`, `FileTree.listing`,
`FileTree.resolve`, `FileTree.makeDirectory`, `FileTree.openForWriting`.
-/
import CallChain.Output.Path

namespace CallChain

/-- Why the system refuses a step. -/
inductive Refusal where
  | noSuchEntry
  | alreadyExists
  | notADirectory
  | isADirectory
  | nameTooLong
  | tooManyLinks
  /-- the path holds the character that ends a path -/
  | nulInPath
  /-- any other reason, in the system's words -/
  | other (reason : String)
deriving DecidableEq

/-- What is reported. -/
def Refusal.message : Refusal → String
  | .noSuchEntry => "No such file or directory (os error 2)"
  | .alreadyExists => "File exists (os error 17)"
  | .notADirectory => "Not a directory (os error 20)"
  | .isADirectory => "Is a directory (os error 21)"
  | .nameTooLong => "File name too long (os error 36)"
  | .tooManyLinks => "Too many levels of symbolic links (os error 40)"
  | .nulInPath => "file name contained an unexpected NUL byte"
  | .other reason => reason

/-- A place in the tree: the names on the way from the root. -/
abbrev Place := List String

/-- What takes a text and is no file: a device, or a pipe that somebody reads. -/
inductive Device where
  /-- takes every text and keeps none -/
  | null
  /-- the standard output of the program -/
  | standardOutput
  | other (number : Nat)
deriving DecidableEq

/-- What is at a place. -/
inductive Entry where
  | directory
  /-- a name of a file, which may have more -/
  | file (number : Nat)
  | link (target : Path)
  | device (d : Device)
deriving DecidableEq

/-- Whether an entry, if it names a file, names one of the first so many. -/
def Entry.isAmong (count : Nat) : Entry → Bool
  | .file number => number < count
  | _ => true

/-- The entries of a tree, the root aside, the texts of its files, and the place that
relative paths start from. -/
structure FileTree where
  entries : List (Place × Entry)
  texts : List String
  start : Place
  named : ∀ e ∈ entries, e.2.isAmong texts.length = true := by decide
deriving DecidableEq

namespace FileTree

/-- The entry at a place; the root is a directory. -/
def entry? (t : FileTree) (place : Place) : Option Entry :=
  if place = [] then some .directory else t.entries.lookup place

/-- The tree with an entry at a place, in place of what was there. -/
def put (t : FileTree) (place : Place) (e : Entry) (h : e.isAmong t.texts.length = true) : FileTree :=
  { t with
    entries := (place, e) :: t.entries.filter fun other => other.1 ≠ place
    named := by
      intro other hother
      obtain rfl | hmem := List.mem_cons.1 hother
      · exact h
      · exact t.named other (List.mem_filter.1 hmem).1 }

/-- The tree with a new directory at a place. -/
def addDirectory (t : FileTree) (place : Place) : FileTree :=
  t.put place .directory rfl

/-- The tree with one more file, which is empty and has no name. -/
def addText (t : FileTree) : FileTree :=
  { t with
    texts := t.texts ++ [""]
    named := by
      intro e he
      have hold := t.named e he
      cases hentry : e.2 with
      | file number =>
        simp only [hentry, Entry.isAmong, decide_eq_true_eq] at hold
        simp only [Entry.isAmong, List.length_append, List.length_singleton, decide_eq_true_eq]
        omega
      | _ => rfl }

/-- The tree with a new empty file at a place. -/
def addFile (t : FileTree) (place : Place) : FileTree :=
  t.addText.put place (.file t.texts.length) (by simp [addText, Entry.isAmong])

/-- The tree after the text of a file was replaced. -/
def setText (t : FileTree) (number : Nat) (text : String) : FileTree :=
  { t with
    texts := t.texts.set number text
    named := by simpa using t.named }

/-- An empty directory to start from, below the root, beside the devices that every
system has. -/
def scratch : FileTree where
  entries :=
    [(["scratch"], .directory), (["dev"], .directory), (["dev", "null"], .device .null),
      (["dev", "stdout"], .device .standardOutput)]
  texts := []
  start := ["scratch"]

/-- What lies below the place that relative paths start from, by its path from
there. -/
def listing (t : FileTree) : List (String × Entry) :=
  t.entries.filterMap fun (place, e) =>
    if t.start.isPrefixOf place && place.length ≠ t.start.length then
      some ("/".intercalate (place.drop t.start.length), e)
    else none

/-- Whether there is a directory at a place. -/
def isDirectory (t : FileTree) (place : Place) : Bool :=
  t.entry? place = some .directory

/-- The most bytes that a name may have. -/
def maxName : Nat := 255

/-- The most bytes that a path may have. -/
def maxPath : Nat := 4095

/-- The most links that are followed on the way along one path. -/
def maxLinks : Nat := 40

/-- The place that one part leads to, from a place that has to be a directory. -/
def along (t : FileTree) (place : Place) (part : PathPart) : Except Refusal Place :=
  if !t.isDirectory place then .error .notADirectory
  else match part with
    | .root => .ok []
    | .here => .ok place
    | .up => .ok place.dropLast
    | .name n => if maxName < n.utf8ByteSize then .error .nameTooLong else .ok (place ++ [n])

/-- The pieces of a path as the system walks them: every `.` counts. -/
def systemParts (p : Path) : List PathPart :=
  let inner := p.pieces.filterMap fun piece =>
    if piece = "." then some .here else Path.innerPart? piece
  if p.text.startsWith "/" then .root :: inner else inner

/-- The place that some parts lead to, where links are followed as `follow` says. Each
part has to be there, but the last one of a path that is to be made. A path that ends
in a slash leads to a directory or nowhere, and no file can be made along it. -/
def resolveThrough (t : FileTree) (making : Bool)
    (follow : Bool → Place → List PathPart → Except Refusal Place) (slash : Bool) :
    Place → List PathPart → Except Refusal Place
  | place, [] => if slash && !t.isDirectory place then .error .notADirectory else .ok place
  | place, part :: rest =>
    if making && slash && rest.isEmpty && t.isDirectory place then .error .isADirectory
    else do
      let next ← t.along place part
      match t.entry? next with
      | none => if making && rest.isEmpty then .ok next else .error .noSuchEntry
      | some (.link target) =>
        let slash := if rest.isEmpty then slash || target.endsInSlash else slash
        follow slash place (systemParts target ++ rest)
      | some _ => t.resolveThrough making follow slash next rest

/-- The place that some parts lead to on the way along so many links at most. -/
def resolve (t : FileTree) (making : Bool) : Nat → Bool → Place → List PathPart → Except Refusal Place
  | 0 => t.resolveThrough making fun _ _ _ => .error .tooManyLinks
  | links + 1 => t.resolveThrough making (t.resolve making links)

/-- The place that a path leads to, if it is there. -/
def walk (t : FileTree) (p : Path) : Except Refusal Place :=
  t.resolve false maxLinks p.endsInSlash t.start (systemParts p)

/-- Refuses a text that the system does not take for a path. -/
def checkText (text : String) : Except Refusal Unit :=
  if text.toList.contains '\x00' then .error .nulInPath
  else if text = "" then .error .noSuchEntry
  else if maxPath < text.utf8ByteSize then .error .nameTooLong
  else .ok ()

/-- Makes a directory. A link at the end of its path is not followed. -/
def makeDirectory (t : FileTree) (p : Path) : Except Refusal FileTree := do
  checkText p.text
  let parts := systemParts p
  let place ← t.resolve false maxLinks false t.start parts.dropLast
  match parts.getLast? with
  | some (.name n) =>
    let made ← t.along place (.name n)
    if (t.entry? made).isSome then .error .alreadyExists
    else return t.addDirectory made
  | some part =>
    let _ ← t.along place part
    .error .alreadyExists
  | none => .error .alreadyExists

/-- What a path was opened to. -/
inductive Target where
  | file (number : Nat)
  | device (d : Device)
deriving DecidableEq

/-- Opens what a path leads to for writing. A file exists afterwards and is empty. -/
def openForWriting (t : FileTree) (p : Path) : Except Refusal (Target × FileTree) := do
  checkText p.text
  let place ← t.resolve true maxLinks p.endsInSlash t.start (systemParts p)
  match t.entry? place with
  | none => return (.file t.texts.length, t.addFile place)
  | some (.file number) => return (.file number, t.setText number "")
  | some (.device d) => return (.device d, t)
  | some .directory => .error .isADirectory
  | some (.link _) => .error .tooManyLinks

end FileTree

end CallChain
