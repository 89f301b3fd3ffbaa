/-
# Sinks

Where artifacts go: to standard output, or to what a path leads to, whose directory
is made if need be. An artifact that cannot be written there goes to standard output
instead. On standard output an artifact is followed by a newline; a file holds the
artifact and nothing else, and a device is given the artifact and nothing else.

A step of writing may be refused for reasons that the file tree shows, and also for
others, such as a full disk; those are the `Troubles` of an emission. Standard output
is a stream here and none of the files of the tree.

Key definitions: `Troubles`, `FileTree.makeDirectories`, `Disk`, `Disk.writeText`,
`Sink`, `Sink.emit`, `Sink.emitAll`.
-/
import CallChain.Fault
import CallChain.Output.FileTree

namespace CallChain

/-- The refusals that the file tree does not explain. A write or a flush that is
refused has brought so many characters of the text to where it goes. -/
structure Troubles where
  makingDirectory : Path → Option Refusal
  opening : Option Refusal
  writing : Option (Refusal × Nat)
  flushing : Option (Refusal × Nat)

/-- Nothing is refused without a reason in the tree. -/
def Troubles.none : Troubles := ⟨fun _ => .none, .none, .none, .none⟩

namespace FileTree

/-- Whether a path leads to a directory. -/
def leadsToDirectory (t : FileTree) (p : Path) : Bool :=
  match t.walk p with
  | .ok place => t.isDirectory place
  | .error _ => false

/-- Makes a directory that may exist already. -/
def ensureDirectory (trouble : Troubles) (t : FileTree) (p : Path) : Except Refusal FileTree :=
  match trouble.makingDirectory p with
  | some refusal => .error refusal
  | none =>
    match t.makeDirectory p with
    | .ok made => .ok made
    | .error .alreadyExists => if t.leadsToDirectory p then .ok t else .error .alreadyExists
    | .error refusal => .error refusal

/-- The directories that are missing, from the longest path up to the first one that
can be made or is there; that one is made if it can be. The rest of them come out
shortest first. -/
def missing (trouble : Troubles) (t : FileTree) : List Path → Except Refusal (List Path × FileTree)
  | [] => .ok ([], t)
  | p :: shorter =>
    match t.ensureDirectory trouble p with
    | .ok made => .ok ([], made)
    | .error .noSuchEntry => (t.missing trouble shorter).map fun found => (found.1 ++ [p], found.2)
    | .error refusal => .error refusal

/-- Makes directories one after the other, until one is refused. -/
def makeAll (trouble : Troubles) : List Path → FileTree → Except Refusal Unit × FileTree
  | [], t => (.ok (), t)
  | p :: rest, t =>
    match t.ensureDirectory trouble p with
    | .ok made => makeAll trouble rest made
    | .error refusal => (.error refusal, t)

/-- Makes the directories of some paths, each of which lies below the next. -/
def makeDirectories (trouble : Troubles) (t : FileTree) (ps : List Path) :
    Except Refusal Unit × FileTree :=
  match t.missing trouble ps with
  | .error refusal => (.error refusal, t)
  | .ok found => makeAll trouble found.1 found.2

end FileTree

/-- The first characters of a text. -/
def firstCharacters (n : Nat) (text : String) : String :=
  String.ofList (text.toList.take n)

/-- What an artifact can be written to: the files, and the devices with what each of
them has been given. -/
structure Disk where
  files : FileTree
  given : Device → String

namespace Disk

/-- What reached standard output. -/
def stdout (d : Disk) : String :=
  d.given .standardOutput

/-- Gives a text to a device. -/
def give (d : Disk) (device : Device) (text : String) : Disk :=
  { d with given := fun other => if other = device then d.given device ++ text else d.given other }

/-- Adds a line to standard output. -/
def printLine (d : Disk) (text : String) : Disk :=
  d.give .standardOutput (text ++ "\n")

/-- Makes a directory and those above it, as far as they can be made. -/
def makeDirectory (d : Disk) (p : Path) : Disk :=
  { d with files := (d.files.makeDirectories .none (p :: p.ancestors)).2 }

/-- Brings a text to what was opened: to a file, which holds it then, or to a device. -/
def bring (d : Disk) (text : String) : FileTree.Target → Disk
  | .file number => { d with files := d.files.setText number text }
  | .device device => d.give device text

/-- Writes a text to what was opened, or what comes through of it. -/
def fill (trouble : Troubles) (d : Disk) (target : FileTree.Target) (text : String) :
    Except Refusal Unit × Disk :=
  match trouble.writing, trouble.flushing with
  | some (refusal, n), _ => (.error refusal, d.bring (firstCharacters n text) target)
  | none, some (refusal, n) => (.error refusal, d.bring (firstCharacters n text) target)
  | none, none => (.ok (), d.bring text target)

/-- Makes the directories above a path, opens what it leads to and writes a text there. -/
def writeText (trouble : Troubles) (d : Disk) (p : Path) (text : String) : Except Refusal Unit × Disk :=
  let made := d.files.makeDirectories trouble p.ancestors
  match made.1 with
  | .error refusal => (.error refusal, { d with files := made.2 })
  | .ok () =>
    match trouble.opening with
    | some refusal => (.error refusal, { d with files := made.2 })
    | none =>
      match made.2.openForWriting p with
      | .error refusal => (.error refusal, { d with files := made.2 })
      | .ok (target, opened) => fill trouble { d with files := opened } target text

/-- Writes a text to a path, or says why that was refused. -/
def write (trouble : Troubles) (d : Disk) (p : Path) (text : String) : Except Fault Unit × Disk :=
  let written := d.writeText trouble p text
  (written.1.mapError fun refusal => .output refusal.message, written.2)

end Disk

/-- Where artifacts go. -/
inductive Sink where
  | console
  | file (path : Path)

/-- Delivers an artifact. -/
def Sink.emit (trouble : Troubles) (d : Disk) : Sink → String → Disk
  | .console, artifact => d.printLine artifact
  | .file path, artifact =>
    match d.write trouble path artifact with
    | (.ok (), written) => written
    | (.error _, written) => written.printLine artifact

/-- Delivers artifacts one after the other. -/
def Sink.emitAll (sink : Sink) (d : Disk) (artifacts : List String) : Disk :=
  artifacts.foldl (fun d artifact => sink.emit .none d artifact) d

end CallChain
