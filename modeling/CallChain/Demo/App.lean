/-
# The demo program

A program of a few methods that call one another and report to a probe:
`main` calls `begin_chain`, which calls an overload of `mid_chain` that returns
before the chain ends, and then the `mid_chain` that calls `end_chain`. The apps it
works on form a graph with a cycle, for a child links back to its parent.

Key definitions: `Demo.beginChain`, `Demo.body`.
-/
import CallChain.Demo.Probe

namespace CallChain.Demo

/-- A method of the demo, by its signature. -/
def method (signature : String) : Method :=
  .ofParts (Family.typeName .app) signature

/-- The number of children that an app has now. -/
def childCount (app : Scene.Member) : Activity Scene Int := do
  let scene ← .get
  return (scene.rosterOf app.roster).length

/-- The end of the chain: its argument and the number of children. -/
def endChain (probe : Probe) (app : Scene.Member) (n : Int) : Activity Scene Int := do
  probe.terminal (method "end_chain(i64) i64") [.object app.object, .scalar (.int (.ofInt n))]
  let children ← childCount app
  return n + children

/-- The link of the chain: `end_chain` of twice its argument. -/
def midChain (probe : Probe) (app : Scene.Member) (n : Int) : Activity Scene Int := do
  probe.candidate (method "mid_chain(i64) i64") [.object app.object, .scalar (.int (.ofInt n))]
  let result ← endChain probe app (n * 2)
  probe.exitCandidate
  return result

/-- The overload beside the chain: the names of the app and of another one. -/
def midChainLabel (probe : Probe) (app : Scene.Member) (label : String) :
    Activity Scene String := do
  probe.candidate (method "mid_chain(&str) String") [.object app.object, .text label]
  let joined := app.label ++ "/" ++ label
  probe.exitCandidate
  return joined

/-- The start of the chain below `main`. -/
def beginChain (probe : Probe) (app other : Scene.Member) : Activity Scene Int := do
  probe.candidate (method "begin_chain(App) i64") [.object app.object, .object other.object]
  let label ← midChainLabel probe app other.label
  let result ← midChain probe app label.utf8ByteSize
  probe.exitCandidate
  return result

/-- The body of the program: the entry of the chain, on an app with one child. -/
def body (probe : Probe) (args : List String) : Activity Scene Int := do
  let args ← Scene.make "Vec<String>" (.fixed (.sequence (args.map Value.text)))
  probe.entry (method "main(Vec<String>)") [args]
  let root ← Scene.makeFreshMember .app "root"
  let child ← Scene.makeFreshMember .app "child"
  .modify (Scene.adoptMember .app root child)
  let result ← beginChain probe root child
  probe.exitEntry
  return result

end CallChain.Demo
