/-
# Operations of a scene

What the operations do, as host code. An operation first makes the values it is
given, and then calls the machinery or changes the scene. On the session of a probe
the operations of the chain go through the probe.

Key definitions: `Deed.run`, `Op.run`.
-/
import CallChain.Demo.App

namespace CallChain

namespace Outcome

def ofUnit : Except Fault Unit → Outcome
  | .ok () => .ok
  | .error f => .fault f

def ofFlag : Except Fault Bool → Outcome
  | .ok b => .flag b
  | .error f => .fault f

def ofCompletion : Except Fault Completion → Outcome
  | .ok c => .completion c
  | .error f => .fault f

def ofRendered (rs : List (Rendered Nat)) : Outcome :=
  .texts (rs.map (·.layout.text))

end Outcome

/-- The probe behind a session, if there is one. -/
def Scene.probe? (s : Scene) (session : Nat) : Option Probe :=
  match s.role, session with
  | .probe rules, 0 => some ⟨rules, false⟩
  | _, _ => none

/-- The program ends if its session has completed. -/
def Scene.endIf : Except Fault Completion → Activity Scene Outcome
  | .ok c => do
    .modify fun s => { s with ended := true }
    return .completion c
  | .error f => return .fault f

namespace Deed

/-- What the probe of a scene is told, and what it has kept at the end. -/
def viaProbe (p : Probe) : Deed → Option (Activity Scene Outcome)
  | .enter m rs => some do
    p.entry m (← Recipe.followAll rs)
    return .nothing
  | .exit => some do
    p.exitEntry
    return .nothing
  | .candidate m rs => some do
    p.candidate m (← Recipe.followAll rs)
    return .nothing
  | .uncandidate => some do
    p.exitCandidate
    return .nothing
  | .matchChain m rs => some do
    p.terminal m (← Recipe.followAll rs)
    let scene ← .get
    return scene.kept.elim .nothing .completion
  | .beginChain first second => some do
    let scene ← .get
    match scene.member? .app first, scene.member? .app second with
    | some a, some b => return .number (← Demo.beginChain p a b)
    | _, _ => return .nothing
  | .runDemo args => some do
    return .number (← Demo.body p args)
  | _ => none

/-- What an operation does when no probe takes it. -/
def direct (s : Nat) : Deed → Activity Scene Outcome
  | .enter m rs => do
    return .ofUnit (← .request (.enterEntry s m (← Recipe.followAll rs)))
  | .exit => do
    return .ofUnit (← .request (.exitEntry s))
  | .candidate m rs => do
    return .ofFlag (← .request (.enterCandidate s m (← Recipe.followAll rs)))
  | .uncandidate => do
    return .ofFlag (← .request (.exitCandidate s))
  | .matchChain m rs => do
    return .ofCompletion (← .request (.matchChain s m (← Recipe.followAll rs)))
  | .discover walk => do
    return .ofCompletion (← .request (.discover s walk))
  | .matchExit m rs => do
    Scene.endIf (← .request (.matchChain s m (← Recipe.followAll rs)))
  | .discoverExit => do
    Scene.endIf (← .request (.discover s []))
  | .inTarget => do
    return .flag (← .request (.look s)).inTarget
  | .frames => do
    return .texts ((← .request (.frames s)).map Frame.text)
  | .look => return .nothing
  | .openSession share => do
    let _ ← .request (.openSession share)
    return .nothing
  | .identify r => do
    return .number (← .request (.identify s (← r.follow)))
  | .recall r => do
    return (← .request (.lookup s (← r.follow))).elim .nothing fun id => .number id
  | .isEmpty => do
    return .flag ((← .request (.look s)).slots = 0)
  | .purge => do
    return .number (← .request (.purge s))
  | .render rs => do
    return .ofRendered (← .request (.render s (← Recipe.followAll rs)))
  | .renderEach rs => do
    return .ofRendered (← .request (.renderEach s (← Recipe.followAll rs)))
  | .define name typeName scripts => do
    let _ ← .birth typeName fun o scene =>
      (scene.setThing o (.scripted scripts 0)).setName name o
    return .nothing
  | .rescript name scripts => do
    .modify fun scene => match scene.scripted? name with
      | some (o, _, _) => scene.setThing o (.scripted scripts 0)
      | none => scene
    return .nothing
  | .calls name => do
    let scene ← .get
    return (scene.scripted? name).elim .nothing fun found => .number found.2.2
  | .node name label => do
    Scene.makeMember .node name label
    return .nothing
  | .adopt parent child => do
    .modify fun scene => match scene.member? .node parent, scene.member? .node child with
      | some p, some c => Scene.adoptMember .node p c scene
      | _, _ => scene
    return .nothing
  | .rename name label => do
    .modify fun scene => match scene.member? .node name with
      | some m => scene.setThing m.object (.member .node label m.roster m.parent)
      | none => scene
    return .nothing
  | .children name => do
    let scene ← .get
    return (scene.member? .node name).elim .nothing fun m => .number (scene.rosterOf m.roster).length
  | .app name label => do
    Scene.makeMember .app name label
    return .nothing
  | .adoptApp parent child => do
    let scene ← .get
    match scene.member? .app parent, scene.member? .app child with
    | some p, some c => do
      .modify (Scene.adoptMember .app p c)
      return .text c.label
    | _, _ => return .nothing
  | .alias name old => do
    .modify fun scene => match scene.object? old with
      | some o => scene.setName name o
      | none => scene
    return .nothing
  | .same a b => do
    let a ← a.follow
    let b ← b.follow
    match a.object?, b.object? with
    | some a, some b => return .flag (a.sameObject b)
    | _, _ => return .nothing
  | .drop name => do
    let scene ← .get
    .modify fun scene => { scene with names := Scene.without name scene.names }
    return .flag (scene.object? name).isSome
  | .beginChain _ _ => return .nothing
  | .runDemo _ => return .nothing
  | .install _ => return .flag true

/-- What an operation does. -/
def run (s : Nat) (d : Deed) : Activity Scene Outcome := do
  let scene ← .get
  match (scene.probe? s).bind (viaProbe · d) with
  | some activity => activity
  | none => direct s d

end Deed

/-- An operation, and the report on it. -/
def Op.run : Op → Activity Scene Report
  | .mk s deed => do
    let before ← .request (.sent 0)
    let outcome ← deed.run s
    let standing ← .request (.look s)
    let after ← .request (.sent 0)
    return ⟨outcome, standing, after.drop before.length⟩

end CallChain
