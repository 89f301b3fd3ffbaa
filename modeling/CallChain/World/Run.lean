/-
# Running host code

The meaning of requests and activities. An operation that records a frame first
looks whether its session is live, then renders the values, which runs host code
and may change anything, and then looks again before it touches the session. Host
code called from host code is counted in levels, and only so many levels are run:
an object that is asked below the last one panics.

Key definitions: `World.perform`, `World.serve`, `Activity.run`, `Host.act`,
`Host.ask`, `Host.run`.
-/
import CallChain.Pass
import CallChain.World.Basic

namespace CallChain

/-- How an object is asked to describe itself, while handles are held. -/
abbrev Asking (H : Type) := List ObjectRef → ObjectRef → World H → Answer × World H

/-- An answer as the machinery sees it. -/
def World.graspAnswer {H : Type} (w : World H) : Answer → Answer
  | .shape s => .shape (s.map w.grasp)
  | .failed f => .failed f
  | .panicked text => .panicked text

namespace World

variable {H β : Type}

/-- A pass names objects by the registry `n` and asks them by `ask`. -/
def surroundings (ask : Asking H) (n : Nat) : Surroundings (World H) Nat where
  tag := tag n
  ask := ask

/-- One pass over some values, on the registry of a session. -/
def capture (w : World H) (ask : Asking H) (held : List ObjectRef) (session : Nat)
    (vs : List Value) : List (Rendered Nat) × World H :=
  match w.registryOf? session with
  | some n =>
    let rendered := (surroundings ask n).run held (vs.map w.grasp) w
    (rendered.1, rendered.2.note (.rendered n (vs.map w.grasp) rendered.1))
  | none => ([], w)

/-- A pass for each value, all of them held until the last pass ends. -/
def captureEach (ask : Asking H) (held : List ObjectRef) (session : Nat) :
    List Value → World H → List (Rendered Nat) × World H
  | [], w => ([], w)
  | v :: rest, w =>
    let first := w.capture ask held session [v]
    let others := captureEach ask held session rest first.2
    (first.1 ++ others.1, others.2)

/-- Changes a session by a step that may be refused. -/
def update (w : World H) (session : Nat) (step : Session → Except Fault (β × Session)) :
    Except Fault β × World H :=
  match step (w.session session) with
  | .error fault => (.error fault, w)
  | .ok stepped => (.ok stepped.1, w.setSession session stepped.2)

/-- Changes a session that is live. -/
def updateLive (w : World H) (session : Nat) (step : Session → Except Fault (β × Session)) :
    Except Fault β × World H :=
  if (w.session session).complete then (.error .sessionComplete, w)
  else w.update session step

/-- Changes a session by a frame whose values are rendered first. The session has
to be live before and after the rendering. -/
def updateWith (w : World H) (ask : Asking H) (held : List ObjectRef) (session : Nat)
    (method : Method) (vs : List Value) (step : Frame → Session → Except Fault (β × Session)) :
    Except Fault β × World H :=
  if (w.session session).complete then (.error .sessionComplete, w)
  else
    let captured := w.capture ask held session vs
    let frame : Frame := ⟨method, captured.1⟩
    (captured.2.note (.captured session frame)).updateLive session (step frame)

/-- What a request does. -/
def perform (keeps : H → List ObjectRef → List ObjectRef) (ask : Asking H)
    (held : List ObjectRef) : (r : Request) → World H → r.Reply × World H
  | .enterEntry s m vs, w => w.updateWith ask held s m vs Session.enterEntry
  | .exitEntry s, w =>
    let left := w.updateLive s Session.exitEntry
    match left.1 with
    | .error fault => (.error fault, left.2)
    | .ok () => (.ok (), (left.2.purge keeps held (w.session s).registry).2)
  | .enterCandidate s m vs, w =>
    if (w.session s).complete then (.error .sessionComplete, w)
    else if !(w.session s).chain.inTarget then (.ok false, w)
    else w.updateWith ask held s m vs Session.enterCandidate
  | .exitCandidate s, w => w.updateLive s Session.exitCandidate
  | .matchChain s m vs, w => w.updateWith ask held s m vs Session.matchChain
  | .discover s offered, w => w.updateLive s (Session.discover offered)
  | .look s, w => (w.standing s, w)
  | .frames s, w => ((w.session s).chain.frames, w)
  | .sent s, w => ((w.session s).sent, w)
  | .identify s v, w =>
    match w.registryOf? s, (w.grasp v).object? with
    | some n, some o => w.tag n o
    | _, _ => (nullIdentity, w)
  | .lookup s v, w =>
    match w.registryOf? s, (w.grasp v).object? with
    | some n, some o => ((w.registry n).get? o, w)
    | _, _ => (none, w)
  | .purge s, w =>
    match w.registryOf? s with
    | some n => w.purge keeps held n
    | none => (0, w)
  | .render s vs, w => w.capture ask held s vs
  | .renderEach s vs, w =>
    let vs := vs.map w.grasp
    captureEach ask (held ++ Value.objects vs) s vs w
  | .openSession share, w => w.openSession share

/-- Notes the reply to a request that has been performed. -/
def conclude (r : Request) (performed : r.Reply × World H) : World H :=
  performed.2.note (.returned r performed.1 performed.2.toMoment)

/-- Performs a request and notes its reply. -/
def serve (keeps : H → List ObjectRef → List ObjectRef) (ask : Asking H)
    (held : List ObjectRef) (r : Request) (w : World H) : r.Reply × World H :=
  let performed := perform keeps ask held r w
  (performed.1, conclude r performed)

end World

/-- Runs host code whose requests are served by `serve`. A new object may lie where one
lay that has died; what is dead by then is found by `sweep`. -/
def Activity.run {H α : Type} (sweep : World H → World H)
    (serve : (r : Request) → World H → r.Reply × World H) : Activity H α → World H → α × World H
  | .done result, w => (result, w)
  | .host change next, w =>
    run sweep serve (next (change w.host)) { w with host := change w.host }
  | .create typeName place store next, w =>
    let born := (sweep w).create typeName place store
    run sweep serve (next born.1) born.2
  | .call request next, w =>
    let served := serve request w
    run sweep serve (next served.1) served.2

/-- Runs host code of a host, while handles are held, with objects that are asked by
`ask`. -/
def Host.act {H α : Type} (D : Host H) (ask : Asking H) (held : List ObjectRef) :
    Activity H α → World H → α × World H :=
  Activity.run (fun w => w.sweep D.keeps held) (World.serve D.keeps ask held)

/-- Receives the answer of an object that was asked. -/
def World.receive {H : Type} (w : World H) (o : ObjectRef) (answer : Answer) : Answer × World H :=
  (w.graspAnswer answer, w.note (.answered o (w.graspAnswer answer)))

/-- Asks an object to describe itself, with so many levels of host code left. -/
def Host.ask {H : Type} (D : Host H) : Nat → Asking H
  | 0, _, o, w => (w.note (.asked o)).receive o (.panicked none)
  | level + 1, held, o, w =>
    let described := D.act (D.ask level) held (D.describe held o) (w.note (.asked o))
    described.2.receive o described.1

/-- Runs host code from outside, with so many levels of host code below it. -/
def Host.run {H α : Type} (D : Host H) (level : Nat) (activity : Activity H α) (w : World H) :
    α × World H :=
  D.act (D.ask level) [] activity w

end CallChain
