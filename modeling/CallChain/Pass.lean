/-
# A rendering pass

A pass turns host values into rendered ones, from left to right and depth first.
Every object it meets is tagged first. One whose identity was opened before in
the same pass becomes a reference; at `maxDepth` nested objects an object becomes
a failure; otherwise it is asked for its structure. Only an object that answers
with a shape counts as opened, so every reference points at an object of the same
pass, and a cycle ends at its first repetition.

The pass knows its surroundings by two operations: `tag` names an object and
`ask` has it describe itself, which may change the surroundings in any way. Both
the surroundings `σ` and the identities `ι` are left open.

While a pass runs, the values it still needs are held: a sequence keeps all its
items until the last one is rendered, a record or a mapping lets each child go as
soon as it is rendered. The handles held are passed to `ask`.

Key definitions: `Surroundings`, `Pass`, `Pass.render`, `Pass.renderAll`.
-/
import CallChain.Rendered.Basic

namespace CallChain

/-- How deeply objects may be nested. A sequence or a mapping costs two levels of
JSON and the artifact around the values three more, so the deepest artifact stays
below the 128 levels that a reader of JSON can be expected to accept. -/
def maxDepth : Nat := 60

/-- What stands for an object that is nested too deeply. -/
def tooDeep (o : ObjectRef) : Failure :=
  ⟨"depth", o.typeName ++ " nested deeper than " ++ toString maxDepth ++ " levels"⟩

/-- What a pass asks of its surroundings. -/
structure Surroundings (σ ι : Type) where
  /-- names an object -/
  tag : ObjectRef → σ → ι × σ
  /-- has an object describe itself, while the given handles are held -/
  ask : List ObjectRef → ObjectRef → σ → Answer × σ

/-- A pass under way: the state of the surroundings, and the identities opened so
far, latest first. -/
structure Pass (σ ι : Type) where
  state : σ
  opened : List ι

namespace Pass

variable {σ ι : Type}

/-- The items of a sequence, rendered by `f` from left to right. -/
def renderItems (f : Value → Pass σ ι → Rendered ι × Pass σ ι) :
    List Value → Pass σ ι → List (Rendered ι) × Pass σ ι
  | [], p => ([], p)
  | item :: rest, p =>
    let first := f item p
    let others := renderItems f rest first.2
    (first.1 :: others.1, others.2)

/-- Named children, rendered by `f` from left to right; `f` gets the handles that
are still held. -/
def renderFields (f : List ObjectRef → Value → Pass σ ι → Rendered ι × Pass σ ι)
    (held : List ObjectRef) :
    List (String × Value) → Pass σ ι → List (String × Rendered ι) × Pass σ ι
  | [], p => ([], p)
  | (name, value) :: rest, p =>
    let first := f (held ++ Value.objects (value :: rest.map (·.2))) value p
    let others := renderFields f held rest first.2
    ((name, first.1) :: others.1, others.2)

/-- The children of a shape. -/
def renderBody (f : List ObjectRef → Value → Pass σ ι → Rendered ι × Pass σ ι)
    (held : List ObjectRef) : Shape Value → Pass σ ι → Shape (Rendered ι) × Pass σ ι
  | .record fields, p =>
    let children := renderFields f held fields p
    (.record children.1, children.2)
  | .sequence items, p =>
    let children := renderItems (f (held ++ Value.objects items)) items p
    (.sequence children.1, children.2)
  | .mapping entries, p =>
    let children := renderFields f held entries p
    (.mapping children.1, children.2)

variable [DecidableEq ι]

/-- Tags an object and refers back to it if it is open; otherwise goes on with its
identity. -/
def meet (env : Surroundings σ ι) (o : ObjectRef)
    (go : ι → Pass σ ι → Rendered ι × Pass σ ι) (p : Pass σ ι) : Rendered ι × Pass σ ι :=
  let tagged := env.tag o p.state
  if tagged.1 ∈ p.opened then (.reference tagged.1, { p with state := tagged.2 })
  else go tagged.1 { p with state := tagged.2 }

/-- Asks an object for its structure and renders the children by `f`. -/
def expand (env : Surroundings σ ι) (f : List ObjectRef → Value → Pass σ ι → Rendered ι × Pass σ ι)
    (held : List ObjectRef) (o : ObjectRef) (id : ι) (p : Pass σ ι) : Rendered ι × Pass σ ι :=
  let answered := env.ask held o p.state
  match answered.1 with
  | .failed failure => (.failed failure, { p with state := answered.2 })
  | .panicked text => (.failed (Failure.ofPanic text), { p with state := answered.2 })
  | .shape shape =>
    let body := renderBody f held shape ⟨answered.2, id :: p.opened⟩
    (.object id o.typeName body.1, body.2)

/-- A value, with room for so many nested objects. -/
def render (env : Surroundings σ ι) :
    Nat → List ObjectRef → Value → Pass σ ι → Rendered ι × Pass σ ι
  | _, _, .scalar s, p => (.scalar s, p)
  | 0, _, .object o, p => meet env o (fun _ p => (.failed (tooDeep o), p)) p
  | room + 1, held, .object o, p => meet env o (expand env (render env room) held o) p

/-- The values of one pass, all of them held until the last one is rendered. -/
def renderAll (env : Surroundings σ ι) (held : List ObjectRef) (vs : List Value) (p : Pass σ ι) :
    List (Rendered ι) × Pass σ ι :=
  renderItems (render env maxDepth (held ++ Value.objects vs)) vs p

end Pass

/-- One whole pass over some values. -/
def Surroundings.run {σ ι : Type} [DecidableEq ι] (env : Surroundings σ ι) (held : List ObjectRef)
    (vs : List Value) (state : σ) : List (Rendered ι) × σ :=
  let rendered := Pass.renderAll env held vs ⟨state, []⟩
  (rendered.1, rendered.2.state)

end CallChain
