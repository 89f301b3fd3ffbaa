/-
# Failures are contained

How an object fails shows at its own place only. Let two hosts have the same objects, which
answer alike but for some that always fail, each time and in each host in any way. Then two
passes over the same values differ only in what they say where these objects stand, and they
leave the same registry behind.

An object that fails is named before it is asked, and does not open. So each of its failures
leads to the same state, whether it was an error or a panic, and the two passes agree at each
of their steps on the registry and on what is open (`Pass.Agrees`).

While it is asked, an object may also give birth to others, as long as the graph is kept
alive meanwhile. Nobody has heard of those when it has answered.

Key definitions: `Activity.Secluded`, `Host.StillBut`, `Rendered.SameBut`,
`Surroundings.Follows`, `Pass.Agrees`.
Key theorems: `Rendered.SameBut.eq_of_not_free`, `Pass.Renders.sameBut`,
`Host.failures_contained`.
-/
import CallChain.Proofs.Numbering

namespace CallChain

open Rendered

variable {σ τ ι H H' α : Type}

/-! ### The same but for some failures -/

namespace Rendered

/-- Two lists of values below a place, numbered from `k` on, are the same, except that where
failures stand at free places these may be different. -/
inductive SameBut (free : List Nat → Prop) : List Nat → Nat → List (Rendered ι) → List (Rendered ι) → Prop
  | nil (place : List Nat) (k : Nat) : SameBut free place k [] []
  | scalar {place : List Nat} {k : Nat} {s : Scalar} {rs ts : List (Rendered ι)}
      (rest : SameBut free place (k + 1) rs ts) : SameBut free place k (.scalar s :: rs) (.scalar s :: ts)
  | reference {place : List Nat} {k : Nat} {id : ι} {rs ts : List (Rendered ι)}
      (rest : SameBut free place (k + 1) rs ts) : SameBut free place k (.reference id :: rs) (.reference id :: ts)
  | failed {place : List Nat} {k : Nat} {f : Failure} {rs ts : List (Rendered ι)}
      (rest : SameBut free place (k + 1) rs ts) : SameBut free place k (.failed f :: rs) (.failed f :: ts)
  | freed {place : List Nat} {k : Nat} {f f' : Failure} {rs ts : List (Rendered ι)}
      (allowed : free (place ++ [k])) (rest : SameBut free place (k + 1) rs ts) :
      SameBut free place k (.failed f :: rs) (.failed f' :: ts)
  | object {place : List Nat} {k : Nat} {id : ι} {typeName : String} {body body' : Shape (Rendered ι)}
      {rs ts : List (Rendered ι)} (outline : body.outline = body'.outline)
      (inside : SameBut free (place ++ [k]) 0 body.children body'.children)
      (rest : SameBut free place (k + 1) rs ts) :
      SameBut free place k (.object id typeName body :: rs) (.object id typeName body' :: ts)

/-- Where no failure stands at a free place, values that are the same but for those are the
same. -/
theorem SameBut.eq_of_not_free {free : List Nat → Prop} {place : List Nat} {k : Nat} {rs ts : List (Rendered ι)}
    (h : SameBut free place k rs ts)
    (hfree : ∀ n ∈ nodesOfItems place k rs, ∀ f, n.value = .failed f → ¬ free n.place) : rs = ts := by
  induction h with
  | nil => rfl
  | scalar rest ih => rw [ih fun n hn => hfree n (List.mem_append_right _ hn)]
  | reference rest ih => rw [ih fun n hn => hfree n (List.mem_append_right _ hn)]
  | failed rest ih => rw [ih fun n hn => hfree n (List.mem_append_right _ hn)]
  | freed allowed rest ih =>
    exact absurd allowed (hfree _ (List.mem_append_left _ (mem_nodes_self _ _)) _ rfl)
  | object outline inside rest ihinside ihrest =>
    have hchildren := ihinside fun n hn => hfree n (List.mem_append_left _ (by
      rw [nodes_eq]
      exact List.mem_cons_of_mem _ hn))
    rw [Shape.eq_of_outline outline hchildren, ihrest fun n hn => hfree n (List.mem_append_right _ hn)]

end Rendered

/-! ### Passes over objects that may fail in any way -/

namespace Graph

variable {g : Graph} {X : ObjectRef → Prop}

/-- An answer that is allowed when the objects of `X` fail in any way, and the others answer
as in the graph. -/
def Allows (g : Graph) (X : ObjectRef → Prop) (o : ObjectRef) (a : Answer) : Prop :=
  (X o → ∃ f, a.failure? = some f) ∧ (¬ X o → a = g.answer o)

/-- An object that may answer with a shape is one of those that answer as in the graph. -/
theorem Allows.answer_eq {o : ObjectRef} {shape : Shape Value} (h : g.Allows X o (.shape shape)) :
    ¬ X o ∧ g.answer o = .shape shape := by
  have hX : ¬ X o := fun hX => by
    obtain ⟨f, hf⟩ := h.1 hX
    cases hf
  exact ⟨hX, (h.2 hX).symm⟩

/-- An object that may answer with a shape may not answer otherwise. -/
theorem Allows.eq_shape {o : ObjectRef} {shape : Shape Value} {a : Answer} (h : g.Allows X o (.shape shape))
    (ha : g.Allows X o a) : a = .shape shape := by
  obtain ⟨hX, hanswer⟩ := h.answer_eq
  exact (ha.2 hX).trans hanswer

/-- At a place below some values stands an object of `X`. -/
def Stands (g : Graph) (X : ObjectRef → Prop) (top : List Value) (place : List Nat) : Prop :=
  ∃ o, X o ∧ g.at? top place = some (.object o)

/-- Values lie below a place of the graph, from the child with number `k` on. -/
def Lists (g : Graph) (top vs : List Value) (place : List Nat) (k : Nat) : Prop :=
  ∀ i v, vs[i]? = some v → g.at? top (place ++ [k + i]) = some v

variable {top vs : List Value} {v : Value} {place : List Nat} {k : Nat}

theorem Lists.head (h : g.Lists top (v :: vs) place k) : g.at? top (place ++ [k]) = some v :=
  h 0 v rfl

theorem Lists.tail (h : g.Lists top (v :: vs) place k) : g.Lists top vs place (k + 1) := by
  intro i u hu
  rw [Nat.add_assoc, Nat.add_comm 1]
  exact h (i + 1) u hu

/-- Below an object lie its children. -/
theorem lists_children {o : ObjectRef} {shape : Shape Value} (ho : g.at? top place = some (.object o))
    (hshape : g.answer o = .shape shape) : g.Lists top shape.children place 0 := by
  intro i u hu
  rw [Nat.zero_add, at?_concat i ho]
  simp only [child?, hshape, hu]

end Graph

/-- Surroundings name objects by a registry, which nothing else changes, and the objects answer
as a graph allows. -/
structure Surroundings.Follows (env : Surroundings σ Nat) (Good : List ObjectRef → σ → Prop) (g : Graph)
    (X : ObjectRef → Prop) (registry : σ → Registry) : Prop where
  tag : ∀ {held : List ObjectRef} {o : ObjectRef} {id : Nat} {s t : σ}, o ∈ held → Good held s →
    env.tag o s = (id, t) → (registry s).idOf o = (id, registry t)
  ask : ∀ {held : List ObjectRef} {o : ObjectRef} {answer : Answer} {s t : σ}, o ∈ held → Good held s →
    env.ask held o s = (answer, t) → g.Allows X o answer ∧ registry t = registry s

namespace Pass

/-- Two passes agree on the registry and on what is open. -/
structure Agrees (registry : σ → Registry) (registry' : τ → Registry) (p : Pass σ Nat) (p' : Pass τ Nat) : Prop where
  registry : registry p.state = registry' p'.state
  opened : p.opened = p'.opened

variable {env : Surroundings σ Nat} {env' : Surroundings τ Nat} {Good : List ObjectRef → σ → Prop}
  {Good' : List ObjectRef → τ → Prop} {g : Graph} {X : ObjectRef → Prop} {registry : σ → Registry}
  {registry' : τ → Registry}

/-- Passes that agree give an object the same identity, and go on agreeing. -/
theorem Agrees.tag (hf : env.Follows Good g X registry) (hf' : env'.Follows Good' g X registry')
    {p : Pass σ Nat} {p' : Pass τ Nat} (h : Agrees registry registry' p p') {held : List ObjectRef} {o : ObjectRef}
    {id : Nat} {tagged : σ} (good : Good held p.state) (mem : o ∈ held) (tag : env.tag o p.state = (id, tagged)) :
    ∀ ⦃held' : List ObjectRef⦄ ⦃id' : Nat⦄ ⦃tagged' : τ⦄, Good' held' p'.state → o ∈ held' →
      env'.tag o p'.state = (id', tagged') → id = id' ∧
        Agrees registry registry' ⟨tagged, p.opened⟩ ⟨tagged', p'.opened⟩ ∧ (id ∈ p.opened ↔ id' ∈ p'.opened) := by
  intro held' id' tagged' good' mem' tag'
  have hid := hf.tag mem good tag
  rw [h.registry, hf'.tag mem' good' tag'] at hid
  obtain ⟨rfl, hregistry⟩ := Prod.mk.inj hid
  exact ⟨rfl, ⟨hregistry.symm, h.opened⟩, by rw [h.opened]⟩

/-- Passes that agree may open the same identities, and the answers that objects give change nothing
that they agree on. -/
theorem Agrees.asked {p : Pass σ Nat} {p' : Pass τ Nat} (h : Agrees registry registry' p p') {asked : σ} {asked' : τ}
    (hasked : registry asked = registry p.state) (hasked' : registry' asked' = registry' p'.state) (more : List Nat) :
    Agrees registry registry' ⟨asked, more ++ p.opened⟩ ⟨asked', more ++ p'.opened⟩ :=
  ⟨hasked.trans (h.registry.trans hasked'.symm), congrArg (more ++ ·) h.opened⟩

/-- Two passes over the same values, in surroundings that follow the same graph but for `X`,
render the same but for failures where an object of `X` stands. If they agree in the
beginning, they agree in the end. -/
theorem Renders.sameBut (hk : env.Keeps Good) (hk' : env'.Keeps Good') (hf : env.Follows Good g X registry)
    (hf' : env'.Follows Good' g X registry') {top : List Value} {room : Nat} {vs : List Value} {p q : Pass σ Nat}
    {rs : List (Rendered Nat)} (h : Renders env Good room vs p rs q) :
    ∀ {p' q' : Pass τ Nat} {ts : List (Rendered Nat)} {place : List Nat} {k : Nat},
      Renders env' Good' room vs p' ts q' → Agrees registry registry' p p' → g.Lists top vs place k →
      SameBut (g.Stands X top) place k rs ts ∧ Agrees registry registry' q q' := by
  -- the first pass goes ahead, and the second one has no other way to go
  induction h with
  | nil =>
    intro p' q' ts place k h' hagree hlists
    cases h'
    exact ⟨.nil place k, hagree⟩
  | scalar rest ih =>
    intro p' q' ts place k h' hagree hlists
    cases h' with
    | scalar rest' =>
      obtain ⟨hsame, hend⟩ := ih rest' hagree hlists.tail
      exact ⟨.scalar hsame, hend⟩
  | reference good mem tag old rest ih =>
    intro p' q' ts place k h' hagree hlists
    have htag := hagree.tag hf hf' good mem tag
    cases h' with
    | reference good' mem' tag' old' rest' =>
      obtain ⟨rfl, htagged, -⟩ := htag good' mem' tag'
      obtain ⟨hsame, hend⟩ := ih rest' htagged hlists.tail
      exact ⟨.reference hsame, hend⟩
    | tooDeep good' mem' tag' new' _ => exact absurd ((htag good' mem' tag').2.2.1 old) new'
    | failed good' mem' tag' new' _ _ _ => exact absurd ((htag good' mem' tag').2.2.1 old) new'
    | object good' mem' tag' new' _ _ _ _ => exact absurd ((htag good' mem' tag').2.2.1 old) new'
  | tooDeep good mem tag new rest ih =>
    intro p' q' ts place k h' hagree hlists
    have htag := hagree.tag hf hf' good mem tag
    cases h' with
    | reference good' mem' tag' old' _ => exact absurd ((htag good' mem' tag').2.2.2 old') new
    | tooDeep good' mem' tag' new' rest' =>
      obtain ⟨-, htagged, -⟩ := htag good' mem' tag'
      obtain ⟨hsame, hend⟩ := ih rest' htagged hlists.tail
      exact ⟨.failed hsame, hend⟩
  | @failed _ _ o _ _ _ answer f _ _ _ _ good mem tag new ask failure rest ih =>
    intro p' q' ts place k h' hagree hlists
    have htag := hagree.tag hf hf' good mem tag
    obtain ⟨hallows, hasked⟩ := hf.ask mem (hk.of_tag mem good tag) ask
    cases h' with
    | reference good' mem' tag' old' _ => exact absurd ((htag good' mem' tag').2.2.2 old') new
    | failed good' mem' tag' new' ask' failure' rest' =>
      obtain ⟨rfl, htagged, -⟩ := htag good' mem' tag'
      obtain ⟨hallows', hasked'⟩ := hf'.ask mem' (hk'.of_tag mem' good' tag') ask'
      obtain ⟨hsame, hend⟩ := ih rest' (htagged.asked hasked hasked' []) hlists.tail
      by_cases hX : X o
      · exact ⟨.freed ⟨o, hX, hlists.head⟩ hsame, hend⟩
      · rw [hallows.2 hX, ← hallows'.2 hX, failure'] at failure
        obtain rfl := Option.some.inj failure
        exact ⟨.failed hsame, hend⟩
    | object good' mem' tag' new' ask' _ _ _ =>
      obtain ⟨hallows', -⟩ := hf'.ask mem' (hk'.of_tag mem' good' tag') ask'
      rw [hallows'.eq_shape hallows] at failure
      cases failure
  | object good mem tag new ask outline inside rest ihinside ihrest =>
    intro p' q' ts place k h' hagree hlists
    have htag := hagree.tag hf hf' good mem tag
    obtain ⟨hallows, hasked⟩ := hf.ask mem (hk.of_tag mem good tag) ask
    cases h' with
    | reference good' mem' tag' old' _ => exact absurd ((htag good' mem' tag').2.2.2 old') new
    | failed good' mem' tag' new' ask' failure' rest' =>
      obtain ⟨hallows', -⟩ := hf'.ask mem' (hk'.of_tag mem' good' tag') ask'
      rw [hallows.eq_shape hallows'] at failure'
      cases failure'
    | object good' mem' tag' new' ask' outline' inside' rest' =>
      obtain ⟨rfl, htagged, -⟩ := htag good' mem' tag'
      obtain ⟨hallows', hasked'⟩ := hf'.ask mem' (hk'.of_tag mem' good' tag') ask'
      cases hallows.eq_shape hallows'
      obtain ⟨hchildren, hinside⟩ := ihinside inside' (htagged.asked hasked hasked' [_])
        (Graph.lists_children hlists.head hallows.answer_eq.2)
      obtain ⟨hsame, hend⟩ := ihrest rest' hinside hlists.tail
      exact ⟨.object (outline.trans outline'.symm) hchildren hsame, hend⟩

end Pass

/-! ### Hosts whose objects fail in any way -/

/-- A program calls nothing, keeps the state of the host steady and ends with a result as it
has to be. It gives birth to objects only where others last. -/
inductive Activity.Secluded (steady lasting : H → Prop) (P : α → Prop) : Activity H α → Prop
  | done {result : α} (holds : P result) : Secluded steady lasting P (.done result)
  | host {change : H → H} {next : H → Activity H α} (keeps : ∀ h, steady h → steady (change h))
      (after : ∀ h, steady h → Secluded steady lasting P (next h)) :
      Secluded steady lasting P (.host change next)
  | create {typeName : String} {place : Nat} {store : ObjectRef → H → H} {next : ObjectRef → Activity H α}
      (lasts : ∀ h, steady h → lasting h) (keeps : ∀ o h, steady h → steady (store o h))
      (after : ∀ o, Secluded steady lasting P (next o)) :
      Secluded steady lasting P (.create typeName place store next)

/-- The objects of a graph stand still while the host is steady, except that those of `X` fail,
each time in any way. -/
structure Host.StillBut (D : Host H) (g : Graph) (X : ObjectRef → Prop) (steady : H → Prop) : Prop where
  secluded : ∀ (held : List ObjectRef) {o : ObjectRef}, g.mem o →
    (D.describe held o).Secluded steady (fun h => ∀ p, g.mem p → p ∈ held ++ D.keeps h held) (g.Allows X o)

variable {D : Host H} {g : Graph} {X : ObjectRef → Prop} {steady : H → Prop}

/-- A secluded program leaves the registries alone, and the graph is still watched. -/
theorem Activity.Secluded.act {held : List ObjectRef} {P : α → Prop} {a : Activity H α}
    (h : a.Secluded steady (fun h => ∀ p, g.mem p → p ∈ held ++ D.keeps h held) P) (ask : Asking H) {n : Nat}
    {w : World H} (hw : w.Watches g steady n held) :
    P (D.act ask held a w).1 ∧ (D.act ask held a w).2.Watches g steady n held ∧
      (D.act ask held a w).2.registries = w.registries := by
  induction h generalizing w with
  | done holds => exact ⟨holds, hw, rfl⟩
  | host keeps after ih => exact ih _ (keeps _ hw.steady) (hw.congr (keeps _ hw.steady) rfl rfl)
  | create lasts keeps after ih =>
    refine ih _ ⟨keeps _ _ hw.steady, hw.held, fun o ho => ?_, hw.registry⟩
    refine List.mem_cons_of_mem _ (List.mem_filter.2 ⟨hw.alive o ho, ?_⟩)
    simpa using lasts _ hw.steady o ho

theorem World.graspAnswer_of_allows {n : Nat} {held : List ObjectRef} {w : World H} (hw : w.Watches g steady n held)
    {o : ObjectRef} (ho : g.mem o) {a : Answer} (ha : g.Allows X o a) : w.graspAnswer a = a := by
  cases a with
  | shape shape =>
    rw [← ha.answer_eq.2]
    exact World.graspAnswer_of_watches hw ho
  | failed f => rfl
  | panicked text => rfl

namespace Host.StillBut

/-- To ask an object of the graph gives an answer that is allowed, and leaves the registries
alone. -/
theorem asked (still : D.StillBut g X steady) (level : Nat) {n : Nat} {held : List ObjectRef} {o : ObjectRef}
    {w : World H} (ho : g.mem o) (hw : w.Watches g steady n held) :
    g.Allows X o (D.ask (level + 1) held o w).1 ∧ (D.ask (level + 1) held o w).2.Watches g steady n held ∧
      (D.ask (level + 1) held o w).2.registries = w.registries := by
  obtain ⟨hallows, hwatches, hregistries⟩ :=
    (still.secluded held ho).act (D.ask level) (hw.congr (v := w.note (.asked o)) hw.steady rfl rfl)
  rw [ask, World.receive, World.graspAnswer_of_allows hwatches ho hallows]
  exact ⟨hallows, hwatches.congr hwatches.steady rfl rfl, hregistries⟩

/-- A pass over the graph goes on watching it. -/
theorem keeps (still : D.StillBut g X steady) (level n : Nat) :
    (World.surroundings (D.ask (level + 1)) n).Keeps (World.Watches g steady n) where
  fewer hfewer h := ⟨h.steady, fun o ho => h.held o (hfewer o ho), h.alive, h.registry⟩
  tag _ h := h.congr h.steady rfl (World.length_registries_tag _ n _)
  ask ho h := (still.asked level (h.held _ ho) h).2.1
  shape ho h hshape := by
    obtain ⟨hallows, hwatches, -⟩ := still.asked level (h.held _ ho) h
    rw [show (D.ask (level + 1) _ _ _).1 = _ from hshape] at hallows
    exact hwatches.more (g.closed (h.held _ ho) hallows.answer_eq.2)

theorem follows (still : D.StillBut g X steady) (level n : Nat) :
    (World.surroundings (D.ask (level + 1)) n).Follows (World.Watches g steady n) g X fun w => w.registry n where
  tag {held o id w v} _ hw htag := by
    obtain ⟨rfl, rfl⟩ : (w.tag n o).1 = id ∧ (w.tag n o).2 = v := Prod.mk.inj htag
    exact Prod.ext rfl ((World.registry_tag hw.registry o n).trans (if_pos rfl)).symm
  ask {held o answer w v} ho hw hask := by
    obtain ⟨hallows, -, hregistries⟩ := still.asked level (hw.held o ho) hw
    rw [show D.ask (level + 1) held o w = (answer, v) from hask] at hallows hregistries
    exact ⟨hallows, World.registry_congr hregistries n⟩

end Host.StillBut

/-- **How an object fails never shows elsewhere.** Two hosts have the same objects, which stand
still but for those of `X`: these always fail, in each host, at each time and each in any
way. Then passes over the same values, in worlds whose registries are the same, render the
same but for failures where an object of `X` stands, and leave the same registry behind. If
there is no such failure, they render the same. -/
theorem Host.failures_contained (D : Host H) (D' : Host H') (g : Graph) (X : ObjectRef → Prop) (steady : H → Prop)
    (steady' : H' → Prop) (still : D.StillBut g X steady) (still' : D'.StillBut g X steady') (level level' : Nat)
    (w : World H) (w' : World H') (held held' : List ObjectRef) (s s' n n' : Nat) (hs : w.registryOf? s = some n)
    (hs' : w'.registryOf? s' = some n') (hw : w.Watches g steady n held) (hw' : w'.Watches g steady' n' held')
    (hregistry : w.registry n = w'.registry n') (vs : List Value) (hvs : ∀ o ∈ Value.objects vs, g.mem o) :
    let run := w.capture (D.ask (level + 1)) held s vs
    let run' := w'.capture (D'.ask (level' + 1)) held' s' vs
    SameBut (g.Stands X vs) [] 0 run.1 run'.1 ∧ run.2.registry n = run'.2.registry n' ∧
      ((∀ m ∈ document run.1, ∀ f, m.value = .failed f → ¬ g.Stands X vs m.place) → run.1 = run'.1) := by
  intro run run'
  have hgrasp : vs.map w.grasp = vs := World.map_grasp_of_objects fun o ho => hw.alive o (hvs o ho)
  have hgrasp' : vs.map w'.grasp = vs := World.map_grasp_of_objects fun o ho => hw'.alive o (hvs o ho)
  have hrenders := (Pass.renders_renderAll (still.keeps level n) held vs ⟨w, []⟩ (hw.more hvs)).1
  have hrenders' := (Pass.renders_renderAll (still'.keeps level' n') held' vs ⟨w', []⟩ (hw'.more hvs)).1
  have hlists : g.Lists vs vs [] 0 := fun i v hv => by simp [Graph.at?, hv, Graph.follow]
  obtain ⟨hsame, hend⟩ := hrenders.sameBut (still.keeps level n) (still'.keeps level' n') (still.follows level n)
    (still'.follows level' n') hrenders' ⟨hregistry, rfl⟩ hlists
  simp only [run, run', World.capture_of_registry hs, World.capture_of_registry hs', hgrasp, hgrasp']
  exact ⟨hsame, hend.registry, hsame.eq_of_not_free⟩

/-! ### A cell in trouble -/

/-- The cells, kept alive by a host in which the second one is in trouble. -/
def troubledCells (trouble : Activity Unit Answer) : Host Unit where
  describe _ o := if o = cell 1 then trouble else .done (cells.answer o)
  keeps _ _ := [cell 0, cell 1]

/-- An error. -/
def lost : Activity Unit Answer :=
  .done (.failed ⟨"io", "gone"⟩)

/-- A panic, after the birth of an object. -/
def upset : Activity Unit Answer :=
  .create "Draft" 7 (fun _ h => h) fun _ => .done (.panicked none)

/-- But for the second cell, the cells stand still, if its trouble ends in a failure and would
not harm what lasts. -/
theorem troubledCells_stillBut {trouble : Activity Unit Answer} (h : ∀ lasting : Unit → Prop, lasting () →
      trouble.Secluded (fun _ => True) lasting (cells.Allows (· = cell 1) (cell 1))) :
    (troubledCells trouble).StillBut cells (· = cell 1) fun _ => True := by
  refine ⟨fun held o ho => ?_⟩
  by_cases hcell : o = cell 1
  · subst hcell
    refine h _ fun p hp => List.mem_append_right _ ?_
    rcases hp with rfl | rfl <;> simp [troubledCells]
  · simp only [troubledCells, if_neg hcell]
    exact .done ⟨fun htrouble => absurd htrouble hcell, fun _ => rfl⟩

/-- Whether the second cell is lost or upset does not matter to the first one. -/
theorem troubledCells_contained :
    let vs := [.object (cell 0), .object (cell 1)]
    let run := cellsWorld.capture ((troubledCells lost).ask 1) [] 0 vs
    let run' := cellsWorld.capture ((troubledCells upset).ask 1) [] 0 vs
    run.1 = [.object 1 "Cell" (.record [("other", .failed ⟨"io", "gone"⟩)]), .failed ⟨"io", "gone"⟩] ∧
      run'.1 = [.object 1 "Cell" (.record [("other", .failed (.ofPanic none))]), .failed (.ofPanic none)] ∧
      SameBut (cells.Stands (· = cell 1) vs) [] 0 run.1 run'.1 ∧ run.2.registry 0 = run'.2.registry 0 := by
  intro vs run run'
  have hfails : ∀ {a : Answer} {f : Failure}, a.failure? = some f → cells.Allows (· = cell 1) (cell 1) a :=
    fun ha => ⟨fun _ => ⟨_, ha⟩, fun h => absurd rfl h⟩
  have hlost : (troubledCells lost).StillBut cells (· = cell 1) fun _ => True :=
    troubledCells_stillBut fun _ _ => .done (hfails rfl)
  have hupset : (troubledCells upset).StillBut cells (· = cell 1) fun _ => True :=
    troubledCells_stillBut fun _ hlasting =>
      .create (fun _ _ => hlasting) (fun _ _ _ => trivial) fun _ => .done (hfails rfl)
  have hwatches := @cells_watched cellsWorld [] nofun (by decide) (by decide) (by decide)
  have hmem : ∀ o ∈ Value.objects vs, cells.mem o := fun o ho => by simpa [cells, vs] using ho
  obtain ⟨hsame, hregistry, -⟩ := Host.failures_contained _ _ cells (· = cell 1) _ _ hlost hupset 0 0 cellsWorld
    cellsWorld [] [] 0 0 0 0 rfl rfl hwatches hwatches rfl vs hmem
  exact ⟨rfl, rfl, hsame, hregistry⟩

end CallChain
