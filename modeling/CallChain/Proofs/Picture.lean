/-
# What the output of a pass depicts

The output of a pass, without the pass: given which object has which identity
(`named`) and what the objects answered (`answered`), each node fits a value of the
host, at its level and after the identities seen before it (`Fits`), and the children
of an object fit the children in its answer, in the order of the document
(`Depicts`).

Whatever rendered by the rules also depicts what was rendered, if the surroundings
keep a record of the names they give and of the answers (`Surroundings.Reports`).

Key definitions: `Rendered.Fits`, `Rendered.Depicts`, `Surroundings.Reports`.
Key theorems: `Pass.Renders.depicts`, `Rendered.Depicts.along`.
-/
import CallChain.Proofs.Document
import CallChain.Proofs.PassRules

namespace CallChain

variable {σ ι : Type}

namespace Rendered

/-- A node at a level fits a value of the host, after the identities `seen`; the last
list are the values that its children have to depict. -/
inductive Fits (named : ObjectRef → ι → Prop) (answered : ObjectRef → Answer → Prop) (level : Nat)
    (seen : List ι) : Value → Rendered ι → List Value → Prop
  | scalar (s : Scalar) : Fits named answered level seen (.scalar s) (.scalar s) []
  | reference {o : ObjectRef} {id : ι} (name : named o id) (old : id ∈ seen) :
      Fits named answered level seen (.object o) (.reference id) []
  | tooDeep {o : ObjectRef} {id : ι} (deep : level = maxDepth) (name : named o id) (new : id ∉ seen) :
      Fits named answered level seen (.object o) (.failed (CallChain.tooDeep o)) []
  | failed {o : ObjectRef} {id : ι} {answer : Answer} {f : Failure} (shallow : level < maxDepth)
      (name : named o id) (new : id ∉ seen) (reply : answered o answer)
      (failure : answer.failure? = some f) :
      Fits named answered level seen (.object o) (.failed f) []
  | object {o : ObjectRef} {id : ι} {shape : Shape Value} {body : Shape (Rendered ι)}
      (shallow : level < maxDepth) (name : named o id) (new : id ∉ seen)
      (reply : answered o (.shape shape)) (outline : body.outline = shape.outline) :
      Fits named answered level seen (.object o) (.object id o.typeName body) shape.children

/-- Rendered values depict values of the host, one by one. The lists of identities
are those seen before and after. -/
inductive Depicts (named : ObjectRef → ι → Prop) (answered : ObjectRef → Answer → Prop) :
    Nat → List ι → List Value → List (Rendered ι) → List ι → Prop
  | nil (level : Nat) (seen : List ι) : Depicts named answered level seen [] [] seen
  | cons {level : Nat} {seen between after : List ι} {v : Value} {r : Rendered ι}
      {kids vs : List Value} {rs : List (Rendered ι)} (head : Fits named answered level seen v r kids)
      (inside : Depicts named answered (level + 1) (r.opens?.toList ++ seen) kids r.children between)
      (rest : Depicts named answered level between vs rs after) :
      Depicts named answered level seen (v :: vs) (r :: rs) after

variable {named named' : ObjectRef → ι → Prop} {answered answered' : ObjectRef → Answer → Prop}

theorem Fits.mono (hn : ∀ o id, named o id → named' o id) (ha : ∀ o a, answered o a → answered' o a)
    {level : Nat} {seen : List ι} {v : Value} {r : Rendered ι} {kids : List Value}
    (h : Fits named answered level seen v r kids) : Fits named' answered' level seen v r kids := by
  cases h with
  | scalar s => exact .scalar s
  | reference name old => exact .reference (hn _ _ name) old
  | tooDeep deep name new => exact .tooDeep deep (hn _ _ name) new
  | failed shallow name new reply failure => exact .failed shallow (hn _ _ name) new (ha _ _ reply) failure
  | object shallow name new reply outline => exact .object shallow (hn _ _ name) new (ha _ _ reply) outline

theorem Depicts.mono (hn : ∀ o id, named o id → named' o id) (ha : ∀ o a, answered o a → answered' o a)
    {level : Nat} {seen after : List ι} {vs : List Value} {rs : List (Rendered ι)}
    (h : Depicts named answered level seen vs rs after) :
    Depicts named' answered' level seen vs rs after := by
  induction h with
  | nil level seen => exact .nil level seen
  | cons head _ _ ihinside ihrest => exact .cons (head.mono hn ha) ihinside ihrest

theorem Depicts.append {level : Nat} {seen between after : List ι} {vs ws : List Value}
    {rs qs : List (Rendered ι)} (h : Depicts named answered level seen vs rs between)
    (h' : Depicts named answered level between ws qs after) :
    Depicts named answered level seen (vs ++ ws) (rs ++ qs) after := by
  induction h with
  | nil => exact h'
  | cons head inside _ _ ih => exact .cons head inside (ih h')

theorem Depicts.length_eq {level : Nat} {seen after : List ι} {vs : List Value} {rs : List (Rendered ι)}
    (h : Depicts named answered level seen vs rs after) : rs.length = vs.length := by
  induction h with
  | nil => rfl
  | cons _ _ _ _ ih => rw [List.length_cons, List.length_cons, ih]

/-- Node by node: if `source` tells which values of the host belong to a place, each
node of the document fits one of them at its level, after what opened before. -/
theorem Depicts.along (source : List Nat → Value → Prop)
    (hsource : ∀ {place : List Nat} {v : Value} {level : Nat} {seen : List ι} {r : Rendered ι}
      {kids : List Value} {k : Nat} {c : Value}, source place v → Fits named answered level seen v r kids →
      kids[k]? = some c → source (place ++ [k]) c)
    {level : Nat} {seen after : List ι} {vs : List Value} {rs : List (Rendered ι)}
    (h : Depicts named answered level seen vs rs after) :
    ∀ (place : List Nat) (k : Nat), place.length = level →
      (∀ (i : Nat) (v : Value), vs[i]? = some v → source (place ++ [k + i]) v) →
      after = (openedIn (nodesOfItems place k rs)).reverse ++ seen ∧
        Along (fun seen n => ∃ v kids, source n.place v ∧ Fits named answered n.level seen v n.value kids)
          seen (nodesOfItems place k rs) := by
  induction h with
  | nil level seen =>
    intro place k _ _
    exact ⟨rfl, trivial⟩
  | @cons level seen between after v r kids vs rs head inside rest ihinside ihrest =>
    intro place k hlevel hvs
    have hv : source (place ++ [k]) v := hvs 0 v rfl
    obtain ⟨hbetween, hinside⟩ := ihinside (place ++ [k]) 0 (by simp [hlevel])
      (fun i c hc => by rw [Nat.zero_add]; exact hsource hv head hc)
    obtain ⟨hafter, hrest⟩ := ihrest place (k + 1) hlevel (fun i c hc => by
      have := hvs (i + 1) c (by simpa using hc)
      rwa [show k + (i + 1) = k + 1 + i by omega] at this)
    have hopened : openedIn (nodesOfItems place k (r :: rs)) = r.opens?.toList ++
        (openedIn (nodesOfItems (place ++ [k]) 0 r.children) ++
          openedIn (nodesOfItems place (k + 1) rs)) := by
      simp only [nodesOfItems, nodes_eq, openedIn, List.filterMap_append, List.cons_append,
        List.filterMap_cons]
      cases r.opens? <;> rfl
    refine ⟨?_, ?_⟩
    · rw [hafter, hbetween, hopened]
      cases r.opens? <;> simp
    · rw [nodesOfItems, nodes_eq, List.cons_append]
      refine ⟨⟨v, kids, hv, ?_⟩, along_append.2 ⟨hinside, ?_⟩⟩
      · simpa [Node.level, hlevel] using head
      · rw [← hbetween]
        exact hrest

end Rendered

/-! ### Passes depict what they render -/

/-- What is on record of one state is on record of the other. -/
def Later (named : σ → ObjectRef → ι → Prop) (answered : σ → ObjectRef → Answer → Prop) (s t : σ) : Prop :=
  (∀ o id, named s o id → named t o id) ∧ ∀ o answer, answered s o answer → answered t o answer

/-- The surroundings keep a record: `named` and `answered` tell for a state what has
been named and answered up to it, and nothing of that is lost. -/
structure Surroundings.Reports (env : Surroundings σ ι) (Good : List ObjectRef → σ → Prop)
    (named : σ → ObjectRef → ι → Prop) (answered : σ → ObjectRef → Answer → Prop) : Prop where
  tag : ∀ {held : List ObjectRef} {o : ObjectRef} {id : ι} {s t : σ}, o ∈ held → Good held s →
    env.tag o s = (id, t) → named t o id ∧ Later named answered s t
  ask : ∀ {held : List ObjectRef} {o : ObjectRef} {answer : Answer} {s t : σ}, o ∈ held → Good held s →
    env.ask held o s = (answer, t) → answered t o answer ∧ Later named answered s t

variable {env : Surroundings σ ι} {Good : List ObjectRef → σ → Prop}
  {named : σ → ObjectRef → ι → Prop} {answered : σ → ObjectRef → Answer → Prop}

theorem Later.trans {s t u : σ} (h : Later named answered s t) (h' : Later named answered t u) :
    Later named answered s u :=
  ⟨fun o id hs => h'.1 o id (h.1 o id hs), fun o a hs => h'.2 o a (h.2 o a hs)⟩

theorem Rendered.Depicts.later {s t : σ} (hl : Later named answered s t) {level : Nat} {seen after : List ι}
    {vs : List Value} {rs : List (Rendered ι)}
    (h : Rendered.Depicts (named s) (answered s) level seen vs rs after) :
    Rendered.Depicts (named t) (answered t) level seen vs rs after :=
  h.mono hl.1 hl.2

namespace Pass

open Rendered

/-- What is rendered by the rules depicts what was rendered, by the names and the
answers on record at the end. The record only grows on the way. -/
theorem Renders.depicts (hk : env.Keeps Good) (hr : env.Reports Good named answered) {room : Nat}
    {vs : List Value} {p q : Pass σ ι} {rs : List (Rendered ι)} (h : Renders env Good room vs p rs q) :
    Later named answered p.state q.state ∧ ∀ level, level + room = maxDepth →
      Depicts (named q.state) (answered q.state) level p.opened vs rs q.opened := by
  induction h with
  | nil room p => exact ⟨⟨fun _ _ h => h, fun _ _ h => h⟩, fun level _ => .nil level _⟩
  | scalar rest ih =>
    exact ⟨ih.1, fun level hlevel => .cons (.scalar _) (.nil _ _) (ih.2 level hlevel)⟩
  | reference good mem tag old rest ih =>
    obtain ⟨hname, htagged⟩ := hr.tag mem good tag
    refine ⟨htagged.trans ih.1, fun level hlevel => ?_⟩
    exact .cons (.reference (ih.1.1 _ _ hname) old) (.nil _ _) (ih.2 level hlevel)
  | tooDeep good mem tag new rest ih =>
    obtain ⟨hname, htagged⟩ := hr.tag mem good tag
    refine ⟨htagged.trans ih.1, fun level hlevel => ?_⟩
    exact .cons (.tooDeep hlevel (ih.1.1 _ _ hname) new) (.nil _ _) (ih.2 level hlevel)
  | failed good mem tag new ask failure rest ih =>
    obtain ⟨hname, htagged⟩ := hr.tag mem good tag
    have hgood := hk.of_tag mem good tag
    obtain ⟨hreply, hasked⟩ := hr.ask mem hgood ask
    have hname' := ih.1.1 _ _ (hasked.1 _ _ hname)
    refine ⟨(htagged.trans hasked).trans ih.1, fun level hlevel => ?_⟩
    exact .cons (.failed (by omega) hname' new (ih.1.2 _ _ hreply) failure) (.nil _ _) (ih.2 level hlevel)
  | object good mem tag new ask outline inside rest ihinside ihrest =>
    obtain ⟨hname, htagged⟩ := hr.tag mem good tag
    have hgood := hk.of_tag mem good tag
    obtain ⟨hreply, hasked⟩ := hr.ask mem hgood ask
    have hend := ihinside.1.trans ihrest.1
    have hname' := hend.1 _ _ (hasked.1 _ _ hname)
    refine ⟨(htagged.trans hasked).trans hend, fun level hlevel => ?_⟩
    exact .cons (.object (by omega) hname' new (hend.2 _ _ hreply) outline)
      ((ihinside.2 (level + 1) (by omega)).later ihrest.1) (ihrest.2 level hlevel)

/-- The output of a pass depicts the values it was given. -/
theorem depicts_renderAll [DecidableEq ι] (hk : env.Keeps Good) (hr : env.Reports Good named answered)
    (held : List ObjectRef) (vs : List Value) (p : Pass σ ι)
    (hgood : Good (held ++ Value.objects vs) p.state) :
    Depicts (named (renderAll env held vs p).2.state) (answered (renderAll env held vs p).2.state) 0
      p.opened vs (renderAll env held vs p).1 (renderAll env held vs p).2.opened :=
  ((renders_renderAll hk held vs p hgood).1.depicts hk hr).2 0 (Nat.zero_add _)

end Pass
end CallChain
