/-
# Graphs and their pictures

A part of a host that stands still is a graph: objects that show only each other, each
of which gives one answer whenever it is asked. It may be cyclic. A picture of it is a
finite document; there the walk along child positions jumps from a reference to the
object that the reference points at, and so it can go on as long as the walk in the
graph does.

The two walks keep step. Each node of a picture depicts the value that the graph has at
the node's place (`Graph.at?`), and a jump goes to a node that depicts the same object,
because an identity is the name of one object only.

Key definitions: `Graph`, `Graph.follow`, `Rendered.Node.follow`, `Graph.Shows`.
Key theorems: `Graph.Pictures.shows_target`, `Graph.Pictures.follow_document`,
`Graph.Pictures.depth_of_failed`.
-/
import CallChain.Proofs.References

namespace CallChain

variable {ι : Type}

/-! ### Walks in a graph -/

/-- Objects and what they answer. They show only each other, and lie apart. -/
structure Graph where
  mem : ObjectRef → Prop
  answer : ObjectRef → Answer
  closed : ∀ {o : ObjectRef} {shape : Shape Value}, mem o → answer o = .shape shape →
    ∀ p ∈ Value.objects shape.children, mem p
  apart : ∀ {o p : ObjectRef}, mem o → mem p → o.address = p.address → o = p

namespace Graph

variable (g : Graph)

/-- The child of a value at a position. -/
def child? (v : Value) (k : Nat) : Option Value :=
  match v with
  | .scalar _ => none
  | .object o =>
    match g.answer o with
    | .shape shape => shape.children[k]?
    | _ => none

/-- The value at the end of a path of child positions. -/
def follow (v : Value) : List Nat → Option Value
  | [] => some v
  | k :: path => (g.child? v k).bind fun c => follow c path

/-- The value at a place below some values. -/
def at? (vs : List Value) : List Nat → Option Value
  | [] => none
  | i :: path => vs[i]?.bind fun v => g.follow v path

/-- A value of the graph: its objects are scalars or objects of the graph. -/
def Has (v : Value) : Prop :=
  ∀ o, v = .object o → g.mem o

variable {g}

theorem has_of_child? {v c : Value} {k : Nat} (hv : g.Has v) (hc : g.child? v k = some c) : g.Has c := by
  rintro p rfl
  unfold child? at hc
  split at hc
  · cases hc
  · rename_i o
    split at hc
    · rename_i shape hshape
      exact g.closed (hv o rfl) hshape p (Value.mem_objects.2 (List.mem_of_getElem? hc))
    · cases hc

theorem follow_concat {v : Value} {k : Nat} : ∀ path : List Nat,
    g.follow v (path ++ [k]) = (g.follow v path).bind fun x => g.child? x k
  | [] => by
    simp only [follow, List.nil_append, Option.bind_some]
    cases g.child? v k <;> rfl
  | i :: path => by
    simp only [follow, List.cons_append]
    cases hc : g.child? v i with
    | none => rfl
    | some c => simpa using follow_concat path (v := c)

theorem has_follow : ∀ {path : List Nat} {v x : Value}, g.Has v → g.follow v path = some x → g.Has x
  | [], v, x, hv, hx => by
    obtain rfl : v = x := Option.some.inj hx
    exact hv
  | k :: path, v, x, hv, hx => by
    obtain ⟨c, hc, hx⟩ := Option.bind_eq_some_iff.1 hx
    exact has_follow (has_of_child? hv hc) hx

theorem has_at? {vs : List Value} (hvs : ∀ o ∈ Value.objects vs, g.mem o) {place : List Nat} {x : Value}
    (hx : g.at? vs place = some x) : g.Has x := by
  cases place with
  | nil => cases hx
  | cons i path =>
    obtain ⟨v, hv, hx⟩ := Option.bind_eq_some_iff.1 hx
    refine has_follow (fun o ho => hvs o ?_) hx
    exact Value.mem_objects.2 (ho ▸ List.mem_of_getElem? hv)

theorem at?_concat {vs : List Value} {place : List Nat} {v : Value} (k : Nat)
    (hv : g.at? vs place = some v) : g.at? vs (place ++ [k]) = g.child? v k := by
  cases place with
  | nil => cases hv
  | cons i path =>
    obtain ⟨u, hu, hv⟩ := Option.bind_eq_some_iff.1 hv
    simp only [at?, List.cons_append, hu, Option.bind_some, follow_concat, hv]

end Graph

/-! ### Walks in a document -/

namespace Rendered

variable [DecidableEq ι]

/-- The object that a node stands for: the one it points at, if it is a reference. -/
def Node.target? (rs : List (Rendered ι)) (n : Node ι) : Option (Node ι) :=
  match n.value with
  | .reference id => (document rs).find? (·.value.opens? = some id)
  | _ => some n

/-- The child at a position of the object that a node stands for. -/
def Node.child? (rs : List (Rendered ι)) (n : Node ι) (k : Nat) : Option (Node ι) :=
  (n.target? rs).bind fun m => m.value.children[k]?.map fun c => ⟨m.place ++ [k], c⟩

/-- The node at the end of a path of child positions. -/
def Node.follow (rs : List (Rendered ι)) (n : Node ι) : List Nat → Option (Node ι)
  | [] => some n
  | k :: path => (n.child? rs k).bind fun m => follow rs m path

end Rendered

open Rendered

/-! ### The walks keep step -/

namespace Graph

/-- A rendered value shows a value of a graph: a scalar as it is, an object with its
identity, its type and the outline of its shape, or as the failure that it answered. -/
inductive Shows (g : Graph) (named : ObjectRef → ι → Prop) : Value → Rendered ι → Prop
  | scalar (s : Scalar) : Shows g named (.scalar s) (.scalar s)
  | object {o : ObjectRef} {id : ι} {shape : Shape Value} {body : Shape (Rendered ι)} (name : named o id)
      (reply : g.answer o = .shape shape) (outline : body.outline = shape.outline) :
      Shows g named (.object o) (.object id o.typeName body)
  | failed {o : ObjectRef} {f : Failure} (failure : (g.answer o).failure? = some f) :
      Shows g named (.object o) (.failed f)

/-- A walk in a document stops at an object that was nested too deeply. -/
def Stops (v : Value) (n : Node ι) : Prop :=
  n.level = maxDepth ∧ ∃ o, v = .object o ∧ n.value = .failed (tooDeep o)

/-- Rendered values are a picture of values of a graph, by names that no two of its
objects share. -/
structure Pictures (g : Graph) (named : ObjectRef → ι → Prop) (vs : List Value) (rs : List (Rendered ι)) :
    Prop where
  mem : ∀ o ∈ Value.objects vs, g.mem o
  names : ∀ {o p : ObjectRef} {id : ι}, g.mem o → g.mem p → named o id → named p id → o = p
  depicts : ∃ after, Depicts named (fun o a => a = g.answer o) 0 [] vs rs after

namespace Pictures

variable {g : Graph} {named : ObjectRef → ι → Prop} {vs : List Value} {rs : List (Rendered ι)}

/-- Each node of a picture fits the value that the graph has at its place. -/
theorem along_at? (h : g.Pictures named vs rs) :
    Along (fun seen n => ∃ v kids, g.at? vs n.place = some v ∧
      Fits named (fun o a => a = g.answer o) n.level seen v n.value kids) [] (document rs) := by
  obtain ⟨after, hdepicts⟩ := h.depicts
  refine (hdepicts.along (fun place v => g.at? vs place = some v) ?_ [] 0 rfl (fun i v hv => ?_)).2
  · intro place v level seen r kids k c hv hfits hc
    rw [at?_concat k hv]
    cases hfits with
    | object shallow name new reply outline => simp only [child?, ← reply, hc]
    | _ => cases hc
  · simp [at?, hv, follow]

theorem fits_at? (h : g.Pictures named vs rs) {n : Node ι} (hn : n ∈ document rs) :
    ∃ seen v kids, g.at? vs n.place = some v ∧
      Fits named (fun o a => a = g.answer o) n.level seen v n.value kids := by
  obtain ⟨before, rest, hsplit⟩ := List.append_of_mem hn
  obtain ⟨v, kids, hfits⟩ := h.along_at?.of_split hsplit
  exact ⟨_, v, kids, hfits⟩

variable [DecidableEq ι]

/-- A node depicts what the node depicts that it stands for, and only a reference
stands for another node. -/
theorem exists_target (h : g.Pictures named vs rs) {n : Node ι} (hn : n ∈ document rs) {v : Value}
    (hv : g.at? vs n.place = some v) :
    ∃ t ∈ document rs, n.target? rs = some t ∧ g.at? vs t.place = some v ∧
      (t = n ∨ ∃ id, t.value.opens? = some id) ∧ ∀ id, t.value ≠ .reference id := by
  by_cases hreference : ∃ id, n.value = .reference id
  · obtain ⟨id, hid⟩ := hreference
    obtain ⟨after, hdepicts⟩ := h.depicts
    obtain ⟨before, rest, hsplit⟩ := List.append_of_mem hn
    obtain ⟨m, hm, hopens⟩ := hdepicts.resolved.earlier before rest n.place id
      (by rw [hsplit, ← hid])
    cases hfound : (document rs).find? (·.value.opens? = some id) with
    | none =>
      have hno := List.find?_eq_none.1 hfound m (hsplit ▸ List.mem_append_left _ hm)
      exact absurd (by simpa using hopens) hno
    | some t =>
      have ht := List.mem_of_find?_eq_some hfound
      have htopens : t.value.opens? = some id := by simpa using List.find?_some hfound
      refine ⟨t, ht, by simp only [Node.target?, hid, hfound], ?_, .inr ⟨id, htopens⟩, fun id' heq => ?_⟩
      · -- both nodes carry the identity, so they depict one object
        obtain ⟨_, u, _, hu, hufits⟩ := h.fits_at? ht
        obtain ⟨_, v', _, hv', hvfits⟩ := h.fits_at? hn
        obtain rfl : v' = v := Option.some.inj (hv'.symm.trans hv)
        generalize t.value = r at htopens hufits
        rw [hid] at hvfits
        cases hvfits with
        | reference name old =>
          cases hufits with
          | object shallow name' new reply outline =>
            cases htopens
            rw [hu, h.names (has_at? h.mem hu _ rfl) (has_at? h.mem hv _ rfl) name' name]
          | _ => cases htopens
      · rw [heq] at htopens
        cases htopens
  · refine ⟨n, hn, ?_, hv, .inl rfl, fun id heq => hreference ⟨id, heq⟩⟩
    unfold Node.target?
    split
    · rename_i id hid
      exact absurd ⟨id, hid⟩ hreference
    · rfl

/-- The node where a walk ends shows the value that it depicts, unless it is a stop. -/
theorem shows_target (h : g.Pictures named vs rs) {n : Node ι} (hn : n ∈ document rs) {v : Value}
    (hv : g.at? vs n.place = some v) :
    Stops v n ∨ ∃ t, n.target? rs = some t ∧ g.Shows named v t.value := by
  obtain ⟨t, ht, htarget, htv, hsame, hno⟩ := h.exists_target hn hv
  obtain ⟨seen, v', kids, hv', hfits⟩ := h.fits_at? ht
  obtain rfl : v' = v := Option.some.inj (hv'.symm.trans htv)
  generalize hr : t.value = r at hfits hno
  cases hfits with
  | scalar s => exact .inr ⟨t, htarget, hr ▸ .scalar s⟩
  | reference name old => exact absurd rfl (hno _)
  | tooDeep deep name new =>
    rcases hsame with rfl | ⟨id, hid⟩
    · exact .inl ⟨deep, _, rfl, hr⟩
    · rw [hr] at hid
      cases hid
  | failed shallow name new reply failure => exact .inr ⟨t, htarget, hr ▸ .failed (reply ▸ failure)⟩
  | object shallow name new reply outline => exact .inr ⟨t, htarget, hr ▸ .object name reply.symm outline⟩

/-- A step in the graph can be taken in the document as well, unless that is at a stop. -/
theorem child_document (h : g.Pictures named vs rs) {n : Node ι} (hn : n ∈ document rs) {v c : Value}
    {k : Nat} (hv : g.at? vs n.place = some v) (hc : g.child? v k = some c) :
    Stops v n ∨ ∃ m ∈ document rs, n.child? rs k = some m ∧ g.at? vs m.place = some c := by
  obtain ⟨t, ht, htarget, htv, -, -⟩ := h.exists_target hn hv
  rcases h.shows_target hn hv with hstop | ⟨t', htarget', hshows⟩
  · exact .inl hstop
  · obtain rfl : t = t' := Option.some.inj (htarget.symm.trans htarget')
    refine .inr ?_
    generalize hr : t.value = r at hshows
    cases hshows with
    | scalar s => cases hc
    | failed failure =>
      simp only [child?] at hc
      split at hc
      · rename_i shape hshape
        rw [hshape] at failure
        cases failure
      · cases hc
    | object name reply outline =>
      rename_i o id shape body
      have hshape : shape.children[k]? = some c := by simpa only [child?, reply] using hc
      have hk : k < body.children.length := by
        rw [Shape.length_children_of_outline outline]
        exact (List.getElem?_eq_some_iff.1 hshape).1
      have hbody : t.value.children[k]? = some body.children[k] := by
        rw [hr]
        exact List.getElem?_eq_getElem hk
      refine ⟨⟨t.place ++ [k], body.children[k]⟩, mem_nodesOfItems_child hbody ht, ?_, ?_⟩
      · simp only [Node.child?, htarget, Option.bind_some, hbody, Option.map_some]
      · rw [at?_concat k htv, hc]

/-- **The walks keep step.** As far as the walk in the graph goes, the walk in the
document goes, too, and its end shows the value at the other end, unless it comes to a
stop on the way. -/
theorem follow_document (h : g.Pictures named vs rs) : ∀ {path : List Nat} {n : Node ι} {v x : Value},
    n ∈ document rs → g.at? vs n.place = some v → g.follow v path = some x →
    (∃ before rest y m, path = before ++ rest ∧ g.follow v before = some y ∧ n.follow rs before = some m ∧
        Stops y m) ∨
      ∃ m t, n.follow rs path = some m ∧ m.target? rs = some t ∧ g.Shows named x t.value
  | [], n, v, x, hn, hv, hx => by
    obtain rfl : v = x := Option.some.inj hx
    rcases h.shows_target hn hv with hstop | ⟨t, htarget, hshows⟩
    · exact .inl ⟨[], [], v, n, rfl, rfl, rfl, hstop⟩
    · exact .inr ⟨n, t, rfl, htarget, hshows⟩
  | k :: path, n, v, x, hn, hv, hx => by
    obtain ⟨c, hc, hx⟩ := Option.bind_eq_some_iff.1 hx
    rcases h.child_document hn hv hc with hstop | ⟨m, hm, hchild, hmc⟩
    · exact .inl ⟨[], k :: path, v, n, rfl, rfl, rfl, hstop⟩
    · have hstep : ∀ rest, n.follow rs (k :: rest) = m.follow rs rest := fun rest => by
        rw [Node.follow, hchild, Option.bind_some]
      rcases h.follow_document hm hmc hx with ⟨before, rest, y, e, rfl, hy, he, hstop⟩ | ⟨e, t, he, ht⟩
      · refine .inl ⟨k :: before, rest, y, e, rfl, ?_, (hstep before).trans he, hstop⟩
        rw [follow, hc, Option.bind_some, hy]
      · exact .inr ⟨e, t, (hstep path).trans he, ht⟩

omit [DecidableEq ι] in
/-- A failure is the object's own answer above the last level; at the last level it
stands for an object that was not opened before. -/
theorem depth_of_failed (h : g.Pictures named vs rs) {before rest : List (Node ι)} {place : List Nat}
    {f : Failure} (hsplit : document rs = before ++ ⟨place, .failed f⟩ :: rest) :
    ∃ o, g.at? vs place = some (.object o) ∧
      ((place.length - 1 < maxDepth ∧ (g.answer o).failure? = some f) ∨
        (place.length - 1 = maxDepth ∧ f = tooDeep o ∧
          ∃ id, named o id ∧ ∀ n ∈ before, n.value.opens? ≠ some id)) := by
  obtain ⟨v, kids, hv, hfits⟩ := h.along_at?.of_split hsplit
  cases hfits with
  | tooDeep deep name new =>
    refine ⟨_, hv, .inr ⟨deep, rfl, _, name, fun n hn hopens => new ?_⟩⟩
    exact List.mem_reverse.2 (mem_openedIn.2 ⟨n, hn, hopens⟩)
  | failed shallow name new reply failure => exact ⟨_, hv, .inl ⟨shallow, reply ▸ failure⟩⟩

end Pictures

end Graph

end CallChain
