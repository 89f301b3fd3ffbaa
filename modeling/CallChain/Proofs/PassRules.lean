/-
# Passes by rules

What a pass does to a list of values, as rules: one for each way in which a value
is rendered, with the values after it as the last premise. A theorem about passes is
an induction on these rules, and does not see that the items of a sequence and the
fields of a record are rendered by different loops.

A pass holds handles while it asks, so the rules speak of surroundings that are
`Good` for the handles held: with them `o` can be tagged and asked, and leaves
surroundings that are good again (`Surroundings.Keeps`).

Key definitions: `Surroundings.Keeps`, `Pass.Renders`.
Key theorems: `Pass.renders_render`, `Pass.renders_renderAll`.
-/
import CallChain.Pass

namespace CallChain

variable {σ ι : Type}

/-- To tag and to ask objects that are held keeps the surroundings good, and once an
object has shown its children they may be held as well. -/
structure Surroundings.Keeps (env : Surroundings σ ι) (Good : List ObjectRef → σ → Prop) : Prop where
  fewer : ∀ {held fewer : List ObjectRef} {s : σ}, (∀ o ∈ fewer, o ∈ held) → Good held s → Good fewer s
  tag : ∀ {held : List ObjectRef} {o : ObjectRef} {s : σ}, o ∈ held → Good held s →
    Good held (env.tag o s).2
  ask : ∀ {held : List ObjectRef} {o : ObjectRef} {s : σ}, o ∈ held → Good held s →
    Good held (env.ask held o s).2
  shape : ∀ {held : List ObjectRef} {o : ObjectRef} {s : σ} {shape : Shape Value}, o ∈ held →
    Good held s → (env.ask held o s).1 = .shape shape →
    Good (held ++ Value.objects shape.children) (env.ask held o s).2

theorem Surroundings.Keeps.of_tag {env : Surroundings σ ι} {Good : List ObjectRef → σ → Prop} (hk : env.Keeps Good)
    {held : List ObjectRef} {o : ObjectRef} {id : ι} {s t : σ} (mem : o ∈ held) (good : Good held s)
    (tag : env.tag o s = (id, t)) : Good held t := by
  have hgood := hk.tag mem good
  rwa [tag] at hgood

theorem Surroundings.keeps_any (env : Surroundings σ ι) : env.Keeps fun _ _ => True :=
  ⟨fun _ _ => trivial, fun _ _ => trivial, fun _ _ => trivial, fun _ _ _ => trivial⟩

namespace Pass

/-- With room for so many nested objects, a pass renders a list of values and becomes
another pass. -/
inductive Renders (env : Surroundings σ ι) (Good : List ObjectRef → σ → Prop) :
    Nat → List Value → Pass σ ι → List (Rendered ι) → Pass σ ι → Prop
  | nil (room : Nat) (p : Pass σ ι) : Renders env Good room [] p [] p
  | scalar {room : Nat} {s : Scalar} {vs : List Value} {p q : Pass σ ι} {rs : List (Rendered ι)}
      (rest : Renders env Good room vs p rs q) :
      Renders env Good room (.scalar s :: vs) p (.scalar s :: rs) q
  | reference {room : Nat} {held : List ObjectRef} {o : ObjectRef} {id : ι} {tagged : σ}
      {vs : List Value} {p q : Pass σ ι} {rs : List (Rendered ι)}
      (good : Good held p.state) (mem : o ∈ held) (tag : env.tag o p.state = (id, tagged))
      (old : id ∈ p.opened) (rest : Renders env Good room vs ⟨tagged, p.opened⟩ rs q) :
      Renders env Good room (.object o :: vs) p (.reference id :: rs) q
  | tooDeep {held : List ObjectRef} {o : ObjectRef} {id : ι} {tagged : σ}
      {vs : List Value} {p q : Pass σ ι} {rs : List (Rendered ι)}
      (good : Good held p.state) (mem : o ∈ held) (tag : env.tag o p.state = (id, tagged))
      (new : id ∉ p.opened) (rest : Renders env Good 0 vs ⟨tagged, p.opened⟩ rs q) :
      Renders env Good 0 (.object o :: vs) p (.failed (CallChain.tooDeep o) :: rs) q
  | failed {room : Nat} {held : List ObjectRef} {o : ObjectRef} {id : ι} {tagged asked : σ}
      {answer : Answer} {f : Failure} {vs : List Value} {p q : Pass σ ι} {rs : List (Rendered ι)}
      (good : Good held p.state) (mem : o ∈ held) (tag : env.tag o p.state = (id, tagged))
      (new : id ∉ p.opened) (ask : env.ask held o tagged = (answer, asked))
      (failure : answer.failure? = some f)
      (rest : Renders env Good (room + 1) vs ⟨asked, p.opened⟩ rs q) :
      Renders env Good (room + 1) (.object o :: vs) p (.failed f :: rs) q
  | object {room : Nat} {held : List ObjectRef} {o : ObjectRef} {id : ι} {tagged asked : σ}
      {shape : Shape Value} {body : Shape (Rendered ι)} {vs : List Value} {p m q : Pass σ ι}
      {rs : List (Rendered ι)}
      (good : Good held p.state) (mem : o ∈ held) (tag : env.tag o p.state = (id, tagged))
      (new : id ∉ p.opened) (ask : env.ask held o tagged = (.shape shape, asked))
      (outline : body.outline = shape.outline)
      (inside : Renders env Good room shape.children ⟨asked, id :: p.opened⟩ body.children m)
      (rest : Renders env Good (room + 1) vs m rs q) :
      Renders env Good (room + 1) (.object o :: vs) p (.object id o.typeName body :: rs) q

variable {env : Surroundings σ ι} {Good : List ObjectRef → σ → Prop}

/-- One value, and then the rest. -/
theorem Renders.cons {room : Nat} {v : Value} {r : Rendered ι} {vs : List Value} {rs : List (Rendered ι)}
    {p m q : Pass σ ι} (first : Renders env Good room [v] p [r] m)
    (others : Renders env Good room vs m rs q) : Renders env Good room (v :: vs) p (r :: rs) q := by
  cases first with
  | scalar rest => cases rest; exact .scalar others
  | reference good mem tag old rest => cases rest; exact .reference good mem tag old others
  | tooDeep good mem tag new rest => cases rest; exact .tooDeep good mem tag new others
  | failed good mem tag new ask failure rest =>
    cases rest; exact .failed good mem tag new ask failure others
  | object good mem tag new ask outline inside rest =>
    cases rest; exact .object good mem tag new ask outline inside others

/-- As many values come out as went in. -/
theorem Renders.length_eq {room : Nat} {vs : List Value} {p q : Pass σ ι} {rs : List (Rendered ι)}
    (h : Renders env Good room vs p rs q) : rs.length = vs.length := by
  induction h with
  | nil => rfl
  | object _ _ _ _ _ _ _ _ _ ih => rw [List.length_cons, List.length_cons, ih]
  | _ => rw [List.length_cons, List.length_cons]; congr

/-! ### The loops keep to the rules

Both loops are given that each single value is rendered by the rules. A sequence
holds all its items to the end; of a record the children still to come are held, so
there the handles change from child to child. -/

theorem renders_renderItems {f : Value → Pass σ ι → Rendered ι × Pass σ ι} {room : Nat}
    {held : List ObjectRef}
    (hf : ∀ (v : Value) (p : Pass σ ι), (∀ o, v = .object o → o ∈ held) → Good held p.state →
      Renders env Good room [v] p [(f v p).1] (f v p).2 ∧ Good held (f v p).2.state) :
    ∀ {vs : List Value} {p : Pass σ ι}, (∀ o ∈ Value.objects vs, o ∈ held) → Good held p.state →
      Renders env Good room vs p (renderItems f vs p).1 (renderItems f vs p).2 ∧
        Good held (renderItems f vs p).2.state
  | [], p, _, hgood => ⟨.nil room p, hgood⟩
  | v :: vs, p, hheld, hgood => by
    obtain ⟨hv, hgood⟩ := hf v p (fun o ho => hheld o (by simp [ho])) hgood
    obtain ⟨hvs, hgood⟩ := renders_renderItems hf
      (fun o ho => hheld o (by simp only [Value.mem_objects, List.mem_cons] at ho ⊢; exact Or.inr ho)) hgood
    exact ⟨hv.cons hvs, hgood⟩

theorem renders_renderFields (hk : env.Keeps Good)
    {f : List ObjectRef → Value → Pass σ ι → Rendered ι × Pass σ ι} {room : Nat} {held : List ObjectRef}
    (hf : ∀ (more : List ObjectRef) (v : Value) (p : Pass σ ι), (∀ o, v = .object o → o ∈ more) →
      Good more p.state → Renders env Good room [v] p [(f more v p).1] (f more v p).2 ∧
        Good more (f more v p).2.state) :
    ∀ {fields : List (String × Value)} {p : Pass σ ι},
      Good (held ++ Value.objects (fields.map (·.2))) p.state →
      Renders env Good room (fields.map (·.2)) p ((renderFields f held fields p).1.map (·.2))
          (renderFields f held fields p).2 ∧
        (renderFields f held fields p).1.map (·.1) = fields.map (·.1) ∧
        Good held (renderFields f held fields p).2.state
  | [], p, hgood => ⟨.nil room p, rfl, hk.fewer (fun o ho => List.mem_append_left _ ho) hgood⟩
  | (name, v) :: fields, p, hgood => by
    obtain ⟨hv, hgood⟩ := hf (held ++ Value.objects (v :: fields.map (·.2))) v p
      (fun o ho => by simp [ho]) hgood
    have hrest : ∀ o ∈ held ++ Value.objects (fields.map (·.2)),
        o ∈ held ++ Value.objects (v :: fields.map (·.2)) := by
      intro o ho
      simp only [List.mem_append, Value.mem_objects, List.mem_cons] at ho ⊢
      exact ho.imp_right Or.inr
    obtain ⟨hvs, hnames, hgood⟩ := renders_renderFields hk hf (hk.fewer hrest hgood)
    refine ⟨hv.cons hvs, ?_, hgood⟩
    simp only [renderFields, List.map_cons, hnames]

theorem renders_renderBody (hk : env.Keeps Good)
    {f : List ObjectRef → Value → Pass σ ι → Rendered ι × Pass σ ι} {room : Nat} {held : List ObjectRef}
    (hf : ∀ (more : List ObjectRef) (v : Value) (p : Pass σ ι), (∀ o, v = .object o → o ∈ more) →
      Good more p.state → Renders env Good room [v] p [(f more v p).1] (f more v p).2 ∧
        Good more (f more v p).2.state) {shape : Shape Value} {p : Pass σ ι}
    (hgood : Good (held ++ Value.objects shape.children) p.state) :
    Renders env Good room shape.children p (renderBody f held shape p).1.children
        (renderBody f held shape p).2 ∧
      (renderBody f held shape p).1.outline = shape.outline ∧
      Good held (renderBody f held shape p).2.state := by
  cases shape with
  | record fields =>
    obtain ⟨hvs, hnames, hgood⟩ := renders_renderFields hk hf hgood
    exact ⟨hvs, congrArg Shape.record (Shape.outline_fields_iff.2 hnames), hgood⟩
  | sequence items =>
    obtain ⟨hvs, hgood⟩ := renders_renderItems (hf (held ++ Value.objects items))
      (fun o ho => List.mem_append_right _ ho) hgood
    refine ⟨hvs, congrArg Shape.sequence ?_, hk.fewer (fun o ho => List.mem_append_left _ ho) hgood⟩
    rw [List.map_const', List.map_const']
    exact congrArg (List.replicate · ()) hvs.length_eq
  | mapping entries =>
    obtain ⟨hvs, hnames, hgood⟩ := renders_renderFields hk hf hgood
    exact ⟨hvs, congrArg Shape.mapping (Shape.outline_fields_iff.2 hnames), hgood⟩

/-! ### A pass keeps to the rules -/

variable [DecidableEq ι]

/-- A value is rendered by the rules, and the surroundings stay good. -/
theorem renders_render (hk : env.Keeps Good) : ∀ (room : Nat) (held : List ObjectRef) (v : Value)
    (p : Pass σ ι), (∀ o, v = .object o → o ∈ held) → Good held p.state →
    Renders env Good room [v] p [(render env room held v p).1] (render env room held v p).2 ∧
      Good held (render env room held v p).2.state
  | room, held, .scalar s, p, _, hgood => by
    simp only [render]
    exact ⟨.scalar (.nil _ _), hgood⟩
  | 0, held, .object o, p, hheld, hgood => by
    have mem := hheld o rfl
    have htagged := hk.tag mem hgood
    simp only [render, meet]
    split
    · rename_i old
      exact ⟨.reference hgood mem rfl old (.nil _ _), htagged⟩
    · rename_i new
      exact ⟨.tooDeep hgood mem rfl new (.nil _ _), htagged⟩
  | room + 1, held, .object o, p, hheld, hgood => by
    have mem := hheld o rfl
    have htagged := hk.tag mem hgood
    simp only [render, meet]
    split
    · rename_i old
      exact ⟨.reference hgood mem rfl old (.nil _ _), htagged⟩
    · rename_i new
      have hasked := hk.ask mem htagged
      simp only [expand]
      split
      · rename_i failure h
        exact ⟨.failed hgood mem rfl new (Prod.ext h rfl) rfl (.nil _ _), hasked⟩
      · rename_i text h
        exact ⟨.failed hgood mem rfl new (Prod.ext h rfl) rfl (.nil _ _), hasked⟩
      · rename_i shape h
        obtain ⟨hbody, houtline, hgood'⟩ := renders_renderBody hk (renders_render hk room)
          (p := ⟨(env.ask held o (env.tag o p.state).2).2, (env.tag o p.state).1 :: p.opened⟩)
          (hk.shape mem htagged h)
        exact ⟨.object hgood mem rfl new (Prod.ext h rfl) houtline hbody (.nil _ _), hgood'⟩

/-- All values of a pass are rendered by the rules. -/
theorem renders_renderAll (hk : env.Keeps Good) (held : List ObjectRef) (vs : List Value) (p : Pass σ ι)
    (hgood : Good (held ++ Value.objects vs) p.state) :
    Renders env Good maxDepth vs p (renderAll env held vs p).1 (renderAll env held vs p).2 ∧
      Good (held ++ Value.objects vs) (renderAll env held vs p).2.state :=
  renders_renderItems (renders_render hk maxDepth _) (fun _ ho => List.mem_append_right _ ho) hgood

end Pass
end CallChain
