/-
# Two passes in lockstep

Two passes over the same values may run in different surroundings: the objects may lie
elsewhere, and have other identities. While both surroundings give like answers the passes
keep step: what comes out differs in the identities only, and those that stand at the same
places belong together.

Values are compared without the places of their objects. Two rendered values are alike when
they are the two views of one value whose identities are pairs, each a pair that belongs
together. So it is part of the type that like values have like identities everywhere, and
once a function leads from the second identities to the first it leads from the second
value to the first as well.

The invariant of a pass is `Pass.Abreast`. The pairs that belong together may become more as
the passes go on, so each result is carried forward to the end (`Rendered.Alike.mono`).

Key definitions: `ObjectRef.unplaced`, `Rendered.Alike`, `Surroundings.Lockstep`,
`Pass.Abreast`.
Key theorems: `Rendered.Alike.object`, `Rendered.Alike.eq_map`, `exists_renaming_of_faithful`,
`Pass.paced_render`, `Surroundings.Lockstep.run`.
-/
import CallChain.Proofs.PassRules
import Mathlib.Data.List.Forall2

namespace CallChain

variable {σ τ ι κ : Type}

/-! ### Values without the places of their objects -/

/-- An object without the place where it lies. -/
def ObjectRef.unplaced (o : ObjectRef) : ObjectRef :=
  { o with address := 0 }

theorem ObjectRef.serial_eq_of_unplaced {o p : ObjectRef} (h : o.unplaced = p.unplaced) :
    o.serial = p.serial :=
  (ObjectRef.mk.inj h).1

theorem ObjectRef.typeName_eq_of_unplaced {o p : ObjectRef} (h : o.unplaced = p.unplaced) :
    o.typeName = p.typeName :=
  (ObjectRef.mk.inj h).2.2

namespace Value

/-- A value without the places of its objects. -/
def unplaced : Value → Value
  | .scalar s => .scalar s
  | .object o => .object o.unplaced

theorem objects_unplaced : ∀ vs : List Value, objects (vs.map unplaced) = (objects vs).map ObjectRef.unplaced
  | [] => rfl
  | .scalar _ :: vs => objects_unplaced vs
  | .object o :: vs => congrArg (o.unplaced :: ·) (objects_unplaced vs)

/-- The objects of like values are alike. -/
theorem objects_unplaced_eq {vs us : List Value} (h : vs.map unplaced = us.map unplaced) :
    (objects vs).map ObjectRef.unplaced = (objects us).map ObjectRef.unplaced := by
  rw [← objects_unplaced, h, objects_unplaced]

end Value

/-- An answer without the places of the objects in it. -/
def Answer.unplaced : Answer → Answer
  | .shape s => .shape (s.map Value.unplaced)
  | .failed f => .failed f
  | .panicked text => .panicked text

theorem Shape.map_map {α β γ : Type} (g : β → γ) (f : α → β) (s : Shape α) :
    (s.map f).map g = s.map (g ∘ f) := by
  cases s <;> simp [Shape.map, Function.comp_def]

theorem Shape.outline_map {α β : Type} (f : α → β) (s : Shape α) : (s.map f).outline = s.outline :=
  s.map_map (fun _ => ()) f

theorem Shape.outline_eq_of_unplaced {s t : Shape Value} (h : s.map Value.unplaced = t.map Value.unplaced) :
    s.outline = t.outline := by
  rw [← Shape.outline_map Value.unplaced s, h, Shape.outline_map]

theorem Shape.children_eq_of_unplaced {s t : Shape Value} (h : s.map Value.unplaced = t.map Value.unplaced) :
    s.children.map Value.unplaced = t.children.map Value.unplaced := by
  rw [← Shape.children_map, h, Shape.children_map]

/-! ### Like rendered values -/

namespace Rendered

theorem mapItems_eq (f : ι → κ) : ∀ items : List (Rendered ι), mapItems f items = items.map (map f)
  | [] => rfl
  | item :: rest => congrArg (map f item :: ·) (mapItems_eq f rest)

theorem mapFields_eq (f : ι → κ) : ∀ fields : List (String × Rendered ι),
    mapFields f fields = fields.map fun field => (field.1, map f field.2)
  | [] => rfl
  | (name, value) :: rest => congrArg ((name, map f value) :: ·) (mapFields_eq f rest)

/-- The body of an object with other identities is the body with other identities. -/
theorem map_object (f : ι → κ) (id : ι) (typeName : String) (body : Shape (Rendered ι)) :
    (Rendered.object id typeName body).map f = .object (f id) typeName (body.map (map f)) := by
  cases body with
  | record fields => rw [map, mapFields_eq]; rfl
  | sequence items => rw [map, mapItems_eq]; rfl
  | mapping entries => rw [map, mapFields_eq]; rfl

mutual

theorem map_map (g : κ → τ) (f : ι → κ) : ∀ r : Rendered ι, (r.map f).map g = r.map (g ∘ f)
  | .scalar _ => rfl
  | .object id typeName (.record fields) =>
    congrArg (fun fields => Rendered.object (g (f id)) typeName (.record fields)) (mapFields_mapFields g f fields)
  | .object id typeName (.sequence items) =>
    congrArg (fun items => Rendered.object (g (f id)) typeName (.sequence items)) (mapItems_mapItems g f items)
  | .object id typeName (.mapping entries) =>
    congrArg (fun entries => Rendered.object (g (f id)) typeName (.mapping entries))
      (mapFields_mapFields g f entries)
  | .reference _ => rfl
  | .failed _ => rfl

theorem mapItems_mapItems (g : κ → τ) (f : ι → κ) :
    ∀ items : List (Rendered ι), mapItems g (mapItems f items) = mapItems (g ∘ f) items
  | [] => rfl
  | item :: rest => congrArg₂ List.cons (map_map g f item) (mapItems_mapItems g f rest)

theorem mapFields_mapFields (g : κ → τ) (f : ι → κ) :
    ∀ fields : List (String × Rendered ι), mapFields g (mapFields f fields) = mapFields (g ∘ f) fields
  | [] => rfl
  | (name, value) :: rest =>
    congrArg₂ List.cons (congrArg (Prod.mk name) (map_map g f value)) (mapFields_mapFields g f rest)

end

/-- A pair of identities that belong together. -/
abbrev Bonded (B : ι → κ → Prop) : Type :=
  { pair : ι × κ // B pair.1 pair.2 }

/-- Two rendered values are the views of one value with pairs of identities. -/
def Alike (B : ι → κ → Prop) (r : Rendered ι) (t : Rendered κ) : Prop :=
  ∃ q : Rendered (Bonded B), q.map (·.1.1) = r ∧ q.map (·.1.2) = t

namespace Alike

variable {B C : ι → κ → Prop}

theorem scalar (s : Scalar) : Alike B (.scalar s) (.scalar s) :=
  ⟨.scalar s, rfl, rfl⟩

theorem failed (f : Failure) : Alike B (.failed f) (.failed f) :=
  ⟨.failed f, rfl, rfl⟩

theorem reference {i : ι} {k : κ} (h : B i k) : Alike B (.reference i) (.reference k) :=
  ⟨.reference ⟨(i, k), h⟩, rfl, rfl⟩

theorem exists_items : ∀ {rs : List (Rendered ι)} {ts : List (Rendered κ)}, List.Forall₂ (Alike B) rs ts →
    ∃ qs : List (Rendered (Bonded B)), qs.map (map (·.1.1)) = rs ∧ qs.map (map (·.1.2)) = ts
  | [], [], .nil => ⟨[], rfl, rfl⟩
  | _ :: _, _ :: _, .cons ⟨q, hr, ht⟩ rest => by
    obtain ⟨qs, hrs, hts⟩ := exists_items rest
    exact ⟨q :: qs, congrArg₂ List.cons hr hrs, congrArg₂ List.cons ht hts⟩

theorem exists_fields : ∀ {fields : List (String × Rendered ι)} {others : List (String × Rendered κ)},
    fields.map (·.1) = others.map (·.1) → List.Forall₂ (Alike B) (fields.map (·.2)) (others.map (·.2)) →
    ∃ qs : List (String × Rendered (Bonded B)), qs.map (fun q => (q.1, q.2.map (·.1.1))) = fields ∧
      qs.map (fun q => (q.1, q.2.map (·.1.2))) = others
  | [], [], _, _ => ⟨[], rfl, rfl⟩
  | [], _ :: _, hnames, _ => by cases hnames
  | _ :: _, [], hnames, _ => by cases hnames
  | (name, r) :: fields, (other, t) :: others, hnames, hchildren => by
    obtain ⟨hname, htail⟩ := List.cons.inj hnames
    obtain ⟨⟨q, hr, ht⟩, rest⟩ := List.forall₂_cons.1 hchildren
    obtain ⟨qs, hfields, hothers⟩ := exists_fields htail rest
    obtain rfl : name = other := hname
    exact ⟨(name, q) :: qs, congrArg₂ List.cons (congrArg (Prod.mk name) hr) hfields,
      congrArg₂ List.cons (congrArg (Prod.mk name) ht) hothers⟩

theorem exists_body {s : Shape (Rendered ι)} {t : Shape (Rendered κ)} (houtline : s.outline = t.outline)
    (hchildren : List.Forall₂ (Alike B) s.children t.children) :
    ∃ q : Shape (Rendered (Bonded B)), q.map (map (·.1.1)) = s ∧ q.map (map (·.1.2)) = t := by
  have hnames : s.names = t.names := by
    rw [← Shape.names_map (fun _ => ()) s, ← Shape.names_map (fun _ => ()) t]
    exact congrArg Shape.names houtline
  cases s with
  | record fields =>
    cases t with
    | record others =>
      obtain ⟨qs, hfields, hothers⟩ := exists_fields hnames hchildren
      exact ⟨.record qs, congrArg Shape.record hfields, congrArg Shape.record hothers⟩
    | sequence _ => cases houtline
    | mapping _ => cases houtline
  | sequence items =>
    cases t with
    | record _ => cases houtline
    | sequence others =>
      obtain ⟨qs, hitems, hothers⟩ := exists_items hchildren
      exact ⟨.sequence qs, congrArg Shape.sequence hitems, congrArg Shape.sequence hothers⟩
    | mapping _ => cases houtline
  | mapping entries =>
    cases t with
    | record _ => cases houtline
    | sequence _ => cases houtline
    | mapping others =>
      obtain ⟨qs, hentries, hothers⟩ := exists_fields hnames hchildren
      exact ⟨.mapping qs, congrArg Shape.mapping hentries, congrArg Shape.mapping hothers⟩

/-- Objects are alike if their identities belong together and their children are alike. -/
theorem object {i : ι} {k : κ} (h : B i k) (typeName : String) {s : Shape (Rendered ι)} {t : Shape (Rendered κ)}
    (houtline : s.outline = t.outline) (hchildren : List.Forall₂ (Alike B) s.children t.children) :
    Alike B (.object i typeName s) (.object k typeName t) := by
  obtain ⟨q, hs, ht⟩ := exists_body houtline hchildren
  refine ⟨.object ⟨(i, k), h⟩ typeName q, ?_, ?_⟩
  · rw [map_object, hs]
  · rw [map_object, ht]

/-- What belongs together may become more. -/
theorem mono (h : ∀ i k, B i k → C i k) {r : Rendered ι} {t : Rendered κ} : Alike B r t → Alike C r t := by
  rintro ⟨q, rfl, rfl⟩
  refine ⟨q.map fun pair => ⟨pair.1, h _ _ pair.2⟩, ?_, ?_⟩ <;> rw [map_map] <;> rfl

/-- A function from the second identities to the first leads from the second value to the
first. -/
theorem eq_map {ρ : κ → ι} (h : ∀ i k, B i k → i = ρ k) {r : Rendered ι} {t : Rendered κ} :
    Alike B r t → r = t.map ρ := by
  rintro ⟨q, rfl, rfl⟩
  rw [map_map]
  have hpair : (fun pair : Bonded B => pair.1.1) = ρ ∘ fun pair => pair.1.2 :=
    funext fun pair => h _ _ pair.2
  exact congrArg (fun f => q.map f) hpair

/-- The two values may change places. -/
theorem symm {r : Rendered ι} {t : Rendered κ} : Alike B r t → Alike (fun k i => B i k) t r := by
  rintro ⟨q, rfl, rfl⟩
  refine ⟨q.map fun pair => ⟨(pair.1.2, pair.1.1), pair.2⟩, ?_, ?_⟩ <;> rw [map_map] <;> rfl

/-- Values are the same if only equal identities belong together. -/
theorem eq {r t : Rendered ι} : Alike Eq r t → r = t := by
  rintro ⟨q, rfl, rfl⟩
  have hpair : (fun pair : Bonded Eq => pair.1.1) = fun pair : Bonded (@Eq ι) => pair.1.2 :=
    funext fun pair => pair.2
  exact congrArg (fun f => q.map f) hpair

end Alike

end Rendered

/-! ### Identities that belong together -/

/-- Where each identity belongs to one only, one of two that belong together is in a list if
the other is in the list that goes with it. -/
theorem mem_iff_of_forall₂ {B : ι → κ → Prop} {i : ι} {k : κ} (hik : ∀ {j : ι} {l : κ}, B j l → (i = j ↔ k = l))
    {is : List ι} {ks : List κ} (h : List.Forall₂ B is ks) : i ∈ is ↔ k ∈ ks := by
  induction h with
  | nil => simp
  | cons hjl _ ih =>
    rw [List.mem_cons, List.mem_cons]
    exact or_congr (hik hjl) ih

/-- Where each identity belongs to one only, some injective renaming leads from the second
identities to the first. -/
theorem exists_renaming_of_faithful {B : Nat → Nat → Prop}
    (hfaithful : ∀ {i j k l : Nat}, B i k → B j l → (i = j ↔ k = l)) {bound : Nat}
    (hbound : ∀ {i k : Nat}, B i k → i < bound) :
    ∃ ρ : Nat → Nat, Function.Injective ρ ∧ ∀ i k, B i k → i = ρ k := by
  classical
  -- what belongs to nothing goes beyond all that belongs to something
  let ρ : Nat → Nat := fun k => if h : ∃ i, B i k then h.choose else bound + k
  have hρ : ∀ i k, B i k → i = ρ k := by
    intro i k hik
    have hsome : ∃ i, B i k := ⟨i, hik⟩
    simp only [ρ, dif_pos hsome]
    exact (hfaithful hik hsome.choose_spec).2 rfl
  refine ⟨ρ, fun k l hkl => ?_, hρ⟩
  by_cases hk : ∃ i, B i k
  · obtain ⟨i, hi⟩ := hk
    have hik := hρ i k hi
    by_cases hl : ∃ j, B j l
    · obtain ⟨j, hj⟩ := hl
      have hjl := hρ j l hj
      exact (hfaithful hi hj).1 (by rw [hik, hjl, hkl])
    · have hbeyond : ρ l = bound + l := dif_neg hl
      have hlt := hbound hi
      omega
  · have hbeyond : ρ k = bound + k := dif_neg hk
    by_cases hl : ∃ j, B j l
    · obtain ⟨j, hj⟩ := hl
      have hjl := hρ j l hj
      have hlt := hbound hj
      omega
    · have hbeyond' : ρ l = bound + l := dif_neg hl
      omega

open Rendered (Alike)

/-! ### Surroundings that keep step -/

/-- Two surroundings keep step. While handles are held on both sides they are twins, and
some identities belong together; each of these belongs to one only. To tag like objects
gives them identities that belong together, and to ask them gives like answers, whose
children may be held from then on. -/
structure Surroundings.Lockstep (env : Surroundings σ ι) (env' : Surroundings τ κ)
    (Twin : List ObjectRef → List ObjectRef → σ → τ → Prop) (Bond : σ → τ → ι → κ → Prop) : Prop where
  alike : ∀ {held held' : List ObjectRef} {s : σ} {t : τ}, Twin held held' s t →
    held.map ObjectRef.unplaced = held'.map ObjectRef.unplaced
  fewer : ∀ {held held' fewer fewer' : List ObjectRef} {s : σ} {t : τ}, (∀ o ∈ fewer, o ∈ held) →
    (∀ o ∈ fewer', o ∈ held') → fewer.map ObjectRef.unplaced = fewer'.map ObjectRef.unplaced →
    Twin held held' s t → Twin fewer fewer' s t
  faithful : ∀ {held held' : List ObjectRef} {s : σ} {t : τ} {i j : ι} {k l : κ}, Twin held held' s t →
    Bond s t i k → Bond s t j l → (i = j ↔ k = l)
  tag : ∀ {held held' : List ObjectRef} {o o' : ObjectRef} {s : σ} {t : τ}, o ∈ held → o' ∈ held' →
    o.unplaced = o'.unplaced → Twin held held' s t →
    Twin held held' (env.tag o s).2 (env'.tag o' t).2 ∧
      Bond (env.tag o s).2 (env'.tag o' t).2 (env.tag o s).1 (env'.tag o' t).1 ∧
      ∀ i k, Bond s t i k → Bond (env.tag o s).2 (env'.tag o' t).2 i k
  ask : ∀ {held held' : List ObjectRef} {o o' : ObjectRef} {s : σ} {t : τ}, o ∈ held → o' ∈ held' →
    o.unplaced = o'.unplaced → Twin held held' s t →
    (env.ask held o s).1.unplaced = (env'.ask held' o' t).1.unplaced ∧
      Twin held held' (env.ask held o s).2 (env'.ask held' o' t).2 ∧
      ∀ i k, Bond s t i k → Bond (env.ask held o s).2 (env'.ask held' o' t).2 i k
  shape : ∀ {held held' : List ObjectRef} {o o' : ObjectRef} {s : σ} {t : τ} {shape shape' : Shape Value},
    o ∈ held → o' ∈ held' → o.unplaced = o'.unplaced → Twin held held' s t →
    (env.ask held o s).1 = .shape shape → (env'.ask held' o' t).1 = .shape shape' →
    Twin (held ++ Value.objects shape.children) (held' ++ Value.objects shape'.children)
      (env.ask held o s).2 (env'.ask held' o' t).2

namespace Pass

section

variable (Twin : List ObjectRef → List ObjectRef → σ → τ → Prop) (Bond : σ → τ → ι → κ → Prop)

/-- Two passes are abreast: their surroundings are twins, and what they have opened belongs
together, one by one. -/
structure Abreast (held held' : List ObjectRef) (p : Pass σ ι) (q : Pass τ κ) : Prop where
  twin : Twin held held' p.state q.state
  opened : List.Forall₂ (Bond p.state q.state) p.opened q.opened

/-- From `p` and `q` two passes have come to `p'` and `q'` abreast, and what belonged
together still does. -/
structure Reaches (held held' : List ObjectRef) (p : Pass σ ι) (q : Pass τ κ) (p' : Pass σ ι)
    (q' : Pass τ κ) : Prop where
  abreast : Abreast Twin Bond held held' p' q'
  bonds : ∀ i k, Bond p.state q.state i k → Bond p'.state q'.state i k

/-- Two ways to render a value keep passes abreast, and give like results. -/
def Paced (held held' : List ObjectRef) (f : Value → Pass σ ι → Rendered ι × Pass σ ι)
    (g : Value → Pass τ κ → Rendered κ × Pass τ κ) : Prop :=
  ∀ (v u : Value) (p : Pass σ ι) (q : Pass τ κ), v.unplaced = u.unplaced →
    (∀ o, v = .object o → o ∈ held) → (∀ o, u = .object o → o ∈ held') → Abreast Twin Bond held held' p q →
    Reaches Twin Bond held held' p q (f v p).2 (g u q).2 ∧
      Alike (Bond (f v p).2.state (g u q).2.state) (f v p).1 (g u q).1

end

variable {Twin : List ObjectRef → List ObjectRef → σ → τ → Prop} {Bond : σ → τ → ι → κ → Prop}
  {env : Surroundings σ ι} {env' : Surroundings τ κ}

theorem Reaches.trans {held held' more more' : List ObjectRef} {p p' p'' : Pass σ ι} {q q' q'' : Pass τ κ}
    (h : Reaches Twin Bond more more' p q p' q') (h' : Reaches Twin Bond held held' p' q' p'' q'') :
    Reaches Twin Bond held held' p q p'' q'' :=
  ⟨h'.abreast, fun i k hik => h'.bonds i k (h.bonds i k hik)⟩

/-- Of two identities that belong together one is open if the other is. -/
theorem Abreast.mem_opened_iff (hl : env.Lockstep env' Twin Bond) {held held' : List ObjectRef} {p : Pass σ ι}
    {q : Pass τ κ} (h : Abreast Twin Bond held held' p q) {i : ι} {k : κ} (hik : Bond p.state q.state i k) :
    i ∈ p.opened ↔ k ∈ q.opened :=
  mem_iff_of_forall₂ (fun hjl => hl.faithful h.twin hik hjl) h.opened

/-! ### The loops keep step -/

theorem paced_renderItems {held held' : List ObjectRef} {f : Value → Pass σ ι → Rendered ι × Pass σ ι}
    {g : Value → Pass τ κ → Rendered κ × Pass τ κ} (hfg : Paced Twin Bond held held' f g) :
    ∀ {vs us : List Value} {p : Pass σ ι} {q : Pass τ κ}, vs.map Value.unplaced = us.map Value.unplaced →
      (∀ o ∈ Value.objects vs, o ∈ held) → (∀ o ∈ Value.objects us, o ∈ held') →
      Abreast Twin Bond held held' p q →
      Reaches Twin Bond held held' p q (renderItems f vs p).2 (renderItems g us q).2 ∧
        List.Forall₂ (Alike (Bond (renderItems f vs p).2.state (renderItems g us q).2.state))
          (renderItems f vs p).1 (renderItems g us q).1
  | [], [], p, q, _, _, _, h => ⟨⟨h, fun _ _ => id⟩, .nil⟩
  | [], _ :: _, _, _, hvs, _, _, _ => by cases hvs
  | _ :: _, [], _, _, hvs, _, _, _ => by cases hvs
  | v :: vs, u :: us, p, q, hvs, hheld, hheld', h => by
    obtain ⟨hv, hvs⟩ := List.cons.inj hvs
    obtain ⟨hfirst, halike⟩ := hfg v u p q hv (fun o ho => hheld o (by simp [ho]))
      (fun o ho => hheld' o (by simp [ho])) h
    obtain ⟨hrest, hothers⟩ := paced_renderItems hfg hvs
      (fun o ho => hheld o (by simp only [Value.mem_objects, List.mem_cons] at ho ⊢; exact Or.inr ho))
      (fun o ho => hheld' o (by simp only [Value.mem_objects, List.mem_cons] at ho ⊢; exact Or.inr ho))
      hfirst.abreast
    exact ⟨hfirst.trans hrest, .cons (halike.mono hrest.bonds) hothers⟩

/-- Fewer handles are held. -/
theorem Abreast.fewer (hl : env.Lockstep env' Twin Bond) {held held' fewer fewer' : List ObjectRef}
    {p : Pass σ ι} {q : Pass τ κ} (hsub : ∀ o ∈ fewer, o ∈ held) (hsub' : ∀ o ∈ fewer', o ∈ held')
    (heq : fewer.map ObjectRef.unplaced = fewer'.map ObjectRef.unplaced) (h : Abreast Twin Bond held held' p q) :
    Abreast Twin Bond fewer fewer' p q :=
  ⟨hl.fewer hsub hsub' heq h.twin, h.opened⟩

theorem paced_renderFields (hl : env.Lockstep env' Twin Bond)
    {f : List ObjectRef → Value → Pass σ ι → Rendered ι × Pass σ ι}
    {g : List ObjectRef → Value → Pass τ κ → Rendered κ × Pass τ κ}
    (hfg : ∀ held held', Paced Twin Bond held held' (f held) (g held')) {held held' : List ObjectRef}
    (hheld : held.map ObjectRef.unplaced = held'.map ObjectRef.unplaced) :
    ∀ {fields others : List (String × Value)} {p : Pass σ ι} {q : Pass τ κ},
      fields.map (·.1) = others.map (·.1) →
      (fields.map (·.2)).map Value.unplaced = (others.map (·.2)).map Value.unplaced →
      Abreast Twin Bond (held ++ Value.objects (fields.map (·.2))) (held' ++ Value.objects (others.map (·.2))) p q →
      Reaches Twin Bond held held' p q (renderFields f held fields p).2 (renderFields g held' others q).2 ∧
        (renderFields f held fields p).1.map (·.1) = (renderFields g held' others q).1.map (·.1) ∧
        List.Forall₂ (Alike (Bond (renderFields f held fields p).2.state (renderFields g held' others q).2.state))
          ((renderFields f held fields p).1.map (·.2)) ((renderFields g held' others q).1.map (·.2))
  | [], [], p, q, _, _, h => by
    have hless := h.fewer hl (fun o ho => List.mem_append_left _ ho) (fun o ho => List.mem_append_left _ ho) hheld
    exact ⟨⟨hless, fun _ _ => id⟩, rfl, .nil⟩
  | [], _ :: _, _, _, hnames, _, _ => by cases hnames
  | _ :: _, [], _, _, hnames, _, _ => by cases hnames
  | (name, v) :: fields, (other, u) :: others, p, q, hnames, hvalues, h => by
    obtain ⟨hname, hnames⟩ := List.cons.inj hnames
    obtain ⟨hv, hvalues⟩ := List.cons.inj hvalues
    obtain ⟨hfirst, halike⟩ := hfg (held ++ Value.objects (v :: fields.map (·.2)))
      (held' ++ Value.objects (u :: others.map (·.2))) v u p q hv (fun o ho => by simp [ho])
      (fun o ho => by simp [ho]) h
    -- what has been rendered is let go
    have hrest : (held ++ Value.objects (fields.map (·.2))).map ObjectRef.unplaced =
        (held' ++ Value.objects (others.map (·.2))).map ObjectRef.unplaced := by
      rw [List.map_append, List.map_append, hheld, Value.objects_unplaced_eq hvalues]
    have hsub : ∀ (held : List ObjectRef) (v : Value) (vs : List Value), ∀ o ∈ held ++ Value.objects vs,
        o ∈ held ++ Value.objects (v :: vs) := by
      intro held v vs o ho
      simp only [List.mem_append, Value.mem_objects, List.mem_cons] at ho ⊢
      exact ho.imp_right Or.inr
    obtain ⟨hothers, hnames, hlike⟩ := paced_renderFields hl hfg hheld hnames hvalues
      (hfirst.abreast.fewer hl (hsub held v _) (hsub held' u _) hrest)
    refine ⟨hfirst.trans hothers, ?_, .cons (halike.mono hothers.bonds) hlike⟩
    exact congrArg₂ List.cons hname hnames

theorem paced_renderBody (hl : env.Lockstep env' Twin Bond)
    {f : List ObjectRef → Value → Pass σ ι → Rendered ι × Pass σ ι}
    {g : List ObjectRef → Value → Pass τ κ → Rendered κ × Pass τ κ}
    (hfg : ∀ held held', Paced Twin Bond held held' (f held) (g held')) {held held' : List ObjectRef}
    (hheld : held.map ObjectRef.unplaced = held'.map ObjectRef.unplaced) {shape shape' : Shape Value}
    (hshape : shape.map Value.unplaced = shape'.map Value.unplaced) {p : Pass σ ι} {q : Pass τ κ}
    (h : Abreast Twin Bond (held ++ Value.objects shape.children) (held' ++ Value.objects shape'.children) p q) :
    Reaches Twin Bond held held' p q (renderBody f held shape p).2 (renderBody g held' shape' q).2 ∧
      (renderBody f held shape p).1.outline = (renderBody g held' shape' q).1.outline ∧
      List.Forall₂ (Alike (Bond (renderBody f held shape p).2.state (renderBody g held' shape' q).2.state))
        (renderBody f held shape p).1.children (renderBody g held' shape' q).1.children := by
  have houtline := Shape.outline_eq_of_unplaced hshape
  have hchildren := Shape.children_eq_of_unplaced hshape
  cases shape with
  | record fields =>
    cases shape' with
    | record others =>
      have hnames := Shape.outline_fields_iff.1 (Shape.record.inj houtline)
      obtain ⟨hreaches, hnames, halike⟩ := paced_renderFields hl hfg hheld hnames hchildren h
      exact ⟨hreaches, congrArg Shape.record (Shape.outline_fields_iff.2 hnames), halike⟩
    | sequence _ => cases houtline
    | mapping _ => cases houtline
  | sequence items =>
    cases shape' with
    | record _ => cases houtline
    | sequence others =>
      obtain ⟨hreaches, halike⟩ := paced_renderItems (hfg (held ++ Value.objects items)
        (held' ++ Value.objects others)) hchildren (fun o ho => List.mem_append_right _ ho)
        (fun o ho => List.mem_append_right _ ho) h
      refine ⟨⟨?_, hreaches.bonds⟩, congrArg Shape.sequence ?_, halike⟩
      · exact hreaches.abreast.fewer hl (fun o ho => List.mem_append_left _ ho)
          (fun o ho => List.mem_append_left _ ho) hheld
      · rw [List.map_const', List.map_const']
        exact congrArg (List.replicate · ()) halike.length_eq
    | mapping _ => cases houtline
  | mapping entries =>
    cases shape' with
    | record _ => cases houtline
    | sequence _ => cases houtline
    | mapping others =>
      have hnames := Shape.outline_fields_iff.1 (Shape.mapping.inj houtline)
      obtain ⟨hreaches, hnames, halike⟩ := paced_renderFields hl hfg hheld hnames hchildren h
      exact ⟨hreaches, congrArg Shape.mapping (Shape.outline_fields_iff.2 hnames), halike⟩

/-! ### Passes keep step -/

/-- To ask like objects and to render what they show keeps step. -/
theorem paced_expand (hl : env.Lockstep env' Twin Bond)
    {f : List ObjectRef → Value → Pass σ ι → Rendered ι × Pass σ ι}
    {g : List ObjectRef → Value → Pass τ κ → Rendered κ × Pass τ κ}
    (hfg : ∀ held held', Paced Twin Bond held held' (f held) (g held')) {held held' : List ObjectRef}
    {o o' : ObjectRef} (ho : o ∈ held) (ho' : o' ∈ held') (hlike : o.unplaced = o'.unplaced) (i : ι) (k : κ)
    (p : Pass σ ι) (q : Pass τ κ) (hik : Bond p.state q.state i k) (h : Abreast Twin Bond held held' p q) :
    Reaches Twin Bond held held' p q (expand env f held o i p).2 (expand env' g held' o' k q).2 ∧
      Alike (Bond (expand env f held o i p).2.state (expand env' g held' o' k q).2.state)
        (expand env f held o i p).1 (expand env' g held' o' k q).1 := by
  obtain ⟨hanswer, htwin, hbonds⟩ := hl.ask ho ho' hlike h.twin
  have hshape : ∀ shape shape', (env.ask held o p.state).1 = .shape shape →
      (env'.ask held' o' q.state).1 = .shape shape' →
      Twin (held ++ Value.objects shape.children) (held' ++ Value.objects shape'.children)
        (env.ask held o p.state).2 (env'.ask held' o' q.state).2 :=
    fun _ _ => hl.shape ho ho' hlike h.twin
  simp only [expand]
  generalize env.ask held o p.state = asked at *
  generalize env'.ask held' o' q.state = asked' at *
  obtain ⟨answer, s⟩ := asked
  obtain ⟨answer', t⟩ := asked'
  have hopened : List.Forall₂ (Bond s t) p.opened q.opened := h.opened.imp fun _ _ => hbonds _ _
  cases answer with
  | failed failure =>
    cases answer' with
    | failed failure' =>
      obtain rfl : failure = failure' := Answer.failed.inj hanswer
      exact ⟨⟨⟨htwin, hopened⟩, hbonds⟩, .failed failure⟩
    | panicked _ => cases hanswer
    | shape _ => cases hanswer
  | panicked text =>
    cases answer' with
    | failed _ => cases hanswer
    | panicked text' =>
      obtain rfl : text = text' := Answer.panicked.inj hanswer
      exact ⟨⟨⟨htwin, hopened⟩, hbonds⟩, .failed (Failure.ofPanic text)⟩
    | shape _ => cases hanswer
  | shape shape =>
    cases answer' with
    | failed _ => cases hanswer
    | panicked _ => cases hanswer
    | shape shape' =>
      have hbody : Abreast Twin Bond (held ++ Value.objects shape.children)
          (held' ++ Value.objects shape'.children) ⟨s, i :: p.opened⟩ ⟨t, k :: q.opened⟩ :=
        ⟨hshape shape shape' rfl rfl, .cons (hbonds i k hik) hopened⟩
      obtain ⟨hreaches, houtline, hchildren⟩ :=
        paced_renderBody hl hfg (hl.alike h.twin) (Answer.shape.inj hanswer) hbody
      have hend : Bond (renderBody f held shape ⟨s, i :: p.opened⟩).2.state
          (renderBody g held' shape' ⟨t, k :: q.opened⟩).2.state i k := hreaches.bonds i k (hbonds i k hik)
      refine ⟨⟨hreaches.abreast, fun j l hjl => hreaches.bonds j l (hbonds j l hjl)⟩, ?_⟩
      rw [ObjectRef.typeName_eq_of_unplaced hlike]
      exact Alike.object hend o'.typeName houtline hchildren

variable [DecidableEq ι] [DecidableEq κ]

/-- To tag like objects and to refer back to them, or to go on, keeps step. -/
theorem paced_meet (hl : env.Lockstep env' Twin Bond) {held held' : List ObjectRef} {o o' : ObjectRef}
    (ho : o ∈ held) (ho' : o' ∈ held') (hlike : o.unplaced = o'.unplaced)
    {go : ι → Pass σ ι → Rendered ι × Pass σ ι} {go' : κ → Pass τ κ → Rendered κ × Pass τ κ}
    (hgo : ∀ (i : ι) (k : κ) (p : Pass σ ι) (q : Pass τ κ), Bond p.state q.state i k →
      Abreast Twin Bond held held' p q → Reaches Twin Bond held held' p q (go i p).2 (go' k q).2 ∧
        Alike (Bond (go i p).2.state (go' k q).2.state) (go i p).1 (go' k q).1)
    {p : Pass σ ι} {q : Pass τ κ} (h : Abreast Twin Bond held held' p q) :
    Reaches Twin Bond held held' p q (meet env o go p).2 (meet env' o' go' q).2 ∧
      Alike (Bond (meet env o go p).2.state (meet env' o' go' q).2.state) (meet env o go p).1
        (meet env' o' go' q).1 := by
  obtain ⟨htwin, hbond, hbonds⟩ := hl.tag ho ho' hlike h.twin
  have hopened : Abreast Twin Bond held held' { p with state := (env.tag o p.state).2 }
      { q with state := (env'.tag o' q.state).2 } := ⟨htwin, h.opened.imp fun _ _ => hbonds _ _⟩
  have hmem := hopened.mem_opened_iff hl hbond
  by_cases hold : (env.tag o p.state).1 ∈ p.opened
  · simp only [meet, if_pos hold, if_pos (hmem.1 hold)]
    exact ⟨⟨hopened, hbonds⟩, .reference hbond⟩
  · have hnew : (env'.tag o' q.state).1 ∉ q.opened := fun hk => hold (hmem.2 hk)
    simp only [meet, if_neg hold, if_neg hnew]
    obtain ⟨hreaches, halike⟩ := hgo _ _ _ _ hbond hopened
    exact ⟨⟨hreaches.abreast, fun i k hik => hreaches.bonds i k (hbonds i k hik)⟩, halike⟩

theorem tooDeep_eq_of_unplaced {o o' : ObjectRef} (h : o.unplaced = o'.unplaced) : tooDeep o = tooDeep o' := by
  rw [tooDeep, tooDeep, ObjectRef.typeName_eq_of_unplaced h]

/-- Like values are rendered in step, however much room there is. -/
theorem paced_render (hl : env.Lockstep env' Twin Bond) : ∀ (room : Nat) (held held' : List ObjectRef),
    Paced Twin Bond held held' (render env room held) (render env' room held')
  | room, held, held', .scalar s, .scalar s', p, q, hlike, _, _, h => by
    obtain rfl : s = s' := Value.scalar.inj hlike
    simp only [render]
    exact ⟨⟨h, fun _ _ => id⟩, .scalar s⟩
  | _, _, _, .scalar _, .object _, _, _, hlike, _, _, _ => by cases hlike
  | _, _, _, .object _, .scalar _, _, _, hlike, _, _, _ => by cases hlike
  | 0, held, held', .object o, .object o', p, q, hlike, ho, ho', h => by
    have hlike : o.unplaced = o'.unplaced := Value.object.inj hlike
    simp only [render]
    refine paced_meet hl (ho o rfl) (ho' o' rfl) hlike (fun i k p q _ h => ⟨⟨h, fun _ _ => id⟩, ?_⟩) h
    rw [tooDeep_eq_of_unplaced hlike]
    exact .failed (tooDeep o')
  | room + 1, held, held', .object o, .object o', p, q, hlike, ho, ho', h => by
    have hlike : o.unplaced = o'.unplaced := Value.object.inj hlike
    simp only [render]
    exact paced_meet hl (ho o rfl) (ho' o' rfl) hlike
      (paced_expand hl (paced_render hl room) (ho o rfl) (ho' o' rfl) hlike) h

end Pass

/-- **Passes keep step.** Two passes over like values come to twins again, and what they
render is alike by the identities that belong together at the end. -/
theorem Surroundings.Lockstep.run [DecidableEq ι] [DecidableEq κ] {env : Surroundings σ ι}
    {env' : Surroundings τ κ} {Twin : List ObjectRef → List ObjectRef → σ → τ → Prop}
    {Bond : σ → τ → ι → κ → Prop} (hl : env.Lockstep env' Twin Bond) {held held' : List ObjectRef}
    {vs us : List Value} (hvs : vs.map Value.unplaced = us.map Value.unplaced) {s : σ} {t : τ}
    (h : Twin (held ++ Value.objects vs) (held' ++ Value.objects us) s t) :
    Twin (held ++ Value.objects vs) (held' ++ Value.objects us) (env.run held vs s).2 (env'.run held' us t).2 ∧
      (∀ i k, Bond s t i k → Bond (env.run held vs s).2 (env'.run held' us t).2 i k) ∧
      List.Forall₂ (Alike (Bond (env.run held vs s).2 (env'.run held' us t).2)) (env.run held vs s).1
        (env'.run held' us t).1 := by
  have hstart : Pass.Abreast Twin Bond (held ++ Value.objects vs) (held' ++ Value.objects us)
      ⟨s, []⟩ ⟨t, []⟩ := ⟨h, .nil⟩
  obtain ⟨hreaches, halike⟩ := Pass.paced_renderItems (Pass.paced_render hl maxDepth _ _) hvs
    (fun o ho => List.mem_append_right _ ho) (fun o ho => List.mem_append_right _ ho) hstart
  exact ⟨hreaches.abreast.twin, hreaches.bonds, halike⟩

end CallChain
