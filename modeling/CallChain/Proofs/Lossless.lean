/-
# Artifacts lose only the spelling of scalars

Two chains with the same artifact have the same methods and values that match: everything
about them is the same except that a scalar may be another one with the same JSON text.

The trees of the two artifacts are equal because both are read from one text. From equal
trees the values are compared from the outside in: the first key of an object tells what it
stands for, and where the keys of a record begin nothing else can stand. Only a record with
the single field `@entries` looks like a mapping, and `Telling` values have none.

Key definitions: `Rendered.Matches`, `Rendered.Telling`.
Key theorems: `Rendered.matches_of_layout_eq`, `matches_of_chainArtifact_eq`.
-/
import CallChain.Proofs.Artifact
import CallChain.Proofs.PassRules
import Mathlib.Data.List.Forall2

namespace CallChain

namespace Rendered

/-! ### Values that match -/

/-- The same value, but for scalars with the same text. -/
inductive Matches : Rendered Nat → Rendered Nat → Prop
  | scalar {s t : Scalar} (text : s.layout.text = t.layout.text) : Matches (.scalar s) (.scalar t)
  | object {id : Nat} {typeName : String} {a b : Shape (Rendered Nat)} (outline : a.outline = b.outline)
      (children : List.Forall₂ Matches a.children b.children) :
      Matches (.object id typeName a) (.object id typeName b)
  | reference (id : Nat) : Matches (.reference id) (.reference id)
  | failed (f : Failure) : Matches (.failed f) (.failed f)

mutual

/-- No record in the value has `@entries` as its only field. -/
def Telling : Rendered Nat → Prop
  | .object _ _ (.record fields) => fields.map (·.1) ≠ ["@entries"] ∧ TellingFields fields
  | .object _ _ (.sequence items) => TellingItems items
  | .object _ _ (.mapping entries) => TellingFields entries
  | _ => True

def TellingItems : List (Rendered Nat) → Prop
  | [] => True
  | item :: rest => item.Telling ∧ TellingItems rest

def TellingFields : List (String × Rendered Nat) → Prop
  | [] => True
  | (_, value) :: rest => value.Telling ∧ TellingFields rest

end

/-! ### What a tree tells -/

theorem scalar_layout_ne_object (s : Scalar) (pairs : List (String × Json)) : s.layout ≠ .object pairs := by
  rcases s.layout_cases with h | ⟨b, h⟩ | ⟨t, -, h⟩ | ⟨x, h⟩ <;> simp [h]

/-- Only a scalar has a tree that is no object. -/
theorem exists_layout_eq_object (r : Rendered Nat) :
    (∃ s, r = .scalar s) ∨ ∃ pairs, r.layout = .object pairs := by
  cases r with
  | scalar s => exact .inl ⟨s, rfl⟩
  | object id typeName body => cases body <;> exact .inr ⟨_, rfl⟩
  | reference id => exact .inr ⟨_, rfl⟩
  | failed f => exact .inr ⟨_, rfl⟩

theorem layout_ne_array (r : Rendered Nat) (items : List Json) : r.layout ≠ .array items := by
  rcases exists_layout_eq_object r with ⟨s, rfl⟩ | ⟨pairs, hpairs⟩
  · rcases s.layout_cases with h | ⟨b, h⟩ | ⟨t, -, h⟩ | ⟨x, h⟩ <;> simp [layout, h]
  · simp [hpairs]

theorem layoutFields_names : ∀ fields : List (String × Rendered Nat),
    (layoutFields fields).map (·.1) = fields.map (·.1)
  | [] => rfl
  | (name, _) :: rest => congrArg (name :: ·) (layoutFields_names rest)

theorem identityLayout_injective {i j : Nat} (h : identityLayout i = identityLayout j) : i = j :=
  natNumeral_injective (Json.number.inj h)

/-- A record does not look like a sequence: no field is laid out as an array. -/
theorem layoutFields_ne_items (fields : List (String × Rendered Nat)) (items : List Json) :
    layoutFields fields ≠ [("@items", .array items)] := by
  match fields with
  | [] => simp [layoutFields]
  | (name, value) :: rest =>
    intro h
    exact layout_ne_array value items (Prod.mk.inj (List.cons.inj h).1).2

/-- A telling record does not look like a mapping. -/
theorem layoutFields_ne_entries {fields : List (String × Rendered Nat)}
    (h : fields.map (·.1) ≠ ["@entries"]) (entries : Json) : layoutFields fields ≠ [("@entries", entries)] := by
  intro heq
  rw [← layoutFields_names fields, heq] at h
  exact h rfl

mutual

/-- Telling values with one tree match. -/
theorem matches_of_layout_eq : ∀ r s : Rendered Nat, r.Telling → s.Telling → r.layout = s.layout → Matches r s
  | .scalar a, s, _, _, h => by
    rcases exists_layout_eq_object s with ⟨b, rfl⟩ | ⟨pairs, hpairs⟩
    · exact .scalar (congrArg Json.text h)
    · exact absurd (h.trans hpairs) (scalar_layout_ne_object a pairs)
  | .object id typeName (.record fields), s, hr, hs, h => by
    cases s with
    | scalar b => exact absurd h.symm (scalar_layout_ne_object b _)
    | object id' typeName' body =>
      cases body with
      | record fields' =>
        simp only [layout, Json.object.injEq, List.cons.injEq, Prod.mk.injEq, true_and, Json.string.injEq] at h
        obtain ⟨hid, rfl, hfields⟩ := h
        obtain rfl := identityLayout_injective hid
        obtain ⟨hnames, hvalues⟩ := matches_of_layoutFields_eq fields fields' hr.2 hs.2 hfields
        exact .object (congrArg Shape.record (Shape.outline_fields_iff.2 hnames)) hvalues
      | sequence items =>
        simp only [layout, Json.object.injEq, List.cons.injEq] at h
        exact absurd h.2.2 (layoutFields_ne_items fields _)
      | mapping entries =>
        simp only [layout, Json.object.injEq, List.cons.injEq] at h
        exact absurd h.2.2 (layoutFields_ne_entries hr.1 _)
    | reference id' => simp [layout] at h
    | failed f => simp [layout, Failure.layout] at h
  | .object id typeName (.sequence items), s, hr, hs, h => by
    cases s with
    | scalar b => exact absurd h.symm (scalar_layout_ne_object b _)
    | object id' typeName' body =>
      cases body with
      | record fields =>
        simp only [layout, Json.object.injEq, List.cons.injEq] at h
        exact absurd h.2.2.symm (layoutFields_ne_items fields _)
      | sequence items' =>
        simp only [layout, Json.object.injEq, List.cons.injEq, Prod.mk.injEq, true_and, Json.string.injEq,
          Json.array.injEq, and_true] at h
        obtain ⟨hid, rfl, hitems⟩ := h
        obtain rfl := identityLayout_injective hid
        have hvalues := matches_of_layoutItems_eq items items' hr hs hitems
        refine .object (congrArg Shape.sequence ?_) hvalues
        rw [List.map_const', List.map_const', hvalues.length_eq]
      | mapping entries => simp [layout] at h
    | reference id' => simp [layout] at h
    | failed f => simp [layout, Failure.layout] at h
  | .object id typeName (.mapping entries), s, hr, hs, h => by
    cases s with
    | scalar b => exact absurd h.symm (scalar_layout_ne_object b _)
    | object id' typeName' body =>
      cases body with
      | record fields =>
        simp only [layout, Json.object.injEq, List.cons.injEq] at h
        exact absurd h.2.2.symm (layoutFields_ne_entries hs.1 _)
      | sequence items => simp [layout] at h
      | mapping entries' =>
        simp only [layout, Json.object.injEq, List.cons.injEq, Prod.mk.injEq, true_and, Json.string.injEq,
          and_true] at h
        obtain ⟨hid, rfl, hentries⟩ := h
        obtain rfl := identityLayout_injective hid
        obtain ⟨hnames, hvalues⟩ := matches_of_layoutFields_eq entries entries' hr hs hentries
        exact .object (congrArg Shape.mapping (Shape.outline_fields_iff.2 hnames)) hvalues
    | reference id' => simp [layout] at h
    | failed f => simp [layout, Failure.layout] at h
  | .reference id, s, _, _, h => by
    cases s with
    | scalar b => exact absurd h.symm (scalar_layout_ne_object b _)
    | object id' typeName body => cases body <;> simp [layout] at h
    | reference id' =>
      simp only [layout, Json.object.injEq, List.cons.injEq, Prod.mk.injEq, true_and, and_true] at h
      obtain rfl := identityLayout_injective h
      exact .reference id
    | failed f => simp [layout, Failure.layout] at h
  | .failed f, s, _, _, h => by
    cases s with
    | scalar b => exact absurd h.symm (scalar_layout_ne_object b _)
    | object id typeName body => cases body <;> simp [layout, Failure.layout] at h
    | reference id => simp [layout, Failure.layout] at h
    | failed f' =>
      obtain ⟨kind, message⟩ := f
      obtain ⟨kind', message'⟩ := f'
      simp only [layout, Failure.layout, Json.object.injEq, List.cons.injEq, Prod.mk.injEq, true_and, and_true,
        Json.string.injEq] at h
      obtain ⟨rfl, rfl⟩ := h
      exact .failed _

theorem matches_of_layoutItems_eq : ∀ as bs : List (Rendered Nat), TellingItems as → TellingItems bs →
    layoutItems as = layoutItems bs → List.Forall₂ Matches as bs
  | [], [], _, _, _ => .nil
  | [], b :: bs, _, _, h => by cases h
  | a :: as, [], _, _, h => by cases h
  | a :: as, b :: bs, ha, hb, h => by
    obtain ⟨hhead, hrest⟩ := List.cons.inj h
    exact .cons (matches_of_layout_eq a b ha.1 hb.1 hhead) (matches_of_layoutItems_eq as bs ha.2 hb.2 hrest)

theorem matches_of_layoutFields_eq : ∀ as bs : List (String × Rendered Nat), TellingFields as →
    TellingFields bs → layoutFields as = layoutFields bs →
    as.map (·.1) = bs.map (·.1) ∧ List.Forall₂ Matches (as.map (·.2)) (bs.map (·.2))
  | [], [], _, _, _ => ⟨rfl, .nil⟩
  | [], b :: bs, _, _, h => by cases h
  | a :: as, [], _, _, h => by cases h
  | (name, a) :: as, (name', b) :: bs, ha, hb, h => by
    obtain ⟨hhead, hrest⟩ := List.cons.inj h
    obtain ⟨rfl, hvalue⟩ := Prod.mk.inj hhead
    obtain ⟨hnames, hvalues⟩ := matches_of_layoutFields_eq as bs ha.2 hb.2 hrest
    exact ⟨congrArg (name :: ·) hnames, .cons (matches_of_layout_eq a b ha.1 hb.1 hvalue) hvalues⟩

end

end Rendered

/-! ### Chains -/

/-- The same call with values that match. -/
structure Frame.Matches (f g : Frame) : Prop where
  method : f.method = g.method
  values : List.Forall₂ Rendered.Matches f.values g.values

/-- All values of a frame are telling. -/
def Frame.Telling (f : Frame) : Prop :=
  Rendered.TellingItems f.values

theorem Frame.matches_of_layout_eq {f g : Frame} (hf : f.Telling) (hg : g.Telling) (h : f.layout = g.layout) :
    f.Matches g := by
  obtain ⟨⟨method⟩, values⟩ := f
  obtain ⟨⟨method'⟩, values'⟩ := g
  simp only [Frame.layout, Json.object.injEq, List.cons.injEq, Prod.mk.injEq, true_and, and_true,
    Json.string.injEq, Json.array.injEq] at h
  obtain ⟨rfl, hvalues⟩ := h
  exact ⟨rfl, Rendered.matches_of_layoutItems_eq values values' hf hg hvalues⟩

theorem matches_of_map_layout_eq : ∀ {fs gs : List Frame}, (∀ f ∈ fs, f.Telling) → (∀ g ∈ gs, g.Telling) →
    fs.map Frame.layout = gs.map Frame.layout → List.Forall₂ Frame.Matches fs gs
  | [], [], _, _, _ => .nil
  | [], g :: gs, _, _, h => by cases h
  | f :: fs, [], _, _, h => by cases h
  | f :: fs, g :: gs, hf, hg, h => by
    obtain ⟨hhead, hrest⟩ := List.cons.inj h
    exact .cons (Frame.matches_of_layout_eq (hf f List.mem_cons_self) (hg g List.mem_cons_self) hhead)
      (matches_of_map_layout_eq (fun f' hf' => hf f' (List.mem_cons_of_mem _ hf'))
        (fun g' hg' => hg g' (List.mem_cons_of_mem _ hg')) hrest)

/-- Two chains with one artifact are the same chain, but for scalars with the same text. -/
theorem matches_of_chainArtifact_eq {fs gs : List Frame} (hfs : ∀ f ∈ fs, f.Telling)
    (hgs : ∀ g ∈ gs, g.Telling) (h : chainArtifact fs = chainArtifact gs) :
    List.Forall₂ Frame.Matches fs gs := by
  have htree : Json.array (fs.map Frame.layout) = Json.array (gs.map Frame.layout) :=
    Json.eq_of_text_eq (chain_spelled fs) (chain_spelled gs) h
  exact matches_of_map_layout_eq hfs hgs (Json.array.inj htree)

/-- A call with a letter and a call with the text of that letter. -/
def letterFrame : Frame :=
  ⟨⟨"T.m(char)"⟩, [.object 1 "T" (.record [("@items", .scalar (.uint 7))]), .scalar (.char 'a')]⟩

def textFrame : Frame :=
  ⟨⟨"T.m(char)"⟩, [.object 1 "T" (.record [("@items", .scalar (.int 7))]), .scalar (.str "a")]⟩

theorem letter_matches_text : chainArtifact [letterFrame] = chainArtifact [textFrame] ∧
    List.Forall₂ Frame.Matches [letterFrame] [textFrame] := by
  have htext : chainArtifact [letterFrame] = chainArtifact [textFrame] := rfl
  have hletter : ∀ f ∈ [letterFrame], f.Telling := by
    simp [letterFrame, Frame.Telling, Rendered.TellingItems, Rendered.Telling, Rendered.TellingFields]
  have htextual : ∀ f ∈ [textFrame], f.Telling := by
    simp [textFrame, Frame.Telling, Rendered.TellingItems, Rendered.Telling, Rendered.TellingFields]
  exact ⟨htext, matches_of_chainArtifact_eq hletter htextual htext⟩

/-- Without the condition on records two different values may share a text. -/
example : Rendered.layout (.object 1 "T" (.record [("@entries", .reference 2)])) =
    Rendered.layout (.object 1 "T" (.mapping [("@ref", .scalar (.uint 2))])) := rfl

end CallChain
