/-
# Shapes

The structure of a complex value, over whatever its children are: host values
when an object describes itself, rendered values in a captured frame. A record
has named fields in declaration order, a sequence has items, a mapping has
entries under keys. Names and keys may repeat.

Key definitions: `Shape`, `Shape.children`, `Shape.map`, `Shape.outline`.
-/

namespace CallChain

/-- The structure of a complex value with children in `α`. -/
inductive Shape (α : Type) where
  | record (fields : List (String × α))
  | sequence (items : List α)
  | mapping (entries : List (String × α))
deriving DecidableEq

namespace Shape

variable {α β : Type}

instance : Inhabited (Shape α) := ⟨.sequence []⟩

/-- The children, in order. -/
def children : Shape α → List α
  | .record fields => fields.map (·.2)
  | .sequence items => items
  | .mapping entries => entries.map (·.2)

/-- The names of the children; the items of a sequence have none. -/
def names : Shape α → List String
  | .record fields => fields.map (·.1)
  | .sequence _ => []
  | .mapping entries => entries.map (·.1)

/-- A shape with the same names whose children are images of the old ones. -/
def map (f : α → β) : Shape α → Shape β
  | .record fields => .record (fields.map fun field => (field.1, f field.2))
  | .sequence items => .sequence (items.map f)
  | .mapping entries => .mapping (entries.map fun entry => (entry.1, f entry.2))

@[simp]
theorem children_map (f : α → β) (s : Shape α) : (s.map f).children = s.children.map f := by
  cases s <;> simp [map, children]

@[simp]
theorem names_map (f : α → β) (s : Shape α) : (s.map f).names = s.names := by
  cases s <;> simp [map, names]

/-- A map that changes no child changes nothing. -/
theorem map_eq_self {f : α → α} {s : Shape α} (h : ∀ a ∈ s.children, f a = a) : s.map f = s := by
  have hfields : ∀ fields : List (String × α), (∀ a ∈ fields.map (·.2), f a = a) →
      fields.map (fun field => (field.1, f field.2)) = fields := by
    intro fields hf
    refine (List.map_congr_left fun field hfield => ?_).trans (List.map_id fields)
    rw [hf field.2 (List.mem_map_of_mem hfield)]
    rfl
  cases s with
  | record fields => rw [map, hfields fields h]
  | sequence items => exact congrArg Shape.sequence ((List.map_congr_left h).trans (List.map_id items))
  | mapping entries => rw [map, hfields entries h]

/-- A shape without its children: the kind, and the names in their order. Shapes over
different types are compared by it. -/
def outline (s : Shape α) : Shape Unit :=
  s.map fun _ => ()

theorem length_children_of_outline {s : Shape α} {t : Shape β} (h : s.outline = t.outline) :
    s.children.length = t.children.length := by
  have hlength : s.outline.children.length = t.outline.children.length := by rw [h]
  simpa [outline] using hlength

/-- Fields have the same outline exactly if they have the same names. -/
theorem outline_fields_iff {fields : List (String × α)} {others : List (String × β)} :
    fields.map (fun field => (field.1, ())) = others.map (fun field => (field.1, ())) ↔
      fields.map (·.1) = others.map (·.1) := by
  constructor
  · intro h
    simpa [List.map_map, Function.comp_def] using congrArg (List.map Prod.fst) h
  · intro h
    simpa [List.map_map, Function.comp_def] using congrArg (List.map fun name => (name, ())) h

/-- The outline and the children make up a shape. -/
theorem eq_of_outline {s t : Shape α} (houtline : s.outline = t.outline) (hchildren : s.children = t.children) :
    s = t := by
  have hfields : ∀ {fields others : List (String × α)},
      fields.map (fun field => (field.1, ())) = others.map (fun field => (field.1, ())) →
      fields.map (·.2) = others.map (·.2) → fields = others := fun hnames hvalues =>
    (List.zip_of_prod (outline_fields_iff.1 hnames) hvalues).trans (List.zip_of_prod rfl rfl).symm
  cases s with
  | record fields =>
    cases t with
    | record others => exact congrArg Shape.record (hfields (Shape.record.inj houtline) hchildren)
    | sequence _ => cases houtline
    | mapping _ => cases houtline
  | sequence items =>
    cases t with
    | record _ => cases houtline
    | sequence others => exact congrArg Shape.sequence hchildren
    | mapping _ => cases houtline
  | mapping entries =>
    cases t with
    | record _ => cases houtline
    | sequence _ => cases houtline
    | mapping others => exact congrArg Shape.mapping (hfields (Shape.mapping.inj houtline) hchildren)

end Shape

end CallChain
