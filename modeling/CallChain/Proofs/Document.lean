/-
# Rendered values as documents

Rendered values are written one after the other, an object before its children.
`document` lists their nodes in that order, each with its place: the number of the
value first, then the numbers of the children on the way down. What a reader can
know at a node is what opened before it; `Along` says that something holds of every
node together with the identities opened before it.

Key definitions: `Rendered.Node`, `Rendered.document`, `Rendered.openedIn`,
`Rendered.Along`.
Key theorems: `Rendered.along_append`, `Rendered.Along.of_split`,
`Rendered.mem_nodes_child`.
-/
import CallChain.Rendered.Basic

namespace CallChain
namespace Rendered

variable {ι : Type}

/-- The children of a value, in order. -/
def children (r : Rendered ι) : List (Rendered ι) :=
  match r.body? with
  | some body => body.children
  | none => []

/-- The identity that a value opens: its own, if it is an object. -/
def opens? : Rendered ι → Option ι
  | .object id _ _ => some id
  | _ => none

/-- A value within others, and its place among them. -/
structure Node (ι : Type) where
  place : List Nat
  value : Rendered ι

/-- How many objects enclose a node. -/
def Node.level (n : Node ι) : Nat :=
  n.place.length - 1

mutual

/-- A value at a place and all that it holds. -/
def nodes (place : List Nat) : Rendered ι → List (Node ι)
  | .scalar s => [⟨place, .scalar s⟩]
  | .object id typeName (.record fields) =>
    ⟨place, .object id typeName (.record fields)⟩ :: nodesOfFields place 0 fields
  | .object id typeName (.sequence items) =>
    ⟨place, .object id typeName (.sequence items)⟩ :: nodesOfItems place 0 items
  | .object id typeName (.mapping entries) =>
    ⟨place, .object id typeName (.mapping entries)⟩ :: nodesOfFields place 0 entries
  | .reference id => [⟨place, .reference id⟩]
  | .failed f => [⟨place, .failed f⟩]

/-- `nodes` of values below a place, numbered from `k` on. -/
def nodesOfItems (place : List Nat) (k : Nat) : List (Rendered ι) → List (Node ι)
  | [] => []
  | item :: rest => nodes (place ++ [k]) item ++ nodesOfItems place (k + 1) rest

/-- `nodes` of named values below a place, numbered from `k` on. -/
def nodesOfFields (place : List Nat) (k : Nat) : List (String × Rendered ι) → List (Node ι)
  | [] => []
  | (_, value) :: rest => nodes (place ++ [k]) value ++ nodesOfFields place (k + 1) rest

end

/-- The nodes of some values in the order in which they are written. -/
def document (rs : List (Rendered ι)) : List (Node ι) :=
  nodesOfItems [] 0 rs

theorem nodesOfFields_eq (place : List Nat) : ∀ (k : Nat) (fields : List (String × Rendered ι)),
    nodesOfFields place k fields = nodesOfItems place k (fields.map (·.2))
  | _, [] => rfl
  | k, (_, value) :: rest => by
    simp only [nodesOfFields, nodesOfItems, List.map_cons, nodesOfFields_eq place (k + 1) rest]

/-- A value comes before its children. -/
theorem nodes_eq (place : List Nat) (r : Rendered ι) :
    nodes place r = ⟨place, r⟩ :: nodesOfItems place 0 r.children := by
  cases r with
  | object id typeName body =>
    cases body with
    | record fields => simp only [nodes, nodesOfFields_eq, children, body?, Shape.children]
    | sequence items => simp only [nodes, children, body?, Shape.children]
    | mapping entries => simp only [nodes, nodesOfFields_eq, children, body?, Shape.children]
  | _ => simp only [nodes, children, body?, nodesOfItems]

theorem mem_nodes_self (place : List Nat) (r : Rendered ι) : ⟨place, r⟩ ∈ nodes place r := by
  rw [nodes_eq]
  exact List.mem_cons_self

theorem mem_nodesOfItems (place : List Nat) : ∀ {k : Nat} {rs : List (Rendered ι)} {i : Nat}
    {r : Rendered ι}, rs[i]? = some r → ⟨place ++ [k + i], r⟩ ∈ nodesOfItems place k rs
  | _, [], _, _, h => by simp at h
  | k, first :: rest, 0, r, h => by
    obtain rfl : first = r := by simpa using h
    exact List.mem_append_left _ (mem_nodes_self _ _)
  | k, first :: rest, i + 1, r, h => by
    have hrest := mem_nodesOfItems place (k := k + 1) (show rest[i]? = some r by simpa using h)
    rw [show k + 1 + i = k + (i + 1) by omega] at hrest
    exact List.mem_append_right _ hrest

theorem mem_nodesOfItems_zero {place : List Nat} {id : ι} {typeName : String}
    {body : Shape (Rendered ι)} {k : Nat} {c : Rendered ι}
    (hc : (object id typeName body).children[k]? = some c) :
    ⟨place ++ [k], c⟩ ∈ nodesOfItems place 0 body.children := by
  have hk : ⟨place ++ [0 + k], c⟩ ∈ nodesOfItems place 0 body.children := mem_nodesOfItems place hc
  rwa [Nat.zero_add] at hk

/-! ### The children of a node

The nodes of a document are closed under going to a child. The recursion is on the
value whose nodes are listed, not on the node that is looked for. -/

mutual

theorem mem_nodes_child {n : Node ι} {k : Nat} {c : Rendered ι} (hc : n.value.children[k]? = some c) :
    ∀ {place : List Nat} {r : Rendered ι}, n ∈ nodes place r → ⟨n.place ++ [k], c⟩ ∈ nodes place r
  | place, .object id typeName (.record fields), hn => by
    simp only [nodes, List.mem_cons] at hn ⊢
    rcases hn with rfl | hn
    · rw [nodesOfFields_eq]
      exact Or.inr (mem_nodesOfItems_zero hc)
    · exact Or.inr (mem_nodesOfFields_child hc hn)
  | place, .object id typeName (.sequence items), hn => by
    simp only [nodes, List.mem_cons] at hn ⊢
    rcases hn with rfl | hn
    · exact Or.inr (mem_nodesOfItems_zero hc)
    · exact Or.inr (mem_nodesOfItems_child hc hn)
  | place, .object id typeName (.mapping entries), hn => by
    simp only [nodes, List.mem_cons] at hn ⊢
    rcases hn with rfl | hn
    · rw [nodesOfFields_eq]
      exact Or.inr (mem_nodesOfItems_zero hc)
    · exact Or.inr (mem_nodesOfFields_child hc hn)
  | place, .scalar s, hn => by
    obtain rfl : n = ⟨place, .scalar s⟩ := by simpa [nodes] using hn
    simp [children, body?] at hc
  | place, .reference id, hn => by
    obtain rfl : n = ⟨place, .reference id⟩ := by simpa [nodes] using hn
    simp [children, body?] at hc
  | place, .failed f, hn => by
    obtain rfl : n = ⟨place, .failed f⟩ := by simpa [nodes] using hn
    simp [children, body?] at hc

theorem mem_nodesOfItems_child {n : Node ι} {k : Nat} {c : Rendered ι}
    (hc : n.value.children[k]? = some c) : ∀ {place : List Nat} {i : Nat} {rs : List (Rendered ι)},
    n ∈ nodesOfItems place i rs → ⟨n.place ++ [k], c⟩ ∈ nodesOfItems place i rs
  | _, _, [], hn => by simp [nodesOfItems] at hn
  | place, i, r :: rest, hn => by
    rcases List.mem_append.1 hn with hn | hn
    · exact List.mem_append_left _ (mem_nodes_child hc hn)
    · exact List.mem_append_right _ (mem_nodesOfItems_child hc hn)

theorem mem_nodesOfFields_child {n : Node ι} {k : Nat} {c : Rendered ι}
    (hc : n.value.children[k]? = some c) :
    ∀ {place : List Nat} {i : Nat} {fields : List (String × Rendered ι)},
    n ∈ nodesOfFields place i fields → ⟨n.place ++ [k], c⟩ ∈ nodesOfFields place i fields
  | _, _, [], hn => by simp [nodesOfFields] at hn
  | place, i, (_, r) :: rest, hn => by
    rcases List.mem_append.1 hn with hn | hn
    · exact List.mem_append_left _ (mem_nodes_child hc hn)
    · exact List.mem_append_right _ (mem_nodesOfFields_child hc hn)

end

/-! ### What opened before -/

/-- The identities of the objects among some nodes, in order. -/
def openedIn (ns : List (Node ι)) : List ι :=
  ns.filterMap (·.value.opens?)

theorem mem_openedIn {ns : List (Node ι)} {id : ι} :
    id ∈ openedIn ns ↔ ∃ n ∈ ns, n.value.opens? = some id :=
  List.mem_filterMap

/-- `P` holds of every node with the identities opened before it, latest first, of
which there were `seen` at the start. -/
def Along (P : List ι → Node ι → Prop) : List ι → List (Node ι) → Prop
  | _, [] => True
  | seen, n :: rest => P seen n ∧ Along P (n.value.opens?.toList ++ seen) rest

theorem along_append {P : List ι → Node ι → Prop} : ∀ {seen : List ι} {before after : List (Node ι)},
    Along P seen (before ++ after) ↔
      Along P seen before ∧ Along P ((openedIn before).reverse ++ seen) after
  | seen, [], after => by simp [Along, openedIn]
  | seen, n :: before, after => by
    have hseen : (openedIn (n :: before)).reverse ++ seen =
        (openedIn before).reverse ++ (n.value.opens?.toList ++ seen) := by
      cases h : n.value.opens? <;> simp [openedIn, h]
    simp only [Along, List.cons_append, along_append, hseen, and_assoc]

/-- What holds along a document holds of each node with what opened before it. -/
theorem Along.of_split {P : List ι → Node ι → Prop} {ns before after : List (Node ι)} {n : Node ι}
    (h : Along P [] ns) (hns : ns = before ++ n :: after) : P (openedIn before).reverse n := by
  subst hns
  have hafter := (along_append.1 h).2
  rw [List.append_nil] at hafter
  exact hafter.1

theorem Along.imp {P Q : List ι → Node ι → Prop} (hPQ : ∀ seen n, P seen n → Q seen n) :
    ∀ {seen : List ι} {ns : List (Node ι)}, Along P seen ns → Along Q seen ns
  | _, [], _ => trivial
  | _, _ :: _, h => ⟨hPQ _ _ h.1, Along.imp hPQ h.2⟩

end Rendered
end CallChain
