/-
# The identity registry

The registry gives objects their identities: 1, 2, 3, … in the order in which it
first sees them. It looks an object up by its address and holds it weakly: a slot
remembers whose it is but does not keep its owner alive. A slot goes away only
when the registry is purged after its owner died; an identity is never used
again. That no two slots share an address or an identity, and that every identity
is at least 1 and was given out before, is part of the type.

Key definitions: `Slot`, `Registry`, `Registry.idOf`, `Registry.get?`,
`Registry.purge`.
Key theorems: `Registry.idOf_of_get?`, `Registry.get?_idOf`,
`Registry.slots_purge`.
-/
import CallChain.Value.Basic

namespace CallChain

/-- The identity of what is no object. No object has it. -/
def nullIdentity : Nat := 0

/-- One registered object: where it lies, which object it is, and its identity. -/
structure Slot where
  address : Nat
  owner : Nat
  id : Nat
deriving DecidableEq

/-- The registered objects and the identity that the next one gets. -/
structure Registry where
  slots : List Slot
  next : Nat
  next_pos : 0 < next
  id_bounds : ∀ s ∈ slots, 0 < s.id ∧ s.id < next
  ids_nodup : (slots.map Slot.id).Nodup
  addresses_nodup : (slots.map Slot.address).Nodup

namespace Registry

/-- Nothing has been registered. -/
def empty : Registry where
  slots := []
  next := nullIdentity + 1
  next_pos := by decide
  id_bounds := by simp
  ids_nodup := by simp
  addresses_nodup := by simp

instance : Inhabited Registry := ⟨empty⟩

/-- The number of slots, those of dead objects included. -/
def size (r : Registry) : Nat :=
  r.slots.length

/-- The slot of an object. -/
def slot? (r : Registry) (o : ObjectRef) : Option Slot :=
  r.slots.find? (·.address = o.address)

/-- The identity of an object, if it has one already. -/
def get? (r : Registry) (o : ObjectRef) : Option Nat :=
  (r.slot? o).map Slot.id

/-- No slot of the registry lies where the object does. -/
theorem address_free {r : Registry} {o : ObjectRef} (h : r.slot? o = none) :
    o.address ∉ r.slots.map Slot.address := by
  simp only [slot?, List.find?_eq_none, decide_eq_true_eq] at h
  simp only [List.mem_map, not_exists, not_and]
  exact h

/-- The registry with a slot for an object that has none. -/
def register (r : Registry) (o : ObjectRef) (h : r.slot? o = none) : Registry where
  slots := r.slots ++ [⟨o.address, o.serial, r.next⟩]
  next := r.next + 1
  next_pos := Nat.succ_pos _
  id_bounds := by
    intro s hs
    have hpos := r.next_pos
    rcases List.mem_append.1 hs with hs | hs
    · have := r.id_bounds s hs
      omega
    · rw [List.mem_singleton.1 hs]
      exact ⟨hpos, Nat.lt_succ_self _⟩
  ids_nodup := by
    rw [List.map_append, List.nodup_append]
    refine ⟨r.ids_nodup, by simp, ?_⟩
    intro a ha b hb
    obtain ⟨s, hs, rfl⟩ := List.mem_map.1 ha
    have := (r.id_bounds s hs).2
    simp only [List.map_cons, List.map_nil, List.mem_singleton] at hb
    omega
  addresses_nodup := by
    rw [List.map_append, List.nodup_append]
    refine ⟨r.addresses_nodup, by simp, ?_⟩
    intro a ha b hb hab
    simp only [List.map_cons, List.map_nil, List.mem_singleton] at hb
    exact address_free h (by rw [← hb, ← hab]; exact ha)

/-- The identity of an object, which is the next one when it is first seen. -/
def idOf (r : Registry) (o : ObjectRef) : Nat × Registry :=
  match h : r.slot? o with
  | some slot => (slot.id, r)
  | none => (r.next, r.register o h)

/-- Releases the slots whose owner is not alive, and tells how many those were. -/
def purge (r : Registry) (alive : Nat → Bool) : Nat × Registry :=
  let kept := r.slots.filter (alive ·.owner)
  (r.slots.length - kept.length,
    { slots := kept
      next := r.next
      next_pos := r.next_pos
      id_bounds := fun s hs => r.id_bounds s (List.mem_filter.1 hs).1
      ids_nodup := r.ids_nodup.sublist (List.filter_sublist.map _)
      addresses_nodup := r.addresses_nodup.sublist (List.filter_sublist.map _) })

/-- Whether an address is reserved by a slot. -/
def reserves (r : Registry) (address : Nat) : Bool :=
  r.slots.any (·.address = address)

/-! ### What the operations do -/

theorem idOf_of_get? {r : Registry} {o : ObjectRef} {id : Nat} (h : r.get? o = some id) :
    r.idOf o = (id, r) := by
  obtain ⟨slot, hslot, rfl⟩ := Option.map_eq_some_iff.1 h
  unfold idOf
  split
  · rename_i s hs
    rw [hslot] at hs
    cases hs
    rfl
  · rename_i hs
    rw [hslot] at hs
    cases hs

theorem idOf_of_get?_none {r : Registry} {o : ObjectRef} (h : r.get? o = none) :
    (r.idOf o).1 = r.next ∧ (r.idOf o).2.next = r.next + 1 ∧
      (r.idOf o).2.slots = r.slots ++ [⟨o.address, o.serial, r.next⟩] := by
  have hnone : r.slot? o = none := Option.map_eq_none_iff.1 h
  unfold idOf
  split
  · rename_i s hs
    rw [hnone] at hs
    cases hs
  · exact ⟨rfl, rfl, rfl⟩

/-- Once asked for, an identity is held. -/
theorem get?_idOf (r : Registry) (o : ObjectRef) : (r.idOf o).2.get? o = some (r.idOf o).1 := by
  cases h : r.get? o with
  | some id => rw [idOf_of_get? h]; exact h
  | none =>
    obtain ⟨h1, -, h3⟩ := idOf_of_get?_none h
    have hnone : r.slots.find? (·.address = o.address) = none := Option.map_eq_none_iff.1 h
    simp [get?, slot?, h1, h3, List.find?_append, hnone]

theorem slots_purge (r : Registry) (alive : Nat → Bool) :
    (r.purge alive).2.slots = r.slots.filter (alive ·.owner) := rfl

theorem next_purge (r : Registry) (alive : Nat → Bool) : (r.purge alive).2.next = r.next := rfl

end Registry

end CallChain
