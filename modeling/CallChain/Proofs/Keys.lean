/-
# The keys of an artifact

Which keys come together in one object of an artifact. The fields of a record are written
beside the tags `@id` and `@type`, the entries of a mapping in an object of their own, and
nothing else has names that the host chooses. So, where the fields of each record and the
keys of each mapping are pairwise different, a key is repeated exactly if a field has the
name of a tag. As long as no field has, whoever looks up the tags of an object finds its
identity and its type name.

A reader that keeps one value for each key may keep any of those that the text has under it
(`Json.KeepsOne`), so nothing depends on whether the first or the last one wins.

The objects of a laid out value are listed node by node (`objects_layout`); what a node adds
by itself (`ownObjects`) is all that has to be looked at.

Key definitions: `Json.objects`, `Json.DistinctKeys`, `Json.KeepsOne`, `Rendered.NamesApart`,
`Rendered.LeavesTags`.
Key theorems: `Rendered.objects_layout`, `Rendered.distinct_ownObjects_iff`,
`Rendered.distinctKeys_iff`, `Rendered.field_over_tag`.
-/
import CallChain.Proofs.Document
import CallChain.Proofs.Lossless

namespace CallChain

namespace Json

mutual

/-- The objects in a tree, each as its pairs, in the order in which they open. -/
def objects : Json → List (List (String × Json))
  | .array items => objectsOfItems items
  | .object pairs => pairs :: objectsOfPairs pairs
  | _ => []

/-- `objects` of the items of an array. -/
def objectsOfItems : List Json → List (List (String × Json))
  | [] => []
  | item :: rest => item.objects ++ objectsOfItems rest

/-- `objects` of the pairs of an object. -/
def objectsOfPairs : List (String × Json) → List (List (String × Json))
  | [] => []
  | (_, value) :: rest => value.objects ++ objectsOfPairs rest

end

/-- No object in a tree repeats a key. -/
def DistinctKeys (j : Json) : Prop :=
  ∀ pairs ∈ j.objects, (pairs.map (·.1)).Nodup

/-- To look up a key gives one of the values under it, if there are any. -/
structure KeepsOne (look : List (String × Json) → String → Option Json) : Prop where
  kept : ∀ {pairs : List (String × Json)} {key : String} {value : Json}, look pairs key = some value →
    (key, value) ∈ pairs
  found : ∀ {pairs : List (String × Json)} {key : String} {value : Json}, (key, value) ∈ pairs →
    (look pairs key).isSome

/-- What is found under a key with one value is that value. -/
theorem KeepsOne.look_eq {look : List (String × Json) → String → Option Json} (h : KeepsOne look)
    {pairs : List (String × Json)} {key : String} {value : Json} (hmem : (key, value) ∈ pairs)
    (hone : ∀ other, (key, other) ∈ pairs → other = value) : look pairs key = some value := by
  obtain ⟨other, hother⟩ := Option.isSome_iff_exists.1 (h.found hmem)
  rw [hother, hone other (h.kept hother)]

/-- The value that was written last under a key. -/
def last (pairs : List (String × Json)) (key : String) : Option Json :=
  pairs.reverse.lookup key

theorem keepsOne_last : KeepsOne last where
  kept {pairs key value} h := by
    obtain ⟨before, after, heq, -⟩ := List.lookup_eq_some_iff.1 h
    exact List.mem_reverse.1 (heq ▸ List.mem_append_right _ List.mem_cons_self)
  found {pairs key value} h := by
    rw [Option.isSome_iff_ne_none]
    intro hnone
    have hdifferent := List.lookup_eq_none_iff.1 hnone (key, value) (List.mem_reverse.2 h)
    simp at hdifferent

end Json

namespace Rendered

/-- The names that the host chose within an object are pairwise different. -/
def NamesApart (r : Rendered Nat) : Prop :=
  ∀ body, r.body? = some body → body.names.Nodup

/-- No field of a record has the name of a tag. -/
def LeavesTags (r : Rendered Nat) : Prop :=
  ∀ fields, r.body? = some (.record fields) → "@id" ∉ fields.map (·.1) ∧ "@type" ∉ fields.map (·.1)

/-! ### The objects of a value, node by node -/

/-- The pairs of an object: its tags, and what the body adds. -/
def tagged (id : Nat) (typeName : String) (others : List (String × Json)) : List (String × Json) :=
  ("@id", identityLayout id) :: ("@type", .string typeName) :: others

/-- What the body of an object adds to its tags. -/
def bodyPairs : Shape (Rendered Nat) → List (String × Json)
  | .record fields => layoutFields fields
  | .sequence items => [("@items", .array (layoutItems items))]
  | .mapping entries => [("@entries", .object (layoutFields entries))]

/-- The entries of a mapping are an object of their own. -/
def entryObjects : Shape (Rendered Nat) → List (List (String × Json))
  | .mapping entries => [layoutFields entries]
  | _ => []

/-- The objects that a value is laid out as, without those of its children. -/
def ownObjects : Rendered Nat → List (List (String × Json))
  | .scalar _ => []
  | .object id typeName body => tagged id typeName (bodyPairs body) :: entryObjects body
  | .reference id => [[("@ref", identityLayout id)]]
  | .failed f => [[("@error", .object [("kind", .string f.kind), ("message", .string f.message)])],
      [("kind", .string f.kind), ("message", .string f.message)]]

theorem layout_object (id : Nat) (typeName : String) (body : Shape (Rendered Nat)) :
    (Rendered.object id typeName body).layout = .object (tagged id typeName (bodyPairs body)) := by
  cases body <;> rfl

/-- The tags themselves hold no objects. -/
theorem objects_tagged (id : Nat) (typeName : String) (others : List (String × Json)) :
    (Json.object (tagged id typeName others)).objects = tagged id typeName others :: Json.objectsOfPairs others :=
  rfl

theorem objects_scalar (s : Scalar) : s.layout.objects = [] := by
  rcases s.layout_cases with h | ⟨b, h⟩ | ⟨t, -, h⟩ | ⟨x, h⟩ <;> rw [h] <;> rfl

mutual

/-- The objects of a laid out value are those of its nodes. -/
theorem objects_layout : ∀ (place : List Nat) (r : Rendered Nat),
    r.layout.objects = (nodes place r).flatMap fun n => n.value.ownObjects
  | place, .scalar s => by
    simp only [layout, objects_scalar, nodes, List.flatMap_singleton, ownObjects]
  | place, .object id typeName (.record fields) => by
    have hfields := objects_layoutFields place 0 fields
    simp only [layout_object, objects_tagged, bodyPairs, nodes, List.flatMap_cons, ownObjects, entryObjects,
      List.singleton_append, hfields]
  | place, .object id typeName (.sequence items) => by
    have hitems := objects_layoutItems place 0 items
    simp only [layout_object, objects_tagged, bodyPairs, Json.objectsOfPairs, Json.objects, List.append_nil,
      nodes, List.flatMap_cons, ownObjects, entryObjects, List.singleton_append, hitems]
  | place, .object id typeName (.mapping entries) => by
    have hentries := objects_layoutFields place 0 entries
    simp only [layout_object, objects_tagged, bodyPairs, Json.objectsOfPairs, Json.objects, List.append_nil,
      nodes, List.flatMap_cons, ownObjects, entryObjects, List.cons_append, List.nil_append, hentries]
  | place, .reference id => by
    simp only [layout, Json.objects, Json.objectsOfPairs, identityLayout, List.nil_append, nodes,
      List.flatMap_singleton, ownObjects]
  | place, .failed f => by
    simp only [layout, Failure.layout, Json.objects, Json.objectsOfPairs, List.append_nil, nodes,
      List.flatMap_singleton, ownObjects]

theorem objects_layoutItems : ∀ (place : List Nat) (k : Nat) (items : List (Rendered Nat)),
    Json.objectsOfItems (layoutItems items) = (nodesOfItems place k items).flatMap fun n => n.value.ownObjects
  | _, _, [] => rfl
  | place, k, item :: rest => by
    rw [layoutItems, Json.objectsOfItems, nodesOfItems, List.flatMap_append, ← objects_layout,
      ← objects_layoutItems]

theorem objects_layoutFields : ∀ (place : List Nat) (k : Nat) (fields : List (String × Rendered Nat)),
    Json.objectsOfPairs (layoutFields fields) = (nodesOfFields place k fields).flatMap fun n => n.value.ownObjects
  | _, _, [] => rfl
  | place, k, (name, value) :: rest => by
    rw [layoutFields, Json.objectsOfPairs, nodesOfFields, List.flatMap_append, ← objects_layout,
      ← objects_layoutFields]

end

/-! ### The keys of one node -/

/-- None of some pairs has the key of a tag. -/
def Untagged (pairs : List (String × Json)) : Prop :=
  "@id" ∉ pairs.map (·.1) ∧ "@type" ∉ pairs.map (·.1)

theorem nodup_tagged {id : Nat} {typeName : String} {others : List (String × Json)} :
    ((tagged id typeName others).map (·.1)).Nodup ↔ Untagged others ∧ (others.map (·.1)).Nodup := by
  simp only [tagged, Untagged, List.map_cons, List.nodup_cons, List.mem_cons, not_or]
  constructor
  · exact fun h => ⟨⟨h.1.2, h.2.1⟩, h.2.2⟩
  · exact fun h => ⟨⟨by simp, h.1.1⟩, h.1.2, h.2⟩

/-- Under the tags of an object are its identity and its type name. -/
theorem look_tagged {look : List (String × Json) → String → Option Json} (hlook : Json.KeepsOne look) {id : Nat}
    {typeName : String} {others : List (String × Json)} (h : Untagged others) :
    look (tagged id typeName others) "@id" = some (identityLayout id) ∧
      look (tagged id typeName others) "@type" = some (.string typeName) := by
  have hothers : ∀ {key : String} {value : Json}, (key, value) ∈ others → key ∈ others.map (·.1) :=
    fun hmem => List.mem_map_of_mem hmem
  constructor
  · refine hlook.look_eq List.mem_cons_self fun other hother => ?_
    rcases List.mem_cons.1 hother with heq | hother
    · exact (Prod.mk.inj heq).2
    · rcases List.mem_cons.1 hother with heq | hother
      · simp at heq
      · exact absurd (hothers hother) h.1
  · refine hlook.look_eq (List.mem_cons_of_mem _ List.mem_cons_self) fun other hother => ?_
    rcases List.mem_cons.1 hother with heq | hother
    · simp at heq
    · rcases List.mem_cons.1 hother with heq | hother
      · exact (Prod.mk.inj heq).2
      · exact absurd (hothers hother) h.2

/-- Only a field can have the key of a tag. -/
theorem untagged_bodyPairs_iff {id : Nat} {typeName : String} {body : Shape (Rendered Nat)} :
    Untagged (bodyPairs body) ↔ (Rendered.object id typeName body).LeavesTags := by
  cases body with
  | record fields =>
    rw [Untagged, bodyPairs, layoutFields_names]
    exact ⟨fun h others hothers => by cases hothers; exact h, fun h => h fields rfl⟩
  | sequence items => exact ⟨fun _ => nofun, fun _ => by simp [Untagged, bodyPairs]⟩
  | mapping entries => exact ⟨fun _ => nofun, fun _ => by simp [Untagged, bodyPairs]⟩

/-- A body with different names adds different keys, and so do its entries by themselves. -/
theorem nodup_bodyPairs {body : Shape (Rendered Nat)} (h : body.names.Nodup) :
    ((bodyPairs body).map (·.1)).Nodup ∧ ∀ pairs ∈ entryObjects body, (pairs.map (·.1)).Nodup := by
  cases body with
  | record fields =>
    rw [bodyPairs, layoutFields_names]
    exact ⟨h, nofun⟩
  | sequence items => exact ⟨by simp [bodyPairs], nofun⟩
  | mapping entries =>
    rw [entryObjects, List.forall_mem_singleton, layoutFields_names]
    exact ⟨by simp [bodyPairs], h⟩

/-- A node repeats a key exactly if a field has the name of a tag. -/
theorem distinct_ownObjects_iff {r : Rendered Nat} (h : r.NamesApart) :
    (∀ pairs ∈ r.ownObjects, (pairs.map (·.1)).Nodup) ↔ r.LeavesTags := by
  cases r with
  | scalar s => exact ⟨fun _ => nofun, fun _ => nofun⟩
  | object id typeName body =>
    obtain ⟨hbody, hentries⟩ := nodup_bodyPairs (h body rfl)
    rw [ownObjects, List.forall_mem_cons, nodup_tagged, @untagged_bodyPairs_iff id typeName body]
    exact ⟨fun hdistinct => hdistinct.1.1, fun hleaves => ⟨⟨hleaves, hbody⟩, hentries⟩⟩
  | reference id => exact ⟨fun _ => nofun, fun _ => by simp [ownObjects]⟩
  | failed f => exact ⟨fun _ => nofun, fun _ => by simp [ownObjects]⟩

/-! ### The keys of a value -/

/-- **A key is repeated exactly if a field has the name of a tag.** Let the names within each
object of a value be pairwise different. The text of the value is read as a tree in which
all objects have pairwise different keys, unless some record has a field `@id` or `@type`.
Whichever value is kept of those under one key, under the tags of an object without such a
field its identity and its type name are found. -/
theorem distinctKeys_iff (r : Rendered Nat) (hapart : ∀ n ∈ document [r], n.value.NamesApart) :
    ∃ tree, Json.read r.layout.text = some tree ∧
      (tree.DistinctKeys ↔ ∀ n ∈ document [r], n.value.LeavesTags) ∧
      ∀ look, Json.KeepsOne look → ∀ n ∈ document [r], ∀ id typeName body,
        n.value = .object id typeName body → n.value.LeavesTags →
        ∃ pairs ∈ tree.objects, n.value.layout = .object pairs ∧
          look pairs "@id" = some (identityLayout id) ∧ look pairs "@type" = some (.string typeName) := by
  have hobjects : r.layout.objects = (document [r]).flatMap fun n => n.value.ownObjects := by
    simpa [document, nodesOfItems] using objects_layout [0] r
  refine ⟨r.layout, Json.read_text r.layout_spelled, ?_, fun look hlook n hn id typeName body hbody hleaves => ?_⟩
  · rw [Json.DistinctKeys, hobjects]
    simp only [List.mem_flatMap, forall_exists_index, and_imp]
    constructor
    · exact fun hdistinct n hn => (distinct_ownObjects_iff (hapart n hn)).1 fun pairs => hdistinct pairs n hn
    · exact fun hleaves pairs n hn => (distinct_ownObjects_iff (hapart n hn)).2 (hleaves n hn) pairs
  · have hown : tagged id typeName (bodyPairs body) ∈ n.value.ownObjects := hbody ▸ List.mem_cons_self
    rw [hbody] at hleaves ⊢
    exact ⟨_, hobjects ▸ List.mem_flatMap.2 ⟨n, hn, hown⟩, layout_object id typeName body,
      look_tagged hlook (untagged_bodyPairs_iff.2 hleaves)⟩

/-- A record with two fields, one of which holds a mapping with the keys of the tags. -/
def album : Rendered Nat :=
  .object 1 "Album" (.record [("title", .scalar (.str "Kind")),
    ("ids", .object 2 "Map" (.mapping [("@id", .reference 1), ("@type", .scalar .null)]))])

/-- Keys of a mapping do no harm: the album is read with its own tags, also if the last value
under a key wins. -/
theorem album_tags : ∃ tree, Json.read album.layout.text = some tree ∧ tree.DistinctKeys ∧
    ∃ pairs ∈ tree.objects, album.layout = .object pairs ∧
      Json.last pairs "@id" = some (identityLayout 1) ∧ Json.last pairs "@type" = some (.string "Album") := by
  have hdocument : ∀ n ∈ document [album], n.value.NamesApart ∧ n.value.LeavesTags := by
    simp [document, nodesOfItems, nodes, nodesOfFields, album, NamesApart, LeavesTags, body?, Shape.names]
  have hself : ⟨[0], album⟩ ∈ document [album] := mem_nodesOfItems [] (k := 0) (i := 0) rfl
  obtain ⟨tree, hread, hdistinct, hlook⟩ := distinctKeys_iff album fun n hn => (hdocument n hn).1
  refine ⟨tree, hread, hdistinct.2 fun n hn => (hdocument n hn).2, ?_⟩
  exact hlook Json.last Json.keepsOne_last _ hself _ _ _ rfl (hdocument _ hself).2

/-- A record whose only field has the name of a tag. -/
def badge : Rendered Nat :=
  .object 1 "T" (.record [("@id", .scalar (.int 7))])

/-- The field stands over the tag: the text has the key twice, and the value that wins is that
of the host. -/
theorem field_over_tag : (∀ n ∈ document [badge], n.value.NamesApart) ∧
    badge.layout.text = "\x7b\"@id\":1,\"@type\":\"T\",\"@id\":7\x7d" ∧
    ∃ tree, Json.read badge.layout.text = some tree ∧ ¬ tree.DistinctKeys ∧
      ∃ pairs, tree = .object pairs ∧ Json.last pairs "@id" = some (.number ['7']) := by
  have hnames : ∀ n ∈ document [badge], n.value.NamesApart := by
    simp [document, nodesOfItems, nodes, nodesOfFields, badge, NamesApart, body?, Shape.names]
  have hrepeats : ¬ badge.layout.DistinctKeys := fun h =>
    absurd (h _ List.mem_cons_self) (by decide +kernel)
  exact ⟨hnames, by decide +kernel, badge.layout, Json.read_text badge.layout_spelled, hrepeats, _, rfl, rfl⟩

end Rendered
end CallChain
