/-
# Canonical numbering

On a registry that never gave out an identity, a pass numbers the objects that it shows 1, 2,
3, … in the order of the document, provided that every object it met could be shown. So two
runs of a program have the same artifact, whatever else differs between them.

An object gets its identity when it is met, and it opens at once if it can be shown. So the
identities that are open are always those that were given out (`Pass.Numbered`): an object
whose identity was given before is open and is referred to, and any other one gets the next
identity. That needs neither that objects answer the same again nor that they were there
when the pass began, only that nobody else names or releases anything meanwhile. An object
that cannot be shown keeps its identity without opening, and leaves a gap.

Key definitions: `Surroundings.Counts`, `Pass.Numbered`, `Registry.Full`.
Key theorems: `Pass.Renders.numbered`, `Registry.Full.idOf`, `Host.canonical_numbering`.
-/
import CallChain.Proofs.Askings

namespace CallChain

open Rendered

variable {σ H α : Type}

/-! ### Identities by number -/

/-- Surroundings count the identities that they give out: each is one of the first so many or
the next one, and to ask an object gives out none. -/
structure Surroundings.Counts (env : Surroundings σ Nat) (Good : List ObjectRef → σ → Prop) (count : σ → Nat) :
    Prop where
  tag : ∀ {held : List ObjectRef} {o : ObjectRef} {id : Nat} {s t : σ}, o ∈ held → Good held s →
    env.tag o s = (id, t) →
    (id ∈ List.range' 1 (count s) ∧ count t = count s) ∨ (id = count s + 1 ∧ count t = count s + 1)
  ask : ∀ {held : List ObjectRef} {o : ObjectRef} {answer : Answer} {s t : σ}, o ∈ held → Good held s →
    env.ask held o s = (answer, t) → count t = count s

namespace Pass

/-- The identities that are open, in the order in which they opened, are all that were given
out. -/
def Numbered (count : σ → Nat) (p : Pass σ Nat) : Prop :=
  p.opened.reverse = List.range' 1 (count p.state)

variable {env : Surroundings σ Nat} {Good : List ObjectRef → σ → Prop} {count : σ → Nat}

theorem Numbered.mem_opened_iff {p : Pass σ Nat} (h : Numbered count p) {id : Nat} :
    id ∈ p.opened ↔ id ∈ List.range' 1 (count p.state) := by
  rw [← List.mem_reverse, h]

theorem Numbered.congr {p : Pass σ Nat} (h : Numbered count p) {s : σ} (hs : count s = count p.state) :
    Numbered count ⟨s, p.opened⟩ :=
  h.trans (congrArg (List.range' 1) hs.symm)

/-- An object that is open has been named before. -/
theorem Numbered.old (hc : env.Counts Good count) {p : Pass σ Nat} (h : Numbered count p)
    {held : List ObjectRef} {o : ObjectRef} {id : Nat} {tagged : σ} (good : Good held p.state) (mem : o ∈ held)
    (tag : env.tag o p.state = (id, tagged)) (old : id ∈ p.opened) : Numbered count ⟨tagged, p.opened⟩ := by
  rcases hc.tag mem good tag with ⟨-, hcount⟩ | ⟨rfl, -⟩
  · exact h.congr hcount
  · rw [h.mem_opened_iff, List.mem_range'_1] at old
    omega

/-- An object that is not open gets the next identity, and opens with it. -/
theorem Numbered.new (hc : env.Counts Good count) {p : Pass σ Nat} (h : Numbered count p)
    {held : List ObjectRef} {o : ObjectRef} {id : Nat} {tagged : σ} (good : Good held p.state) (mem : o ∈ held)
    (tag : env.tag o p.state = (id, tagged)) (new : id ∉ p.opened) : Numbered count ⟨tagged, id :: p.opened⟩ := by
  rcases hc.tag mem good tag with ⟨hid, -⟩ | ⟨rfl, hcount⟩
  · exact absurd (h.mem_opened_iff.2 hid) new
  · show ((count p.state + 1) :: p.opened).reverse = List.range' 1 (count tagged)
    rw [List.reverse_cons, h, hcount, List.range'_1_concat, Nat.add_comm 1]

/-- As long as nothing fails, what is open is what was given out. -/
theorem Renders.numbered (hk : env.Keeps Good) (hc : env.Counts Good count) {room : Nat} {vs : List Value}
    {p q : Pass σ Nat} {rs : List (Rendered Nat)} (h : Renders env Good room vs p rs q) :
    ∀ (place : List Nat) (k : Nat), (∀ n ∈ nodesOfItems place k rs, ∀ f, n.value ≠ .failed f) →
      Numbered count p → Numbered count q := by
  induction h with
  | nil => exact fun _ _ _ hp => hp
  | scalar _ ih =>
    intro place k hwhole hp
    exact ih place (k + 1) (fun n hn => hwhole n (List.mem_append_right _ hn)) hp
  | reference good mem tag old _ ih =>
    intro place k hwhole hp
    exact ih place (k + 1) (fun n hn => hwhole n (List.mem_append_right _ hn)) (hp.old hc good mem tag old)
  | tooDeep good mem tag new _ _ =>
    intro place k hwhole _
    exact absurd rfl (hwhole _ (List.mem_append_left _ (mem_nodes_self _ _)) _)
  | failed good mem tag new ask failure _ _ =>
    intro place k hwhole _
    exact absurd rfl (hwhole _ (List.mem_append_left _ (mem_nodes_self _ _)) _)
  | object good mem tag new ask outline _ _ ihinside ihrest =>
    intro place k hwhole hp
    have hopened := hp.new hc good mem tag new
    have htagged := hk.of_tag mem good tag
    refine ihrest place (k + 1) (fun n hn => hwhole n (List.mem_append_right _ hn)) ?_
    refine ihinside (place ++ [k]) 0 (fun n hn => hwhole n (List.mem_append_left _ ?_))
      (hopened.congr (hc.ask mem htagged ask))
    rw [nodes_eq]
    exact List.mem_cons_of_mem _ hn

end Pass

/-! ### A registry that has released nothing -/

/-- Every identity that the registry gave out still has a slot. -/
def Registry.Full (r : Registry) : Prop :=
  r.next = r.size + 1

/-- A full registry gives an identity that it gave before, or one more. -/
theorem Registry.Full.idOf {r : Registry} (h : r.Full) (o : ObjectRef) :
    (r.idOf o).2.Full ∧
      (((r.idOf o).1 ∈ List.range' 1 r.size ∧ (r.idOf o).2.size = r.size) ∨
        ((r.idOf o).1 = r.size + 1 ∧ (r.idOf o).2.size = r.size + 1)) := by
  unfold Full at h
  cases hget : r.get? o with
  | some id =>
    obtain ⟨slot, hslot, -, rfl⟩ := get?_eq_some_iff.1 hget
    have hbounds := r.id_bounds slot hslot
    rw [idOf_of_get? hget, List.mem_range'_1]
    exact ⟨h, .inl ⟨by omega, rfl⟩⟩
  | none =>
    obtain ⟨hid, hnext, hslots⟩ := idOf_of_get?_none hget
    have hsize : (r.idOf o).2.size = r.size + 1 := by
      rw [size, hslots, List.length_append]
      rfl
    refine ⟨?_, .inr ⟨hid.trans h, hsize⟩⟩
    rw [Full, hnext, hsize, h]

/-- A registry that never gave out an identity is full. -/
theorem Registry.full_of_next {r : Registry} (h : r.next = 1) : r.Full ∧ r.size = 0 := by
  have hnone : r.slots = [] := by
    refine List.eq_nil_iff_forall_not_mem.2 fun slot hslot => ?_
    have hbounds := r.id_bounds slot hslot
    omega
  have hsize : r.size = 0 := congrArg List.length hnone
  exact ⟨by rw [Full, h, hsize], hsize⟩

/-! ### Passes over objects that make no requests -/

/-- To ask an object that makes no requests leaves the registries alone. -/
theorem Host.Plain.registries_ask {D : Host H} (h : D.Plain) : ∀ (level : Nat) (held : List ObjectRef) (o : ObjectRef)
    (w : World H), (D.ask level held o w).2.registries = w.registries
  | 0, _, _, _ => rfl
  | level + 1, held, o, w =>
    (D.act_of_makes_none (D.ask level) held (D.describe held o) (w := w.note (.asked o)) (h held o)).1

/-- The registry is there, and still has all the slots that it ever had. -/
def World.Keeping (n : Nat) (w : World H) : Prop :=
  n < w.registries.length ∧ (w.registry n).Full

/-- To name objects releases nothing. -/
theorem World.Keeping.tag {n : Nat} {w : World H} (h : w.Keeping n) (o : ObjectRef) : (w.tag n o).2.Keeping n := by
  refine ⟨(length_registries_tag w n o).symm ▸ h.1, ?_⟩
  rw [registry_tag h.1, if_pos rfl]
  exact (h.2.idOf o).1

theorem World.registry_congr {w v : World H} (h : v.registries = w.registries) (n : Nat) :
    v.registry n = w.registry n := by
  rw [Moment.registry, Moment.registry, h]

theorem World.Keeping.congr {n : Nat} {w v : World H} (h : w.Keeping n) (hv : v.registries = w.registries) :
    v.Keeping n :=
  ⟨hv ▸ h.1, World.registry_congr hv n ▸ h.2⟩

namespace Host.Plain

variable {D : Host H}

theorem keeping (h : D.Plain) (level n : Nat) :
    (World.surroundings (D.ask level) n).Keeps fun _ w => w.Keeping n where
  fewer _ hw := hw
  tag _ hw := hw.tag _
  ask _ hw := hw.congr (h.registries_ask level _ _ _)
  shape _ hw _ := hw.congr (h.registries_ask level _ _ _)

/-- The slots of the registry tell how many identities there are. -/
theorem counts (h : D.Plain) (level n : Nat) :
    (World.surroundings (D.ask level) n).Counts (fun _ w => w.Keeping n) fun w => (w.registry n).size where
  tag {held o id w v} _ hw htag := by
    obtain ⟨rfl, rfl⟩ : (w.tag n o).1 = id ∧ (w.tag n o).2 = v := Prod.mk.inj htag
    have hregistry : (w.tag n o).2.registry n = ((w.registry n).idOf o).2 :=
      (World.registry_tag hw.1 o n).trans (if_pos rfl)
    rw [hregistry]
    exact (hw.2.idOf o).2
  ask {held o answer w v} _ _ hask := by
    have hregistries := h.registries_ask level held o w
    rw [show D.ask level held o w = (answer, v) from hask] at hregistries
    exact congrArg Registry.size (World.registry_congr hregistries n)

end Host.Plain

/-- **Objects are numbered in the order of the document.** On a registry that never gave out
an identity, a pass over any values is made, while the objects that are asked make no
requests, whatever else they do. If no node of the output is a failure, then the identities
of its objects, in the order in which they open, are 1, 2, …, up to the number of slots that
the registry has at the end, and every reference is to one of them. -/
theorem Host.canonical_numbering (D : Host H) (plain : D.Plain) (level s n : Nat) (w : World H)
    (held : List ObjectRef) (vs : List Value) (hs : w.registryOf? s = some n) (hn : n < w.registries.length)
    (hfresh : (w.registry n).next = 1) :
    let rs := (w.capture (D.ask level) held s vs).1
    let v := (w.capture (D.ask level) held s vs).2
    (∀ m ∈ document rs, ∀ f, m.value ≠ .failed f) →
      openedIn (document rs) = List.range' 1 (v.registry n).size ∧
        ∀ m ∈ document rs, ∀ id, m.value = .reference id → id ∈ List.range' 1 (v.registry n).size := by
  intro rs v hwhole
  obtain ⟨hfull, hempty⟩ := Registry.full_of_next hfresh
  let env := World.surroundings (D.ask level) n
  let pass := Pass.renderAll env held (vs.map w.grasp) ⟨w, []⟩
  have hcapture : rs = pass.1 ∧ v.registry n = pass.2.state.registry n := by
    simp only [rs, v, World.capture_of_registry hs]
    exact ⟨rfl, rfl⟩
  obtain ⟨hrs, hregistry⟩ := hcapture
  have hrenders := (Pass.renders_renderAll (plain.keeping level n) held (vs.map w.grasp) ⟨w, []⟩ ⟨hn, hfull⟩).1
  have hstart : Pass.Numbered (fun w : World H => (w.registry n).size) ⟨w, []⟩ := by
    show [] = List.range' 1 (w.registry n).size
    rw [hempty]
    rfl
  have hend := hrenders.numbered (plain.keeping level n) (plain.counts level n) [] 0 (hrs ▸ hwhole) hstart
  have hdepicts := Pass.depicts_renderAll env.keeps_any env.reports_any held (vs.map w.grasp) ⟨w, []⟩ trivial
  have hopened : openedIn (document rs) = List.range' 1 (v.registry n).size := by
    have hafter := (hdepicts.along (fun _ _ => True) (fun _ _ _ => trivial) [] 0 rfl fun _ _ _ => trivial).1
    rw [hregistry, hrs, ← hend, hafter, List.append_nil, List.reverse_reverse]
    rfl
  refine ⟨hopened, fun m hm id hid => ?_⟩
  obtain ⟨before, rest, hsplit⟩ := List.append_of_mem hm
  obtain ⟨place, value⟩ := m
  obtain rfl : value = .reference id := hid
  obtain ⟨target, htarget, hopens⟩ := hdepicts.resolved.earlier before rest place id (hrs ▸ hsplit)
  rw [← hopened, mem_openedIn, hsplit]
  exact ⟨target, List.mem_append_left _ htarget, hopens⟩

/-- The cells are numbered 1 and 2, and the first one is referred to. -/
theorem cells_numbered :
    let rs := (cellsWorld.capture (cellsHost.ask 1) [] 0 [.object (cell 0), .object (cell 1)]).1
    openedIn (document rs) = [1, 2] ∧
      ∀ m ∈ document rs, ∀ id, m.value = .reference id → id ∈ List.range' 1 2 := by
  intro rs
  have hrs : rs = [.object 1 "Cell" (.record [("other", .object 2 "Cell" (.record [("other", .reference 1)]))]),
      .reference 2] := rfl
  have hwhole : ∀ m ∈ document rs, ∀ f, m.value ≠ .failed f := by
    simp [hrs, document, nodesOfItems, nodes, nodesOfFields]
  exact Host.canonical_numbering cellsHost (fun _ _ => trivial) 1 0 0 cellsWorld [] _ rfl (by decide) rfl hwhole

end CallChain
