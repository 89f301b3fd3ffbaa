/-
# What is captured is what is there

While a graph of objects stands still, a capture is a picture of it. An object stands
still if it calls nothing while it is asked and always gives the same answer; it may
work on the state of the host, as long as that stays within what its answers allow. Then
all that a pass changes in the world are the registry and the journal, and a registry
only adds names: whoever was named in the pass has the same name at its end.

Key definitions: `Activity.Quiet`, `Host.Still`.
Key theorems: `Activity.Quiet.run_eq`, `Host.Still.pictures_capture`, `Host.faithful_capture`.
-/
import CallChain.Proofs.Accounts
import CallChain.Proofs.Graph

namespace CallChain

open Rendered

variable {H α : Type}

/-- A program calls nothing, keeps the state of the host steady and ends with a result. -/
inductive Activity.Quiet (steady : H → Prop) (result : α) : Activity H α → Prop
  | done : Quiet steady result (.done result)
  | host {change : H → H} {next : H → Activity H α} (keeps : ∀ h, steady h → steady (change h))
      (after : ∀ h, steady h → Quiet steady result (next h)) : Quiet steady result (.host change next)

/-- A quiet program changes nothing but the state of the host. -/
theorem Activity.Quiet.run_eq {steady : H → Prop} {result : α} {a : Activity H α} (h : a.Quiet steady result)
    (sweep : World H → World H) (serve : (r : Request) → World H → r.Reply × World H) {w : World H}
    (hw : steady w.host) :
    ∃ state, steady state ∧ a.run sweep serve w = (result, { w with host := state }) := by
  induction h generalizing w with
  | done => exact ⟨w.host, hw, rfl⟩
  | host keeps after ih => exact ih _ (keeps _ hw) (keeps _ hw)

/-- The objects of a graph stand still while the host is steady. -/
structure Host.Still (D : Host H) (g : Graph) (steady : H → Prop) : Prop where
  quiet : ∀ (held : List ObjectRef) {o : ObjectRef}, g.mem o → (D.describe held o).Quiet steady (g.answer o)

namespace World

theorem grasp_of_known {w : World H} {v : Value} (h : ∀ o, v = .object o → o ∈ w.known) : w.grasp v = v := by
  cases v with
  | scalar s => rfl
  | object o => exact if_pos (h o rfl)

theorem grasp_of_objects {w : World H} {vs : List Value} (h : ∀ o ∈ Value.objects vs, o ∈ w.known) {v : Value}
    (hv : v ∈ vs) : w.grasp v = v :=
  grasp_of_known fun o ho => h o (Value.mem_objects.2 (ho ▸ hv))

theorem map_grasp_of_objects {w : World H} {vs : List Value} (h : ∀ o ∈ Value.objects vs, o ∈ w.known) :
    vs.map w.grasp = vs :=
  (List.map_congr_left fun _ => grasp_of_objects h).trans (List.map_id vs)

/-- A registry has an identity for an object. -/
def Names (w : World H) (n : Nat) (o : ObjectRef) (id : Nat) : Prop :=
  (w.registry n).get? o = some id

/-- A world as it is while a pass over a graph is under way: the host is steady, what is
held is of the graph, the objects are alive, and the registry is there. -/
structure Watches (g : Graph) (steady : H → Prop) (n : Nat) (held : List ObjectRef) (w : World H) : Prop where
  steady : steady w.host
  held : ∀ o ∈ held, g.mem o
  alive : ∀ o, g.mem o → o ∈ w.known
  registry : n < w.registries.length

/-- What belongs to the graph may be held as well. -/
theorem Watches.more {g : Graph} {steady : H → Prop} {n : Nat} {held more : List ObjectRef} {w : World H}
    (h : w.Watches g steady n held) (hmore : ∀ o ∈ more, g.mem o) : w.Watches g steady n (held ++ more) :=
  ⟨h.steady, fun o ho => (List.mem_append.1 ho).elim (h.held o) (hmore o), h.alive, h.registry⟩

/-- To watching, the journal does not matter, nor which names the registry holds. -/
theorem Watches.congr {g : Graph} {steady : H → Prop} {n : Nat} {held : List ObjectRef} {w v : World H}
    (h : w.Watches g steady n held) (hsteady : steady v.host) (hknown : v.known = w.known)
    (hregistries : v.registries.length = w.registries.length) : v.Watches g steady n held :=
  ⟨hsteady, h.held, hknown ▸ h.alive, hregistries ▸ h.registry⟩

theorem graspAnswer_of_watches {g : Graph} {steady : H → Prop} {n : Nat} {held : List ObjectRef} {w : World H}
    (h : w.Watches g steady n held) {o : ObjectRef} (ho : g.mem o) :
    w.graspAnswer (g.answer o) = g.answer o := by
  cases ha : g.answer o with
  | shape shape =>
    exact congrArg Answer.shape
      (Shape.map_eq_self fun v => grasp_of_objects fun p hp => h.alive p (g.closed ho ha p hp))
  | failed f => rfl
  | panicked text => rfl

end World

/-- To ask an object that stands still gives its answer, and changes nothing but the
journal and the state of the host. -/
theorem Host.Still.ask_eq {D : Host H} {g : Graph} {steady : H → Prop} (still : D.Still g steady)
    (level : Nat) {n : Nat} {held : List ObjectRef} {o : ObjectRef} {w : World H} (ho : g.mem o)
    (hw : w.Watches g steady n held) :
    (D.ask (level + 1) held o w).1 = g.answer o ∧ (D.ask (level + 1) held o w).2.toMoment = w.toMoment ∧
      steady (D.ask (level + 1) held o w).2.host := by
  obtain ⟨state, hstate, hrun⟩ := (still.quiet held ho).run_eq (fun w => w.sweep D.keeps held)
    (World.serve D.keeps (D.ask level) held) (w := w.note (.asked o)) hw.steady
  have hanswer := World.graspAnswer_of_watches
    (hw.congr (v := { w.note (.asked o) with host := state }) hstate rfl rfl) ho
  simp only [ask, act, hrun, World.receive]
  exact ⟨hanswer, rfl, hstate⟩

/-- A pass over a graph that stands still goes on watching it. -/
theorem Host.Still.keeps {D : Host H} {g : Graph} {steady : H → Prop} (still : D.Still g steady)
    (level n : Nat) :
    (World.surroundings (D.ask (level + 1)) n).Keeps (World.Watches g steady n) where
  fewer hfewer h := ⟨h.steady, fun o ho => h.held o (hfewer o ho), h.alive, h.registry⟩
  tag _ h := h.congr h.steady rfl (World.length_registries_tag _ n _)
  ask ho h := by
    obtain ⟨-, hmoment, hsteady⟩ := still.ask_eq level (h.held _ ho) h
    exact h.congr hsteady (congrArg Moment.known hmoment) (congrArg (·.registries.length) hmoment)
  shape {held o w shape} ho h hshape := by
    obtain ⟨hanswer, hmoment, hsteady⟩ := still.ask_eq level (h.held _ ho) h
    have hw := h.congr hsteady (congrArg Moment.known hmoment) (congrArg (·.registries.length) hmoment)
    refine ⟨hsteady, fun p hp => ?_, hw.alive, hw.registry⟩
    rcases List.mem_append.1 hp with hp | hp
    · exact h.held p hp
    · exact g.closed (h.held o ho) (hanswer.symm.trans hshape) p hp

/-- The registry is the record of the names, and the graph that of the answers. -/
theorem Host.Still.reports {D : Host H} {g : Graph} {steady : H → Prop} (still : D.Still g steady)
    (level n : Nat) :
    (World.surroundings (D.ask (level + 1)) n).Reports (World.Watches g steady n)
      (fun w => w.Names n) (fun _ o a => a = g.answer o) where
  tag {held o id w v} ho h htag := by
    obtain ⟨rfl, rfl⟩ : (w.tag n o).1 = id ∧ (w.tag n o).2 = v := Prod.mk.inj htag
    have hregistry : (w.tag n o).2.registry n = ((w.registry n).idOf o).2 :=
      (World.registry_tag h.registry o n).trans (if_pos rfl)
    refine ⟨?_, fun p k hp => ?_, fun _ _ h => h⟩
    · rw [World.Names, hregistry]
      exact Registry.get?_idOf _ o
    · show (w.tag n o).2.Names n p k
      rw [World.Names, hregistry]
      exact Registry.get?_idOf_of_get? hp
  ask {held o answer w v} ho h hask := by
    obtain ⟨hanswer, hmoment, -⟩ := still.ask_eq level (h.held _ ho) h
    rw [show D.ask (level + 1) held o w = (answer, v) from hask] at hanswer hmoment
    refine ⟨hanswer, fun p k hp => ?_, fun _ _ h => h⟩
    have hregistry : v.registry n = w.registry n := congrArg (fun m : Moment => m.registry n) hmoment
    show v.Names n p k
    rw [World.Names, hregistry]
    exact hp

/-- A capture of values of a graph that stands still is a picture of them, by the names
that the registry has at the end. -/
theorem Host.Still.pictures_capture {D : Host H} {g : Graph} {steady : H → Prop} (still : D.Still g steady)
    (level : Nat) {w : World H} {held : List ObjectRef} {s n : Nat} (hs : w.registryOf? s = some n)
    (hw : w.Watches g steady n held) {vs : List Value} (hvs : ∀ o ∈ Value.objects vs, g.mem o) :
    g.Pictures ((w.capture (D.ask (level + 1)) held s vs).2.Names n) vs
      (w.capture (D.ask (level + 1)) held s vs).1 := by
  have hgrasp : vs.map w.grasp = vs := World.map_grasp_of_objects fun o ho => hw.alive o (hvs o ho)
  have hdepicts := Pass.depicts_renderAll (still.keeps level n) (still.reports level n) held vs ⟨w, []⟩
    (hw.more hvs)
  refine ⟨hvs, fun ho hp hoid hpid => g.apart ho hp (Registry.address_eq_of_get? hoid hpid), ?_⟩
  rw [World.capture_of_registry hs, hgrasp]
  exact ⟨_, hdepicts⟩

/-- **A capture is faithful.** While a graph of objects stands still, its capture shows
it: whatever path of child positions can be walked from a value in the graph can be
walked from the rendered value as well, with a jump at every reference, and its end
shows the value at the end of the walk in the graph, unless the walk comes to an object
nested too deeply. Such objects stand at the last level only, and only where no object
before them has their identity. -/
theorem Host.faithful_capture (D : Host H) (g : Graph) (steady : H → Prop) (still : D.Still g steady)
    (level : Nat) (w : World H) (held : List ObjectRef) (s n : Nat) (hs : w.registryOf? s = some n)
    (hw : w.Watches g steady n held) (vs : List Value) (hvs : ∀ o ∈ Value.objects vs, g.mem o) :
    let rs := (w.capture (D.ask (level + 1)) held s vs).1
    let v := (w.capture (D.ask (level + 1)) held s vs).2
    rs.length = vs.length ∧
      (∀ (i : Nat) (top tip : Value) (path : List Nat), vs[i]? = some top → g.follow top path = some tip →
        ∃ r, rs[i]? = some r ∧
          ((∃ before rest stop m, path = before ++ rest ∧ g.follow top before = some stop ∧
              (Node.mk [i] r).follow rs before = some m ∧ Graph.Stops stop m) ∨
            ∃ m t, (Node.mk [i] r).follow rs path = some m ∧ m.target? rs = some t ∧
              g.Shows (v.Names n) tip t.value)) ∧
      ∀ (before rest : List (Node Nat)) (place : List Nat) (f : Failure),
        document rs = before ++ ⟨place, .failed f⟩ :: rest → ∃ o, g.at? vs place = some (.object o) ∧
          ((place.length - 1 < maxDepth ∧ (g.answer o).failure? = some f) ∨
            (place.length - 1 = maxDepth ∧ f = tooDeep o ∧
              ∃ id, v.Names n o id ∧ ∀ m ∈ before, m.value.opens? ≠ some id)) := by
  intro rs v
  have hpicture : g.Pictures (v.Names n) vs rs := still.pictures_capture level hs hw hvs
  have hlength : rs.length = vs.length := by
    obtain ⟨after, hdepicts⟩ := hpicture.depicts
    exact hdepicts.length_eq
  refine ⟨hlength, fun i top tip path htop htip => ?_,
    fun before rest place f hsplit => hpicture.depth_of_failed hsplit⟩
  have hi : i < rs.length := hlength ▸ (List.getElem?_eq_some_iff.1 htop).1
  refine ⟨rs[i], List.getElem?_eq_getElem hi, ?_⟩
  have hnode : ⟨[i], rs[i]⟩ ∈ document rs := by
    have hmem := mem_nodesOfItems [] (k := 0) (List.getElem?_eq_getElem hi)
    rwa [Nat.zero_add] at hmem
  exact hpicture.follow_document hnode (by simp [Graph.at?, htop, Graph.follow]) htip

/-! ### Two cells that point at each other -/

/-- One of two cells. -/
def cell (k : Nat) : ObjectRef := ⟨k, k, "Cell"⟩

/-- The cells show each other. -/
def cells : Graph where
  mem o := o = cell 0 ∨ o = cell 1
  answer o := .shape (.record [("other", .object (if o = cell 0 then cell 1 else cell 0))])
  closed := by
    rintro o shape (rfl | rfl) hshape <;> cases hshape <;> intro p hp
    · exact .inr (by simpa [Shape.children, cell] using hp)
    · exact .inl (by simpa [Shape.children, cell] using hp)
  apart := by
    rintro o p (rfl | rfl) (rfl | rfl) h
    · rfl
    · cases h
    · cases h
    · rfl

/-- A host with the cells, which has nothing to remember. -/
def cellsHost : Host Unit where
  describe _ o := .done (cells.answer o)
  keeps _ _ := []

/-- The world when both cells have been born. -/
def cellsWorld : World Unit :=
  (((World.start () none).create "Cell" 0 fun _ h => h).2.create "Cell" 1 fun _ h => h).2

theorem accounts_cellsWorld : cellsWorld.Accounts :=
  ((World.Accounts.start () none).create _ _ _).create _ _ _

theorem cells_watched {w : World Unit} {held : List ObjectRef} (hheld : ∀ o ∈ held, cells.mem o)
    (hfirst : cell 0 ∈ w.known) (hsecond : cell 1 ∈ w.known) (hregistry : 0 < w.registries.length) :
    w.Watches cells (fun _ => True) 0 held := by
  refine ⟨trivial, hheld, ?_, hregistry⟩
  rintro o (rfl | rfl)
  · exact hfirst
  · exact hsecond

/-- Three steps from the first cell lead to the second one, in its capture as well. -/
theorem cells_captured :
    let rs := (cellsWorld.capture (cellsHost.ask 1) [] 0 [.object (cell 0)]).1
    let v := (cellsWorld.capture (cellsHost.ask 1) [] 0 [.object (cell 0)]).2
    ∃ r, rs[0]? = some r ∧
      ((∃ before rest stop m, [0, 0, 0] = before ++ rest ∧
          cells.follow (.object (cell 0)) before = some stop ∧
          (Node.mk [0] r).follow rs before = some m ∧ Graph.Stops stop m) ∨
        ∃ m t, (Node.mk [0] r).follow rs [0, 0, 0] = some m ∧ m.target? rs = some t ∧
          cells.Shows (v.Names 0) (.object (cell 1)) t.value) := by
  have still : cellsHost.Still cells fun _ => True := ⟨fun _ _ _ => .done⟩
  have hwatches : cellsWorld.Watches cells (fun _ => True) 0 [] := by
    refine ⟨trivial, nofun, ?_, by decide⟩
    rintro o (rfl | rfl) <;> decide
  have hmem : ∀ o ∈ Value.objects [.object (cell 0)], cells.mem o := fun o ho => .inl (by simpa using ho)
  have hfaithful :=
    Host.faithful_capture cellsHost cells (fun _ => True) still 0 cellsWorld [] 0 0 rfl hwatches _ hmem
  exact hfaithful.2.1 0 (.object (cell 0)) (.object (cell 1)) [0, 0, 0] rfl rfl

end CallChain
