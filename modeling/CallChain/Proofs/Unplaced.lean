/-
# Host code that does not see where objects lie

Two runs that do the same on the host's side may put the same objects at different places,
because a place is free again only when the last slot that reserves it is released. So two
such runs can be compared for host code that does not look at places. A plain host is host
code of this kind, and it calls nothing: it works with handles whose place is blank, and the
handles themselves are entered in a roll, the latest first, where they are looked up when a
value is handed out.

Two worlds are twins when the host is in the same state and the same objects have been born
and found dead, wherever they lie. What a plain host does keeps twins.

Key definitions: `Routine`, `PlainHost`, `PlainHost.asHost`, `World.SameSide`, `World.Twins`.
Key theorems: `World.Twins.sweep`, `World.Twins.create`, `World.Twins.act`, `World.Twins.ask`.
-/
import CallChain.Proofs.Accounts
import CallChain.Proofs.Lockstep

namespace CallChain

variable {H α β : Type}

/-! ### Plain hosts -/

/-- Host code that calls nothing and gets handles without their places. -/
inductive Routine (H α : Type) : Type where
  | done (result : α)
  /-- changes the state, and goes on with the new one -/
  | host (change : H → H) (next : H → Routine H α)
  /-- gives birth to an object and stores its handle -/
  | create (typeName : String) (store : ObjectRef → H → H) (next : ObjectRef → Routine H α)

/-- A host whose code does not see where objects lie. -/
structure PlainHost (H : Type) where
  describe : List ObjectRef → ObjectRef → Routine H Answer
  keeps : H → List ObjectRef → List ObjectRef

/-- The state of a plain host, and the handles of all objects born, latest first. -/
structure Enrolled (H : Type) where
  own : H
  roll : List ObjectRef

/-- The handle on the roll of an object of that birth. -/
def handle? (roll : List ObjectRef) (serial : Nat) : Option ObjectRef :=
  roll.find? (·.serial = serial)

/-- The handle of an object. -/
def ObjectRef.placed (roll : List ObjectRef) (o : ObjectRef) : ObjectRef :=
  (handle? roll o.serial).getD o

/-- A value with the handles of its objects. -/
def Value.placed (roll : List ObjectRef) : Value → Value
  | .scalar s => .scalar s
  | .object o => .object (o.placed roll)

/-- An answer with the handles of the objects in it. -/
def Answer.placed (roll : List ObjectRef) : Answer → Answer
  | .shape s => .shape (s.map (Value.placed roll))
  | .failed f => .failed f
  | .panicked text => .panicked text

/-- Plain code as host code. The place for the next object is allotted by the number of
births, and the result is finished by the roll at the end. -/
def Routine.activity (allot : Nat → Nat) (finish : List ObjectRef → α → β) :
    Routine H α → Activity (Enrolled H) β
  | .done result => .host id fun e => .done (finish e.roll result)
  | .host change next => .host (fun e => { e with own := change e.own }) fun e => (next e.own).activity allot finish
  | .create typeName store next => .host id fun e =>
    .create typeName (allot e.roll.length) (fun o e => ⟨store o.unplaced e.own, o :: e.roll⟩) fun o =>
      (next o.unplaced).activity allot finish

/-- A plain host as a host, where objects are put as it is allotted. -/
def PlainHost.asHost (P : PlainHost H) (allot : Nat → Nat) : Host (Enrolled H) where
  describe held o := (P.describe (held.map ObjectRef.unplaced) o.unplaced).activity allot Answer.placed
  keeps e held := (P.keeps e.own (held.map ObjectRef.unplaced)).map (ObjectRef.placed e.roll)

/-! ### Handles on the roll -/

theorem serial_of_handle? {roll : List ObjectRef} {serial : Nat} {o : ObjectRef}
    (h : handle? roll serial = some o) : o.serial = serial := by
  simpa using List.find?_some h

theorem handle?_unplaced (roll : List ObjectRef) (serial : Nat) :
    handle? (roll.map ObjectRef.unplaced) serial = (handle? roll serial).map ObjectRef.unplaced :=
  List.find?_map

theorem ObjectRef.serial_placed (roll : List ObjectRef) (o : ObjectRef) : (o.placed roll).serial = o.serial := by
  unfold placed
  cases h : handle? roll o.serial with
  | none => rfl
  | some p => exact serial_of_handle? h

/-- On rolls of the same objects an object has like handles. -/
theorem ObjectRef.placed_unplaced_eq {roll roll' : List ObjectRef}
    (h : roll.map unplaced = roll'.map unplaced) (o : ObjectRef) :
    (o.placed roll).unplaced = (o.placed roll').unplaced := by
  have hhandle : (handle? roll o.serial).map unplaced = (handle? roll' o.serial).map unplaced := by
    rw [← handle?_unplaced, h, handle?_unplaced]
  unfold placed
  generalize handle? roll o.serial = p at hhandle
  generalize handle? roll' o.serial = q at hhandle
  cases p with
  | none =>
    cases q with
    | none => rfl
    | some _ => cases hhandle
  | some _ =>
    cases q with
    | none => cases hhandle
    | some _ => exact Option.some.inj hhandle

namespace World

/-! ### Worlds in order -/

/-- The accounts of a world are in order, and the living objects are on the roll. -/
structure InOrder (w : World (Enrolled H)) : Prop where
  accounts : w.Accounts
  enrolled : ∀ o ∈ w.known, handle? w.host.roll o.serial = some o

/-- A world has met an object of that birth that has not been found dead. -/
theorem placed_mem_known_iff {w : World (Enrolled H)} (hw : w.InOrder) (o : ObjectRef) :
    o.placed w.host.roll ∈ w.known ↔ o.serial ∈ w.known.map ObjectRef.serial := by
  constructor
  · intro h
    rw [← o.serial_placed w.host.roll]
    exact List.mem_map_of_mem h
  · intro h
    obtain ⟨p, hp, hserial⟩ := List.mem_map.1 h
    have hplaced : o.placed w.host.roll = p := by
      rw [ObjectRef.placed, ← hserial, hw.enrolled p hp, Option.getD_some]
    rw [hplaced]
    exact hp

/-- The host is in the same state, and the same objects have been born and found dead. -/
structure SameSide (w v : World (Enrolled H)) : Prop where
  own : w.host.own = v.host.own
  births : w.births = v.births
  roll : w.host.roll.map ObjectRef.unplaced = v.host.roll.map ObjectRef.unplaced
  known : w.known.map ObjectRef.unplaced = v.known.map ObjectRef.unplaced

/-- Two worlds that are the same on the host's side, while handles to the same living
objects are held. -/
structure Twins (held held' : List ObjectRef) (w v : World (Enrolled H)) : Prop where
  same : w.SameSide v
  left : w.InOrder
  right : v.InOrder
  alike : held.map ObjectRef.unplaced = held'.map ObjectRef.unplaced
  heldLeft : ∀ o ∈ held, o ∈ w.known
  heldRight : ∀ o ∈ held', o ∈ v.known

/-- The machinery is left alone: no session and no registry has changed, and no tag been given. -/
structure Offstage (w u : World H) : Prop where
  sessions : u.sessions = w.sessions
  registries : u.registries = w.registries
  tagged : ∀ n o id, u.Tagged n o id ↔ w.Tagged n o id

theorem Offstage.refl (w : World H) : w.Offstage w :=
  ⟨rfl, rfl, fun _ _ _ => Iff.rfl⟩

theorem Offstage.trans {w u v : World H} (h : w.Offstage u) (h' : u.Offstage v) : w.Offstage v :=
  ⟨h'.sessions.trans h.sessions, h'.registries.trans h.registries,
    fun n o id => (h'.tagged n o id).trans (h.tagged n o id)⟩

/-- A note that is not about a tag. -/
theorem Offstage.note (w : World H) {e : Event} (he : ∀ n o id, e ≠ .tagged n o id) : w.Offstage (w.note e) :=
  ⟨rfl, rfl, fun n o id => by simp [Tagged, World.note, Ne.symm (he n o id)]⟩

theorem SameSide.serials {w v : World (Enrolled H)} (h : w.SameSide v) :
    w.known.map ObjectRef.serial = v.known.map ObjectRef.serial := by
  simpa [List.map_map, Function.comp_def, ObjectRef.unplaced] using congrArg (List.map ObjectRef.serial) h.known

/-- A value means the same on both sides. -/
theorem SameSide.grasp_placed {w v : World (Enrolled H)} (h : w.SameSide v) (hw : w.InOrder) (hv : v.InOrder)
    (u : Value) : (w.grasp (u.placed w.host.roll)).unplaced = (v.grasp (u.placed v.host.roll)).unplaced := by
  cases u with
  | scalar s => rfl
  | object o =>
    have hiff : o.placed w.host.roll ∈ w.known ↔ o.placed v.host.roll ∈ v.known := by
      rw [placed_mem_known_iff hw, placed_mem_known_iff hv, h.serials]
    simp only [Value.placed, grasp]
    by_cases hmem : o.placed w.host.roll ∈ w.known
    · rw [if_pos hmem, if_pos (hiff.1 hmem)]
      exact congrArg Value.object (ObjectRef.placed_unplaced_eq h.roll o)
    · rw [if_neg hmem, if_neg fun hmem' => hmem (hiff.2 hmem')]

theorem SameSide.grasp_all {w v : World (Enrolled H)} (h : w.SameSide v) (hw : w.InOrder) (hv : v.InOrder)
    (us : List Value) : ((us.map (Value.placed w.host.roll)).map w.grasp).map Value.unplaced =
      ((us.map (Value.placed v.host.roll)).map v.grasp).map Value.unplaced := by
  rw [List.map_map, List.map_map, List.map_map, List.map_map]
  exact List.map_congr_left fun u _ => h.grasp_placed hw hv u

/-! ### The dead, on both sides -/

end World

/-- Whether an object of that birth is held or kept alive. -/
def PlainHost.survives (P : PlainHost H) (own : H) (held : List ObjectRef) (serial : Nat) : Bool :=
  (held ++ P.keeps own held).any (·.serial = serial)

namespace World

variable {P : PlainHost H} {allot allot' : Nat → Nat} {held held' : List ObjectRef} {w v : World (Enrolled H)}

/-- Which objects are found dead does not depend on where they lie. -/
theorem known_sweep_eq (hw : w.InOrder) (hheld : ∀ o ∈ held, o ∈ w.known) :
    (w.sweep (P.asHost allot).keeps held).known =
      w.known.filter fun o => P.survives w.host.own (held.map ObjectRef.unplaced) o.serial := by
  refine List.filter_congr fun o ho => ?_
  have hkept : o ∈ (P.asHost allot).keeps w.host held ↔
      ∃ p ∈ P.keeps w.host.own (held.map ObjectRef.unplaced), p.serial = o.serial := by
    constructor
    · intro h
      obtain ⟨p, hp, rfl⟩ := List.mem_map.1 h
      exact ⟨p, hp, (p.serial_placed _).symm⟩
    · rintro ⟨p, hp, hserial⟩
      refine List.mem_map.2 ⟨p, hp, ?_⟩
      rw [ObjectRef.placed, hserial, hw.enrolled o ho, Option.getD_some]
  have hself : o ∈ held ↔ ∃ p ∈ held.map ObjectRef.unplaced, p.serial = o.serial := by
    constructor
    · exact fun h => ⟨o.unplaced, List.mem_map_of_mem h, rfl⟩
    · rintro ⟨p, hp, hserial⟩
      obtain ⟨q, hq, rfl⟩ := List.mem_map.1 hp
      obtain rfl : q = o := hw.accounts.one (.inl (hheld q hq)) (.inl ho) hserial
      exact hq
  rw [PlainHost.survives, List.any_append, Bool.eq_iff_iff, decide_eq_true_eq, Bool.or_eq_true, List.mem_append,
    hself, hkept]
  simp only [List.any_eq_true, decide_eq_true_eq]

theorem InOrder.sweep (hw : w.InOrder) (keeps : Enrolled H → List ObjectRef → List ObjectRef)
    (held : List ObjectRef) : (w.sweep keeps held).InOrder :=
  ⟨hw.accounts.sweep keeps held, fun o ho => hw.enrolled o (List.mem_filter.1 ho).1⟩

theorem InOrder.create (hw : w.InOrder) (typeName : String) (place : Nat) (store : ObjectRef → H → H) :
    (w.create typeName place fun o e => ⟨store o.unplaced e.own, o :: e.roll⟩).2.InOrder := by
  refine ⟨hw.accounts.create _ _ _, fun o ho => ?_⟩
  have hnew : (w.newborn typeName place).serial = w.births := rfl
  rcases List.mem_cons.1 ho with rfl | ho
  · exact List.find?_cons_of_pos (by simp)
  · -- an older object is found behind the new one
    have hyoung : o.serial < w.births := hw.accounts.young (.inl ho)
    have hne : ¬ (w.newborn typeName place).serial = o.serial := by omega
    refine (List.find?_cons_of_neg (by simpa using hne)).trans (hw.enrolled o ho)

theorem InOrder.twins (h : w.InOrder) (hheld : ∀ o ∈ held, o ∈ w.known) : Twins held held w w :=
  ⟨⟨rfl, rfl, rfl, rfl⟩, h, h, rfl, hheld, hheld⟩

namespace Twins

theorem fewer {fewer fewer' : List ObjectRef} (h : Twins held held' w v) (hsub : ∀ o ∈ fewer, o ∈ held)
    (hsub' : ∀ o ∈ fewer', o ∈ held') (hlike : fewer.map ObjectRef.unplaced = fewer'.map ObjectRef.unplaced) :
    Twins fewer fewer' w v :=
  ⟨h.same, h.left, h.right, hlike, fun o ho => h.heldLeft o (hsub o ho), fun o ho => h.heldRight o (hsub' o ho)⟩

/-- The dead are found on both sides. -/
theorem sweep (h : Twins held held' w v) (P : PlainHost H) (allot allot' : Nat → Nat) :
    Twins held held' (w.sweep (P.asHost allot).keeps held) (v.sweep (P.asHost allot').keeps held') := by
  have hsurvives : ∀ (known : List ObjectRef) own held,
      (known.filter fun o => P.survives own held o.serial).map ObjectRef.unplaced =
        (known.map ObjectRef.unplaced).filter fun o => P.survives own held o.serial := by
    intro known own held
    rw [List.filter_map]
    rfl
  refine ⟨⟨h.same.own, h.same.births, h.same.roll, ?_⟩, h.left.sweep _ _, h.right.sweep _ _, h.alike,
    fun o ho => w.known_sweep _ ho (h.heldLeft o ho), fun o ho => v.known_sweep _ ho (h.heldRight o ho)⟩
  rw [known_sweep_eq h.left h.heldLeft, known_sweep_eq h.right h.heldRight, hsurvives, hsurvives, h.same.known,
    h.same.own, h.alike]

/-- An object is born on both sides, wherever it is put. -/
theorem create (h : Twins held held' w v) (typeName : String) (place place' : Nat)
    (store : ObjectRef → H → H) :
    Twins held held' (w.create typeName place fun o e => ⟨store o.unplaced e.own, o :: e.roll⟩).2
        (v.create typeName place' fun o e => ⟨store o.unplaced e.own, o :: e.roll⟩).2 ∧
      (w.newborn typeName place).unplaced = (v.newborn typeName place').unplaced := by
  have hborn : (w.newborn typeName place).unplaced = (v.newborn typeName place').unplaced := by
    simp only [ObjectRef.unplaced, newborn, h.same.births]
  refine ⟨⟨⟨?_, congrArg (· + 1) h.same.births, ?_, ?_⟩, h.left.create _ _ _, h.right.create _ _ _, h.alike,
    fun o ho => List.mem_cons_of_mem _ (h.heldLeft o ho),
    fun o ho => List.mem_cons_of_mem _ (h.heldRight o ho)⟩, hborn⟩
  · exact congrArg₂ store hborn h.same.own
  · exact congrArg₂ List.cons hborn h.same.roll
  · exact congrArg₂ List.cons hborn h.same.known

theorem symm (h : Twins held held' w v) : Twins held' held v w :=
  ⟨⟨h.same.own.symm, h.same.births.symm, h.same.roll.symm, h.same.known.symm⟩, h.right, h.left, h.alike.symm,
    h.heldRight, h.heldLeft⟩

/-- On one side something happens that is not on the host's side. -/
theorem congr (h : Twins held held' w v) {u : World (Enrolled H)} (hu : u.Accounts) (hhost : u.host = w.host)
    (hbirths : u.births = w.births) (hknown : u.known = w.known) : Twins held held' u v := by
  refine ⟨⟨?_, hbirths.trans h.same.births, ?_, ?_⟩, ⟨hu, ?_⟩, h.right, h.alike, ?_, h.heldRight⟩
  · rw [hhost, h.same.own]
  · rw [hhost, h.same.roll]
  · rw [hknown, h.same.known]
  · rw [hknown, hhost]
    exact h.left.enrolled
  · rw [hknown]
    exact h.heldLeft

theorem congr_right (h : Twins held held' w v) {u : World (Enrolled H)} (hu : u.Accounts) (hhost : u.host = v.host)
    (hbirths : u.births = v.births) (hknown : u.known = v.known) : Twins held held' w u :=
  (h.symm.congr hu hhost hbirths hknown).symm

/-- A note that is not about a tag. -/
theorem note (h : Twins held held' w v) {e e' : Event} (he : ∀ n o id, e ≠ .tagged n o id)
    (he' : ∀ n o id, e' ≠ .tagged n o id) : Twins held held' (w.note e) (v.note e') :=
  (h.congr (h.left.accounts.note he) rfl rfl rfl).congr_right (h.right.accounts.note he') rfl rfl rfl

/-- The host changes its state on both sides. -/
theorem host (h : Twins held held' w v) (change : H → H) :
    Twins held held' { w with host := { w.host with own := change w.host.own } }
      { v with host := { v.host with own := change v.host.own } } :=
  ⟨⟨congrArg change h.same.own, h.same.births, h.same.roll, h.same.known⟩,
    ⟨h.left.accounts.congr rfl rfl h.left.accounts.registered (fun _ => rfl) fun _ _ _ => Iff.rfl,
      h.left.enrolled⟩,
    ⟨h.right.accounts.congr rfl rfl h.right.accounts.registered (fun _ => rfl) fun _ _ _ => Iff.rfl,
      h.right.enrolled⟩, h.alike, h.heldLeft, h.heldRight⟩

/-- What plain code does it does on both sides, and it leaves the machinery alone. -/
theorem act (P : PlainHost H) (allot allot' : Nat → Nat) (ask ask' : Asking (Enrolled H))
    (finish : List ObjectRef → α → β) : ∀ (a : Routine H α) {w v : World (Enrolled H)}, Twins held held' w v →
    ∃ (result : α) (w' v' : World (Enrolled H)),
      (P.asHost allot).act ask held (a.activity allot finish) w = (finish w'.host.roll result, w') ∧
        (P.asHost allot').act ask' held' (a.activity allot' finish) v = (finish v'.host.roll result, v') ∧
        Twins held held' w' v' ∧ w.Offstage w' ∧ v.Offstage v'
  | .done result, w, v, h => ⟨result, w, v, rfl, rfl, h, .refl w, .refl v⟩
  | .host change next, w, v, h => by
    obtain ⟨result, w', v', hw', hv', hend, hoff, hoff'⟩ :=
      act P allot allot' ask ask' finish (next (change w.host.own)) (h.host change)
    rw [h.same.own] at hv'
    exact ⟨result, w', v', hw', hv', hend, ⟨hoff.sessions, hoff.registries, hoff.tagged⟩,
      ⟨hoff'.sessions, hoff'.registries, hoff'.tagged⟩⟩
  | .create typeName store next, w, v, h => by
    obtain ⟨hcreated, hborn⟩ := (h.sweep P allot allot').create typeName
      (allot w.host.roll.length) (allot' v.host.roll.length) store
    obtain ⟨result, w', v', hw', hv', hend, hoff, hoff'⟩ := act P allot allot' ask ask' finish
      (next ((w.sweep (P.asHost allot).keeps held).newborn typeName (allot w.host.roll.length)).unplaced) hcreated
    rw [hborn] at hv'
    exact ⟨result, w', v', hw', hv', hend, ⟨hoff.sessions, hoff.registries, hoff.tagged⟩,
      ⟨hoff'.sessions, hoff'.registries, hoff'.tagged⟩⟩

/-- Values that are meant by the same births are grasped alike, and their objects may be held. -/
theorem values (h : Twins held held' w v) (us : List Value) :
    Twins (held ++ Value.objects ((us.map (Value.placed w.host.roll)).map w.grasp))
      (held' ++ Value.objects ((us.map (Value.placed v.host.roll)).map v.grasp)) w v := by
  refine ⟨h.same, h.left, h.right, ?_, fun o ho => ?_, fun o ho => ?_⟩
  · rw [List.map_append, List.map_append, h.alike]
    exact congrArg (_ ++ ·) (Value.objects_unplaced_eq (h.same.grasp_all h.left h.right us))
  · exact (List.mem_append.1 ho).elim (h.heldLeft o) known_of_grasp
  · exact (List.mem_append.1 ho).elim (h.heldRight o) known_of_grasp

/-- An answer is received alike on both sides, and the children that it shows may be held. -/
theorem receive (h : Twins held held' w v) (answer : Answer) (o o' : ObjectRef) :
    let received := w.receive o (answer.placed w.host.roll)
    let received' := v.receive o' (answer.placed v.host.roll)
    received.1.unplaced = received'.1.unplaced ∧ Twins held held' received.2 received'.2 ∧
      ∀ shape shape', received.1 = .shape shape → received'.1 = .shape shape' →
        Twins (held ++ Value.objects shape.children) (held' ++ Value.objects shape'.children) received.2
          received'.2 := by
  intro received received'
  have hnoted : Twins held held' received.2 received'.2 := h.note nofun nofun
  cases answer with
  | failed f => exact ⟨rfl, hnoted, fun _ _ hshape => by cases hshape⟩
  | panicked text => exact ⟨rfl, hnoted, fun _ _ hshape => by cases hshape⟩
  | shape s =>
    have hgrasp : ∀ u : Value, (w.grasp (u.placed w.host.roll)).unplaced =
        (v.grasp (u.placed v.host.roll)).unplaced := h.same.grasp_placed h.left h.right
    have hlike : (((s.map (Value.placed w.host.roll)).map w.grasp).map Value.unplaced) =
        (((s.map (Value.placed v.host.roll)).map v.grasp).map Value.unplaced) := by
      rw [Shape.map_map, Shape.map_map, Shape.map_map, Shape.map_map]
      exact congrArg (fun f => s.map f) (funext hgrasp)
    refine ⟨congrArg Answer.shape hlike, hnoted, fun shape shape' hshape hshape' => ?_⟩
    obtain rfl : (s.map (Value.placed w.host.roll)).map w.grasp = shape := Answer.shape.inj hshape
    obtain rfl : (s.map (Value.placed v.host.roll)).map v.grasp = shape' := Answer.shape.inj hshape'
    simp only [Shape.children_map]
    exact hnoted.values s.children

end Twins

theorem offstage_receive (w : World H) (o : ObjectRef) (answer : Answer) : w.Offstage (w.receive o answer).2 :=
  .note w nofun

end World

/-- An object is asked by running its description. -/
theorem Host.ask_of_act {D : Host H} {level : Nat} {held : List ObjectRef} {o : ObjectRef} {w v : World H}
    {answer : Answer} (h : D.act (D.ask level) held (D.describe held o) (w.note (.asked o)) = (answer, v)) :
    D.ask (level + 1) held o w = v.receive o answer := by
  simp only [Host.ask, h]

namespace World.Twins

variable {held held' : List ObjectRef}

/-- **To ask a plain object is the same on both sides**, however much host code may be nested:
the answers are alike, and the machinery is left alone. -/
theorem ask (P : PlainHost H) (allot allot' : Nat → Nat) : ∀ (level : Nat) {o o' : ObjectRef},
    o.unplaced = o'.unplaced → ∀ {w v : World (Enrolled H)}, Twins held held' w v →
    let asked := (P.asHost allot).ask level held o w
    let asked' := (P.asHost allot').ask level held' o' v
    asked.1.unplaced = asked'.1.unplaced ∧ Twins held held' asked.2 asked'.2 ∧
      (∀ shape shape', asked.1 = .shape shape → asked'.1 = .shape shape' →
        Twins (held ++ Value.objects shape.children) (held' ++ Value.objects shape'.children) asked.2 asked'.2) ∧
      w.Offstage asked.2 ∧ v.Offstage asked'.2
  | 0, o, o', _, w, v, h => by
    intro asked asked'
    have hasked : Twins held held' (w.note (.asked o)) (v.note (.asked o')) := h.note nofun nofun
    have hoff : w.Offstage (w.note (.asked o)) := .note w nofun
    have hoff' : v.Offstage (v.note (.asked o')) := .note v nofun
    obtain ⟨hanswer, htwins, hshape⟩ := hasked.receive (.panicked none) o o'
    exact ⟨hanswer, htwins, hshape, hoff.trans (offstage_receive _ o _), hoff'.trans (offstage_receive _ o' _)⟩
  | level + 1, o, o', hlike, w, v, h => by
    intro asked asked'
    have hasked : Twins held held' (w.note (.asked o)) (v.note (.asked o')) := h.note nofun nofun
    have hnoted : w.Offstage (w.note (.asked o)) := .note w nofun
    have hnoted' : v.Offstage (v.note (.asked o')) := .note v nofun
    -- both sides run the same description
    have hdescribe : P.describe (held.map ObjectRef.unplaced) o.unplaced =
        P.describe (held'.map ObjectRef.unplaced) o'.unplaced := by rw [h.alike, hlike]
    obtain ⟨answer, w', v', hw', hv', hend, hoff, hoff'⟩ := hasked.act P allot allot'
      ((P.asHost allot).ask level) ((P.asHost allot').ask level) Answer.placed
      (P.describe (held.map ObjectRef.unplaced) o.unplaced)
    rw [hdescribe] at hv'
    have hleft : asked = w'.receive o (answer.placed w'.host.roll) := Host.ask_of_act hw'
    have hright : asked' = v'.receive o' (answer.placed v'.host.roll) := Host.ask_of_act hv'
    obtain ⟨hanswer, htwins, hshape⟩ := hend.receive answer o o'
    rw [hleft, hright]
    exact ⟨hanswer, htwins, hshape, (hnoted.trans hoff).trans (offstage_receive w' o _),
      (hnoted'.trans hoff').trans (offstage_receive v' o' _)⟩

end World.Twins

end CallChain
