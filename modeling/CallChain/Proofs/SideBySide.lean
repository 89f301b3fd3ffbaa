/-
# The same operation on two registries

A session performs an operation in two worlds where the host is in the same state. It is the
same session in both, but for the identities that its frames show, because the registries
gave the objects other ones. Then the operation has the same result in both worlds, and the
session is the same again.

The renaming is one that fits all identities given by the end of the operation, and so it
fits all that were given before. There is one, and it is injective, because in each world
an object has one identity and no other object has it.

Key definitions: `Operation`, `Operation.perform`, `Operation.Renamed`, `World.Bond`,
`World.Beside`.
Key theorems: `World.exists_renaming`, `World.lockstep`, `World.Beside.updateWith`,
`World.Beside.perform`.
-/
import CallChain.Proofs.Unplaced
import CallChain.Proofs.Renaming
import CallChain.Proofs.Turns

namespace CallChain

variable {H : Type}

/-! ### Operations -/

/-- An operation of a session. The objects in its values are meant by their births. -/
inductive Operation where
  | enterEntry (method : Method) (values : List Value)
  | exitEntry
  | enterCandidate (method : Method) (values : List Value)
  | exitCandidate
  | matchChain (method : Method) (values : List Value)
  | discover (offered : List String)

/-- What an operation returns. -/
@[reducible]
def Operation.Reply : Operation → Type
  | .enterEntry .. => Except Fault Unit
  | .exitEntry => Except Fault Unit
  | .enterCandidate .. => Except Fault Bool
  | .exitCandidate => Except Fault Bool
  | .matchChain .. => Except Fault Completion
  | .discover .. => Except Fault Completion

/-- Performs an operation of session `s` from outside, with the handles that its values have
in this world. -/
def Operation.perform (D : Host (Enrolled H)) (level s : Nat) : (op : Operation) → World (Enrolled H) →
    op.Reply × World (Enrolled H)
  | .enterEntry m vs, w => D.run level (.request (.enterEntry s m (vs.map (Value.placed w.host.roll)))) w
  | .exitEntry, w => D.run level (.request (.exitEntry s)) w
  | .enterCandidate m vs, w => D.run level (.request (.enterCandidate s m (vs.map (Value.placed w.host.roll)))) w
  | .exitCandidate, w => D.run level (.request (.exitCandidate s)) w
  | .matchChain m vs, w => D.run level (.request (.matchChain s m (vs.map (Value.placed w.host.roll)))) w
  | .discover offered, w => D.run level (.request (.discover s offered)) w

/-- Two results of an operation are the same but for the identities. Only a match shows some. -/
def Operation.Renamed (ρ : Nat → Nat) : (op : Operation) → op.Reply → op.Reply → Prop
  | .enterEntry .., reply, reply' => reply = reply'
  | .exitEntry, reply, reply' => reply = reply'
  | .enterCandidate .., reply, reply' => reply = reply'
  | .exitCandidate, reply, reply' => reply = reply'
  | .matchChain .., reply, reply' => Fault.Or (Completion.Renamed ρ) reply reply'
  | .discover .., reply, reply' => reply = reply'

/-- Host code works from outside. -/
def PlainHost.works (P : PlainHost H) (allot : Nat → Nat) (level : Nat) (work : Routine H Unit)
    (w : World (Enrolled H)) : World (Enrolled H) :=
  ((P.asHost allot).run level (work.activity allot fun _ => id) w).2

/-! ### Identities that belong together -/

namespace World

/-- The registries of two worlds gave one object these identities. -/
def Bond (w v : World H) (i k : Nat) : Prop :=
  ∃ o p : ObjectRef, o.unplaced = p.unplaced ∧ w.Tagged 0 o i ∧ v.Tagged 0 p k

variable {w v : World H} {i j k l : Nat}

theorem Bond.mono {w' v' : World H} (hw : w.Grows w') (hv : v.Grows v') (h : Bond w v i k) : Bond w' v' i k := by
  obtain ⟨o, p, hlike, ho, hp⟩ := h
  exact ⟨o, p, hlike, hw.journal.subset ho, hv.journal.subset hp⟩

/-- An object has one identity in each world, and no other object has it. -/
theorem Bond.faithful (hw : w.Accounts) (hv : v.Accounts) (h : Bond w v i k) (h' : Bond w v j l) :
    i = j ↔ k = l := by
  obtain ⟨o, p, hlike, ho, hp⟩ := h
  obtain ⟨o', p', hlike', ho', hp'⟩ := h'
  have hserial := ObjectRef.serial_eq_of_unplaced hlike
  have hserial' := ObjectRef.serial_eq_of_unplaced hlike'
  rw [hw.faithful ho ho', hv.faithful hp hp']
  constructor
  · rintro rfl
    exact hv.one (.inr ⟨_, _, hp⟩) (.inr ⟨_, _, hp'⟩) (hserial.symm.trans hserial')
  · rintro rfl
    exact hw.one (.inr ⟨_, _, ho⟩) (.inr ⟨_, _, ho'⟩) (hserial.trans hserial'.symm)

/-- Some injective renaming leads from the identities in one world to those in the other. -/
theorem exists_renaming (hw : w.Accounts) (hv : v.Accounts) :
    ∃ ρ : Nat → Nat, Function.Injective ρ ∧ ∀ i k, Bond w v i k → i = ρ k := by
  have hbound : ∀ {i k : Nat}, Bond w v i k → i < (w.registry 0).next := by
    rintro i k ⟨o, p, -, ho, -⟩
    exact (hw.given ho).2
  exact exists_renaming_of_faithful (fun hik hjl => hik.faithful hw hv hjl) hbound

theorem registryOf?_of_sessions {w u : World H} (h : u.sessions = w.sessions) (s : Nat) :
    u.registryOf? s = w.registryOf? s := by
  simp only [Moment.registryOf?, h]

end World

namespace World

variable {P : PlainHost H} {allot allot' : Nat → Nat} {level : Nat} {w v : World (Enrolled H)}

/-- Passes on both registries keep step, and leave the sessions alone. -/
theorem lockstep (P : PlainHost H) (allot allot' : Nat → Nat) (level : Nat) {s : Nat}
    (hw : w.registryOf? s = some 0) (hv : v.registryOf? s = some 0) :
    (surroundings ((P.asHost allot).ask level) 0).Lockstep (surroundings ((P.asHost allot').ask level) 0)
      (fun held held' w' v' => Twins held held' w' v' ∧ w'.sessions = w.sessions ∧ v'.sessions = v.sessions)
      Bond where
  alike h := h.1.alike
  fewer hsub hsub' hlike h := ⟨h.1.fewer hsub hsub' hlike, h.2⟩
  faithful h := Bond.faithful h.1.left.accounts h.1.right.accounts
  tag {held held' o o' w' v'} ho ho' hlike h := by
    obtain ⟨htwins, hsessions, hsessions'⟩ := h
    have hn := htwins.left.accounts.lt_of_registryOf? ((registryOf?_of_sessions hsessions s).trans hw)
    have hn' := htwins.right.accounts.lt_of_registryOf? ((registryOf?_of_sessions hsessions' s).trans hv)
    have htagged := htwins.left.accounts.tag hn (htwins.heldLeft o ho)
    have htagged' := htwins.right.accounts.tag hn' (htwins.heldRight o' ho')
    refine ⟨⟨(htwins.congr htagged rfl rfl rfl).congr_right htagged' rfl rfl rfl, hsessions, hsessions'⟩, ?_, ?_⟩
    · exact ⟨o, o', hlike, tagged_tag.2 (.inl ⟨rfl, rfl, rfl⟩), tagged_tag.2 (.inl ⟨rfl, rfl, rfl⟩)⟩
    · exact fun i k => Bond.mono (.tag _ _ _) (.tag _ _ _)
  ask {held held' o o' w' v'} _ _ hlike h := by
    obtain ⟨htwins, hsessions, hsessions'⟩ := h
    obtain ⟨hanswer, hasked, -, hoff, hoff'⟩ := htwins.ask P allot allot' level hlike
    exact ⟨hanswer, ⟨hasked, hoff.sessions.trans hsessions, hoff'.sessions.trans hsessions'⟩,
      fun i k => Bond.mono (Host.grows_ask _ _ _ _ _) (Host.grows_ask _ _ _ _ _)⟩
  shape {held held' o o' w' v' shape shape'} _ _ hlike h hshape hshape' := by
    obtain ⟨htwins, hsessions, hsessions'⟩ := h
    obtain ⟨-, -, hshown, hoff, hoff'⟩ := htwins.ask P allot allot' level hlike
    exact ⟨hshown shape shape' hshape hshape', hoff.sessions.trans hsessions, hoff'.sessions.trans hsessions'⟩

end World

theorem Session.registry_attempt {β : Type} {step : Session → Except Fault (β × Session)}
    (hstep : Session.Settled step) (x : Session) : (x.attempt step).2.registry = x.registry := by
  generalize hattempt : x.attempt step = attempted
  obtain ⟨reply, t⟩ := attempted
  rcases Session.attempt_cases hattempt with rfl | ⟨-, b, htaken⟩
  · rfl
  · exact hstep htaken

/-! ### The same on both sides -/

namespace World

/-- The same host code works in both worlds. -/
theorem Twins.works {w v : World (Enrolled H)} (h : Twins [] [] w v) (P : PlainHost H) (allot allot' : Nat → Nat)
    (level : Nat) (work : Routine H Unit) :
    Twins [] [] (P.works allot level work w) (P.works allot' level work v) ∧
      w.Offstage (P.works allot level work w) ∧ v.Offstage (P.works allot' level work v) := by
  obtain ⟨result, w', v', hw', hv', htwins, hoff, hoff'⟩ := h.act P allot allot' ((P.asHost allot).ask level)
    ((P.asHost allot').ask level) (fun _ => id) work
  have hleft : P.works allot level work w = w' := congrArg Prod.snd hw'
  have hright : P.works allot' level work v = v' := congrArg Prod.snd hv'
  rw [hleft, hright]
  exact ⟨htwins, hoff, hoff'⟩

/-- The first session stands the same in both worlds but for the identities, and the worlds
are twins. -/
structure Beside (ρ : Nat → Nat) (w v : World (Enrolled H)) : Prop where
  twins : Twins [] [] w v
  session : w.session 0 = (v.session 0).rename ρ
  outlet : (v.session 0).outlet = none
  mine : w.registryOf? 0 = some 0
  other : w.registryOf? 1 = some 0
  alone : v.registryOf? 0 = some 0

namespace Beside

variable {P : PlainHost H} {allot allot' : Nat → Nat} {level : Nat} {ρ : Nat → Nat} {w v : World (Enrolled H)}
  {β : Type} {R : β → β → Prop}

theorem complete_eq (h : Beside ρ w v) : (w.session 0).complete = (v.session 0).complete := by
  rw [h.session]
  rfl

theorem inTarget_eq (h : Beside ρ w v) :
    (w.session 0).chain.inTarget = (v.session 0).chain.inTarget := by
  rw [h.session]
  rfl

/-- The worlds went on, and the sessions were left alone. -/
theorem of_sessions (h : Beside ρ w v) {w' v' : World (Enrolled H)} (htwins : Twins [] [] w' v')
    (hsessions : w'.sessions = w.sessions) (hsessions' : v'.sessions = v.sessions) : Beside ρ w' v' := by
  refine ⟨htwins, ?_, ?_, ?_, ?_, ?_⟩
  · simp only [Moment.session, hsessions, hsessions']
    exact h.session
  · simp only [Moment.session, hsessions']
    exact h.outlet
  · rw [registryOf?_of_sessions hsessions, h.mine]
  · rw [registryOf?_of_sessions hsessions, h.other]
  · rw [registryOf?_of_sessions hsessions', h.alone]

theorem note (h : Beside ρ w v) {e e' : Event} (he : ∀ n o id, e ≠ .tagged n o id)
    (he' : ∀ n o id, e' ≠ .tagged n o id) : Beside ρ (w.note e) (v.note e') :=
  h.of_sessions (h.twins.note he he') rfl rfl

theorem purge (h : Beside ρ w v) (P : PlainHost H) (allot allot' : Nat → Nat) (n n' : Nat) :
    Beside ρ (w.purge (P.asHost allot).keeps [] n).2 (v.purge (P.asHost allot').keeps [] n').2 := by
  have hswept := h.twins.sweep P allot allot'
  have hpurged := h.twins.left.accounts.purge (P.asHost allot).keeps [] n
  have hpurged' := h.twins.right.accounts.purge (P.asHost allot').keeps [] n'
  exact h.of_sessions ((hswept.congr hpurged rfl rfl rfl).congr_right hpurged' rfl rfl rfl) rfl rfl

/-- Host code works in both worlds. -/
theorem works (h : Beside ρ w v) (P : PlainHost H) (allot allot' : Nat → Nat) (level : Nat)
    (work : Routine H Unit) : Beside ρ (P.works allot level work w) (P.works allot' level work v) := by
  obtain ⟨htwins, hoff, hoff'⟩ := h.twins.works P allot allot' level work
  exact h.of_sessions htwins hoff.sessions hoff'.sessions

/-- A step of the session is tried in both worlds. -/
theorem updateLive (h : Beside ρ w v) {step step' : Session → Except Fault (β × Session)}
    (hstep : Session.Natural ρ R step step') (hsettled : Session.Settled step) (hsettled' : Session.Settled step') :
    Fault.Or R (w.updateLive 0 step).1 (v.updateLive 0 step').1 ∧
      Beside ρ (w.updateLive 0 step).2 (v.updateLive 0 step').2 := by
  obtain ⟨hreply, hsession, houtlet⟩ := hstep.attempt h.outlet
  rw [← h.session] at hreply hsession
  have hregistry := Session.registry_attempt hsettled (w.session 0)
  have hregistry' := Session.registry_attempt hsettled' (v.session 0)
  have hself := w.session_setSession_attempt 0 step 0
  have hself' := v.session_setSession_attempt 0 step' 0
  rw [if_pos rfl] at hself hself'
  rw [updateLive_eq, updateLive_eq]
  refine ⟨hreply, ?_, ?_, ?_, ?_, ?_, ?_⟩
  · exact (h.twins.congr (h.twins.left.accounts.setSession hregistry) rfl rfl rfl).congr_right
      (h.twins.right.accounts.setSession hregistry') rfl rfl rfl
  · rw [hself, hself', hsession]
  · rw [hself', houtlet]
  · rw [registryOf?_setSession hregistry, h.mine]
  · rw [registryOf?_setSession hregistry, h.other]
  · rw [registryOf?_setSession hregistry', h.alone]

/-- The values of a frame are rendered in both worlds. -/
theorem capture (h : Beside ρ w v) (P : PlainHost H) (allot allot' : Nat → Nat) (level : Nat) (vs : List Value) :
    let captured := w.capture ((P.asHost allot).ask level) [] 0 (vs.map (Value.placed w.host.roll))
    let captured' := v.capture ((P.asHost allot').ask level) [] 0 (vs.map (Value.placed v.host.roll))
    Beside ρ captured.2 captured'.2 ∧
      List.Forall₂ (Rendered.Alike (Bond captured.2 captured'.2)) captured.1 captured'.1 := by
  intro captured captured'
  have hl := lockstep (w := w) (v := v) P allot allot' level h.mine h.alone
  obtain ⟨⟨htwins, hsessions, hsessions'⟩, -, halike⟩ :=
    hl.run (h.twins.same.grasp_all h.twins.left h.twins.right vs) ⟨h.twins.values vs, rfl, rfl⟩
  have hpassed : Beside ρ ((surroundings ((P.asHost allot).ask level) 0).run []
        ((vs.map (Value.placed w.host.roll)).map w.grasp) w).2
      ((surroundings ((P.asHost allot').ask level) 0).run []
        ((vs.map (Value.placed v.host.roll)).map v.grasp) v).2 :=
    h.of_sessions (htwins.fewer nofun nofun rfl) hsessions hsessions'
  simp only [captured, captured', capture_of_registry h.mine, capture_of_registry h.alone]
  exact ⟨hpassed.note nofun nofun,
    halike.imp fun _ _ => Rendered.Alike.mono fun _ _ => Bond.mono (.note _ _) (.note _ _)⟩

/-- A frame is captured in both worlds and given to a step of the session, and the renaming
fits the identities that were given by then. -/
theorem updateWith (h : Beside ρ w v) (P : PlainHost H) (allot allot' : Nat → Nat) (level : Nat) (m : Method)
    (vs : List Value) {step : Frame → Session → Except Fault (β × Session)}
    (hstep : ∀ f, Session.Natural ρ R (step (f.rename ρ)) (step f)) (hsettled : ∀ f, Session.Settled (step f)) :
    let done := w.updateWith ((P.asHost allot).ask level) [] 0 m (vs.map (Value.placed w.host.roll)) step
    let done' := v.updateWith ((P.asHost allot').ask level) [] 0 m (vs.map (Value.placed v.host.roll)) step
    (∀ i k, Bond done.2 done'.2 i k → i = ρ k) → Fault.Or R done.1 done'.1 ∧ Beside ρ done.2 done'.2 := by
  intro done done' hρ
  by_cases hend : (v.session 0).complete = true
  · have hdone : done = (.error .sessionComplete, w) := if_pos (h.complete_eq.trans hend)
    have hdone' : done' = (.error .sessionComplete, v) := if_pos hend
    rw [hdone, hdone']
    exact ⟨.fault _, h⟩
  · obtain ⟨hcaptured, halike⟩ := h.capture P allot allot' level vs
    have hdone : done = _ := if_neg (h.complete_eq ▸ hend)
    have hdone' : done' = _ := if_neg hend
    rw [hdone, hdone'] at hρ ⊢
    generalize w.capture ((P.asHost allot).ask level) [] 0 (vs.map (Value.placed w.host.roll)) = captured at *
    generalize v.capture ((P.asHost allot').ask level) [] 0 (vs.map (Value.placed v.host.roll)) = captured' at *
    have hgrows : captured.2.Grows ((captured.2.note (.captured 0 ⟨m, captured.1⟩)).updateLive 0
        (step ⟨m, captured.1⟩)).2 := (Grows.note _ _).trans (.updateLive (hsettled _) _ _)
    have hgrows' : captured'.2.Grows ((captured'.2.note (.captured 0 ⟨m, captured'.1⟩)).updateLive 0
        (step ⟨m, captured'.1⟩)).2 := (Grows.note _ _).trans (.updateLive (hsettled _) _ _)
    have hvalues : captured.1 = captured'.1.map (Rendered.map ρ) := by
      have hsame : List.Forall₂ (fun r t => r = Rendered.map ρ t) captured.1 captured'.1 :=
        halike.imp fun _ _ => Rendered.Alike.eq_map fun i k hik => hρ i k (hik.mono hgrows hgrows')
      rw [← List.forall₂_eq_eq_eq, List.forall₂_map_right_iff]
      exact hsame
    have hframe : Session.Natural ρ R (step ⟨m, captured.1⟩) (step ⟨m, captured'.1⟩) := by
      rw [hvalues]
      exact hstep ⟨m, captured'.1⟩
    have hnoted : Beside ρ (captured.2.note (.captured 0 ⟨m, captured.1⟩))
        (captured'.2.note (.captured 0 ⟨m, captured'.1⟩)) := hcaptured.note nofun nofun
    exact hnoted.updateLive hframe (hsettled _) (hsettled _)

/-- The entry frame is left in both worlds, with a purge if it can be. -/
theorem exitEntry (h : Beside ρ w v) (P : PlainHost H) (allot allot' : Nat → Nat) (ask ask' : Asking (Enrolled H)) :
    let done := w.perform (P.asHost allot).keeps ask [] (.exitEntry 0)
    let done' := v.perform (P.asHost allot').keeps ask' [] (.exitEntry 0)
    done.1 = done'.1 ∧ Beside ρ done.2 done'.2 := by
  obtain ⟨hreply, hbeside⟩ := h.updateLive Session.natural_exitEntry Session.settled_exitEntry
    Session.settled_exitEntry
  simp only [World.perform]
  generalize w.updateLive 0 Session.exitEntry = left at *
  generalize v.updateLive 0 Session.exitEntry = left' at *
  obtain ⟨reply, u⟩ := left
  obtain ⟨reply', u'⟩ := left'
  obtain rfl : reply = reply' := hreply.eq
  cases reply with
  | error f => exact ⟨rfl, hbeside⟩
  | ok _ => exact ⟨rfl, hbeside.purge P allot allot' _ _⟩

/-- A candidate is entered in both worlds, or it is refused or ignored in both. -/
theorem enterCandidate (h : Beside ρ w v) (P : PlainHost H) (allot allot' : Nat → Nat) (level : Nat) (m : Method)
    (vs : List Value) :
    let done := w.perform (P.asHost allot).keeps ((P.asHost allot).ask level) []
      (.enterCandidate 0 m (vs.map (Value.placed w.host.roll)))
    let done' := v.perform (P.asHost allot').keeps ((P.asHost allot').ask level) []
      (.enterCandidate 0 m (vs.map (Value.placed v.host.roll)))
    (∀ i k, Bond done.2 done'.2 i k → i = ρ k) → done.1 = done'.1 ∧ Beside ρ done.2 done'.2 := by
  simp only [World.perform, h.complete_eq, h.inTarget_eq]
  by_cases hend : (v.session 0).complete = true
  · simp only [if_pos hend]
    exact fun _ => ⟨trivial, h⟩
  · by_cases hidle : (!(v.session 0).chain.inTarget) = true
    · simp only [if_neg hend, if_pos hidle]
      exact fun _ => ⟨trivial, h⟩
    · simp only [if_neg hend, if_neg hidle]
      intro hρ
      obtain ⟨hreply, hbeside⟩ := h.updateWith P allot allot' level m vs Session.natural_enterCandidate
        Session.settled_enterCandidate hρ
      exact ⟨hreply.eq, hbeside⟩

/-- The returns of a request are noted. -/
theorem conclude {r r' : Request} {done : r.Reply × World (Enrolled H)} {done' : r'.Reply × World (Enrolled H)}
    (h : Beside ρ done.2 done'.2) : Beside ρ (World.conclude r done) (World.conclude r' done') :=
  h.note nofun nofun

/-- **An operation does the same in both worlds**, but for the identities, and a renaming that
fits all identities given by then leads from what is seen in the one to what is seen in the
other. -/
theorem perform (h : Beside ρ w v) (P : PlainHost H) (allot allot' : Nat → Nat) (level : Nat) (op : Operation) :
    let done := op.perform (P.asHost allot) level 0 w
    let done' := op.perform (P.asHost allot') level 0 v
    (∀ i k, Bond done.2 done'.2 i k → i = ρ k) → op.Renamed ρ done.1 done'.1 ∧ Beside ρ done.2 done'.2 := by
  intro done done' hρ
  cases op with
  | enterEntry m vs =>
    obtain ⟨hreply, hbeside⟩ := h.updateWith P allot allot' level m vs Session.natural_enterEntry
      Session.settled_enterEntry fun i k hik => hρ i k (hik.mono (.note _ _) (.note _ _))
    exact ⟨hreply.eq, hbeside.conclude⟩
  | exitEntry =>
    obtain ⟨hreply, hbeside⟩ := h.exitEntry P allot allot' ((P.asHost allot).ask level) ((P.asHost allot').ask level)
    exact ⟨hreply, hbeside.conclude⟩
  | enterCandidate m vs =>
    obtain ⟨hreply, hbeside⟩ := h.enterCandidate P allot allot' level m vs
      fun i k hik => hρ i k (hik.mono (.note _ _) (.note _ _))
    exact ⟨hreply, hbeside.conclude⟩
  | exitCandidate =>
    obtain ⟨hreply, hbeside⟩ := h.updateLive Session.natural_exitCandidate Session.settled_exitCandidate
      Session.settled_exitCandidate
    exact ⟨hreply.eq, hbeside.conclude⟩
  | matchChain m vs =>
    obtain ⟨hreply, hbeside⟩ := h.updateWith P allot allot' level m vs Session.natural_matchChain
      Session.settled_matchChain fun i k hik => hρ i k (hik.mono (.note _ _) (.note _ _))
    exact ⟨hreply, hbeside.conclude⟩
  | discover offered =>
    obtain ⟨hreply, hbeside⟩ := h.updateLive (Session.natural_discover offered)
      (Session.settled_discover offered) (Session.settled_discover offered)
    exact ⟨hreply.eq, hbeside.conclude⟩

end Beside

end World

end CallChain
