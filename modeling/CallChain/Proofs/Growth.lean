/-
# Growth

Whatever happens in a world, nothing of its past is lost: the journal only goes on,
and a session stays on the registry that it was opened with. Requests come in three
kinds, by what they render. A request with a frame renders the values of the frame
unless it is refused at once, and then comes to what is made of the frame
(`World.record`); a request may only render; or it renders nothing, and does at once
all that it does.

Key definitions: `World.Grows`, `World.record`, `Request.refusal?`.
Key theorems: `World.Grows.silent`, `World.perform_framed`.
-/
import CallChain.World.Run

namespace CallChain

variable {H : Type}

/-! ### Sessions keep their registries -/

namespace Session

/-- A step of a session that leaves it on its registry. -/
def Settled {β : Type} (step : Session → Except Fault (β × Session)) : Prop :=
  ∀ {s t : Session} {b : β}, step s = .ok (b, t) → t.registry = s.registry

theorem settled_enterEntry (f : Frame) : Settled (enterEntry f) := by
  intro s t b h
  unfold enterEntry at h
  cases hc : s.chain.enter f <;> rw [hc] at h <;> cases h
  rfl

theorem settled_exitEntry : Settled exitEntry := by
  intro s t b h
  unfold exitEntry at h
  cases hc : s.chain.leave <;> rw [hc] at h <;> cases h
  rfl

theorem settled_enterCandidate (f : Frame) : Settled (enterCandidate f) := by
  intro s t b h
  unfold enterCandidate at h
  cases hc : s.chain.push f <;> rw [hc] at h <;> cases h
  rfl

theorem settled_exitCandidate : Settled exitCandidate := by
  intro s t b h
  unfold exitCandidate at h
  split at h
  · cases h
    rfl
  · cases hc : s.chain.pop <;> rw [hc] at h <;> cases h
    rfl

theorem settled_matchChain (f : Frame) : Settled (matchChain f) := by
  intro s t b h
  cases h
  rfl

theorem settled_discover (offered : List String) : Settled (discover offered) := by
  intro s t b h
  cases h
  rfl

end Session

namespace World

theorem session_eq_getElem {w : World H} {n : Nat} (h : n < w.sessions.length) :
    w.session n = w.sessions[n] := by
  simp [Moment.session, List.getD_eq_getElem?_getD, h]

theorem registryOf?_setSession {w : World H} {n : Nat} {s : Session}
    (h : s.registry = (w.session n).registry) (k : Nat) :
    (w.setSession n s).registryOf? k = w.registryOf? k := by
  simp only [Moment.registryOf?, setSession, List.getElem?_set]
  split
  · rename_i hnk
    subst hnk
    split
    · rename_i hlt
      rw [List.getElem?_eq_getElem hlt, Option.map_some, Option.map_some, h, session_eq_getElem hlt]
    · rename_i hge
      rw [List.getElem?_eq_none (Nat.le_of_not_lt hge)]
  · rfl

theorem registryOf?_openSession {w : World H} {share : Option Nat} {s n : Nat}
    (h : w.registryOf? s = some n) : (w.openSession share).2.registryOf? s = some n := by
  obtain ⟨session, hsession, hn⟩ := Option.map_eq_some_iff.1 h
  have hlt := (List.getElem?_eq_some_iff.1 hsession).1
  unfold openSession
  split <;>
  · simp only [Moment.registryOf?]
    rw [List.getElem?_append_left hlt, hsession, Option.map_some, hn]

/-- A session that is not complete has a registry. -/
theorem registryOf?_of_live {w : World H} {s : Nat} (h : (w.session s).complete = false) :
    ∃ n, w.registryOf? s = some n := by
  by_cases hs : s < w.sessions.length
  · exact ⟨w.sessions[s].registry, by simp [Moment.registryOf?, hs]⟩
  · simp [Moment.session, List.getD_eq_getElem?_getD, hs, Session.closed] at h

/-- A capture on a registry is a pass, and the note on it. -/
theorem capture_of_registry {w : World H} {s n : Nat} (hs : w.registryOf? s = some n) (ask : Asking H)
    (held : List ObjectRef) (vs : List Value) :
    w.capture ask held s vs = (((surroundings ask n).run held (vs.map w.grasp) w).1,
      ((surroundings ask n).run held (vs.map w.grasp) w).2.note
        (.rendered n (vs.map w.grasp) ((surroundings ask n).run held (vs.map w.grasp) w).1)) := by
  simp only [capture, hs]

/-! ### What is never lost -/

/-- The journal goes on, and every session stays on its registry. -/
structure Grows (w v : World H) : Prop where
  journal : w.journal <:+ v.journal
  registryOf : ∀ {s n : Nat}, w.registryOf? s = some n → v.registryOf? s = some n

namespace Grows

variable {w v u : World H}

theorem refl (w : World H) : w.Grows w :=
  ⟨List.suffix_refl _, id⟩

theorem trans (h : w.Grows v) (h' : v.Grows u) : w.Grows u :=
  ⟨h.journal.trans h'.journal, fun hs => h'.registryOf (h.registryOf hs)⟩

theorem note (w : World H) (e : Event) : w.Grows (w.note e) :=
  ⟨List.suffix_cons _ _, id⟩

theorem host (w : World H) (h : H) : w.Grows { w with host := h } :=
  ⟨List.suffix_refl _, id⟩

theorem sweep (w : World H) (keeps : H → List ObjectRef → List ObjectRef) (held : List ObjectRef) :
    w.Grows (w.sweep keeps held) :=
  ⟨List.suffix_refl _, id⟩

theorem create (w : World H) (typeName : String) (place : Nat) (store : ObjectRef → H → H) :
    w.Grows (w.create typeName place store).2 :=
  ⟨List.suffix_refl _, id⟩

theorem tag (w : World H) (n : Nat) (o : ObjectRef) : w.Grows (w.tag n o).2 :=
  ⟨List.suffix_cons _ _, id⟩

theorem purge (w : World H) (keeps : H → List ObjectRef → List ObjectRef) (held : List ObjectRef)
    (n : Nat) : w.Grows (w.purge keeps held n).2 :=
  ⟨List.suffix_cons _ _, id⟩

theorem setSession {n : Nat} {s : Session} (h : s.registry = (w.session n).registry) :
    w.Grows (w.setSession n s) :=
  ⟨List.suffix_refl _, fun hs => by rw [registryOf?_setSession h]; exact hs⟩

theorem openSession (w : World H) (share : Option Nat) : w.Grows (w.openSession share).2 := by
  refine ⟨?_, registryOf?_openSession⟩
  unfold World.openSession
  split <;> exact List.suffix_refl _

theorem updateLive {β : Type} {step : Session → Except Fault (β × Session)} (hstep : Session.Settled step)
    (w : World H) (s : Nat) : w.Grows (w.updateLive s step).2 := by
  unfold World.updateLive World.update
  split
  · exact refl w
  · split
    · exact refl w
    · rename_i stepped h
      exact setSession (hstep h)

end Grows

/-! ### Requests, by what they render -/

/-- What a request with a frame comes to once its values are rendered. -/
def record (w : World H) (rs : List (Rendered Nat)) : (r : Request) → Option (r.Reply × World H)
  | .enterEntry s m _ =>
    some ((w.note (.captured s ⟨m, rs⟩)).updateLive s (Session.enterEntry ⟨m, rs⟩))
  | .enterCandidate s m _ =>
    some ((w.note (.captured s ⟨m, rs⟩)).updateLive s (Session.enterCandidate ⟨m, rs⟩))
  | .matchChain s m _ =>
    some ((w.note (.captured s ⟨m, rs⟩)).updateLive s (Session.matchChain ⟨m, rs⟩))
  | _ => none

theorem Grows.record {w : World H} {rs : List (Rendered Nat)} {r : Request} {done : r.Reply × World H}
    (h : w.record rs r = some done) : w.Grows done.2 := by
  cases r with
  | enterEntry s m vs =>
    cases h
    exact (Grows.note w _).trans (Grows.updateLive (Session.settled_enterEntry _) _ s)
  | enterCandidate s m vs =>
    cases h
    exact (Grows.note w _).trans (Grows.updateLive (Session.settled_enterCandidate _) _ s)
  | matchChain s m vs =>
    cases h
    exact (Grows.note w _).trans (Grows.updateLive (Session.settled_matchChain _) _ s)
  | _ => cases h

end World

/-- The session that a request goes to. -/
def Request.session? : Request → Option Nat
  | .enterEntry s _ _ | .exitEntry s | .enterCandidate s _ _ | .exitCandidate s | .matchChain s _ _
  | .discover s _ | .look s | .frames s | .sent s | .identify s _ | .lookup s _ | .purge s
  | .render s _ | .renderEach s _ => some s
  | .openSession _ => none

/-- The reply to a request with a frame that is refused before any value is rendered. -/
def Request.refusal? (m : Moment) : (r : Request) → Option r.Reply
  | .enterEntry s _ _ => if (m.session s).complete then some (.error .sessionComplete) else none
  | .enterCandidate s _ _ =>
    if (m.session s).complete then some (.error .sessionComplete)
    else if !(m.session s).chain.inTarget then some (.ok false) else none
  | .matchChain s _ _ => if (m.session s).complete then some (.error .sessionComplete) else none
  | _ => none

/-- Whether a request renders no values. -/
def Request.isSilent : Request → Bool
  | .enterEntry .. | .enterCandidate .. | .matchChain .. | .render .. | .renderEach .. => false
  | _ => true

/-- Whether a request only renders values. -/
def Request.isShow : Request → Bool
  | .render .. | .renderEach .. => true
  | _ => false

theorem World.Grows.silent {w : World H} {keeps : H → List ObjectRef → List ObjectRef} {ask : Asking H}
    {held : List ObjectRef} {r : Request} (h : r.isSilent = true) :
    w.Grows (w.perform keeps ask held r).2 := by
  cases r with
  | exitEntry s =>
    have hleft := updateLive Session.settled_exitEntry w s
    simp only [perform]
    split
    · exact hleft
    · exact hleft.trans (purge _ _ _ _)
  | exitCandidate s => exact updateLive Session.settled_exitCandidate w s
  | discover s offered => exact updateLive (Session.settled_discover offered) w s
  | identify s v =>
    simp only [perform]
    split
    · exact tag w _ _
    · exact refl w
  | lookup s v =>
    simp only [perform]
    split <;> exact refl w
  | purge s =>
    simp only [perform]
    split
    · exact purge w _ _ _
    · exact refl w
  | openSession share => exact openSession w share
  | look s => exact refl w
  | frames s => exact refl w
  | sent s => exact refl w
  | _ => cases h

/-- The request began in `u`, where it was not refused, and the run has come to `w` since. -/
structure World.Began (r : Request) (u w : World H) : Prop where
  admitted : r.refusal? u.toMoment = none
  grows : u.Grows w

/-- A request with a frame is refused at once, or its values are rendered and then it
comes to what is made of the frame. -/
theorem World.perform_framed (w : World H) (keeps : H → List ObjectRef → List ObjectRef) (ask : Asking H)
    (held : List ObjectRef) {r : Request} (hsilent : r.isSilent = false) (hshow : r.isShow = false) :
    (∃ reply, r.refusal? w.toMoment = some reply ∧ w.perform keeps ask held r = (reply, w)) ∨
      ∃ s vs, r.session? = some s ∧ (w.session s).complete = false ∧ r.refusal? w.toMoment = none ∧
        (w.capture ask held s vs).2.record (w.capture ask held s vs).1 r =
          some (w.perform keeps ask held r) := by
  cases r with
  | enterEntry s m vs =>
    simp only [perform, updateWith, Request.refusal?]
    split
    · exact .inl ⟨_, rfl, rfl⟩
    · exact .inr ⟨s, vs, rfl, by simp_all, rfl, rfl⟩
  | enterCandidate s m vs =>
    simp only [perform, updateWith, Request.refusal?]
    split
    · exact .inl ⟨_, rfl, rfl⟩
    · split
      · exact .inl ⟨_, rfl, rfl⟩
      · exact .inr ⟨s, vs, rfl, by simp_all, rfl, rfl⟩
  | matchChain s m vs =>
    simp only [perform, updateWith, Request.refusal?]
    split
    · exact .inl ⟨_, rfl, rfl⟩
    · exact .inr ⟨s, vs, rfl, by simp_all, rfl, rfl⟩
  | render s vs => cases hshow
  | renderEach s vs => cases hshow
  | _ => cases hsilent

end CallChain
