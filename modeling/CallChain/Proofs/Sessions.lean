/-
# Sessions follow the chain machine

`replay` runs the machine of a session over a journal, in the order in which requests
returned, requests made by objects that were asked included. After every return, at any
depth of calls, the session stands as the machine does.

The invariant is that this holds of every session that has been opened and that the
two fields of its chain agree. A request rereads the session after its values are
rendered, so what happened in between is already part of the replay.

Key definitions: `World.OnCourse`, `Told`.
Key theorems: `World.OnCourse.conclude`, `Host.onCourse_rule`,
`Host.sessions_follow_course`.
-/
import CallChain.Proofs.Course
import CallChain.Proofs.RunRule

namespace CallChain

variable {H α : Type}

/-! ### All sessions of a world -/

namespace World

theorem session_setSession (w : World H) (n : Nat) (t : Session) (hn : n < w.sessions.length) (s : Nat) :
    (w.setSession n t).session s = if s = n then t else w.session s := by
  simp only [Moment.session, setSession, List.getD_eq_getElem?_getD, List.getElem?_set, hn, if_true]
  by_cases hs : n = s
  · simp [hs]
  · simp [hs, Ne.symm hs]

theorem session_eq_closed {w : World H} {s : Nat} (h : w.sessions.length ≤ s) : w.session s = .closed := by
  simp [Moment.session, List.getD_eq_getElem?_getD, h]

/-- To set a session to what it is changes nothing. -/
theorem setSession_self (w : World H) (n : Nat) : w.setSession n (w.session n) = w := by
  have hset : w.sessions.set n (w.session n) = w.sessions := by
    by_cases hn : n < w.sessions.length
    · simp [Moment.session, List.getD_eq_getElem?_getD, hn]
    · exact List.set_eq_of_length_le (Nat.le_of_not_lt hn)
  simp only [setSession, hset]

/-- A change of a live session is an attempt on it. -/
theorem updateLive_eq {β : Type} (w : World H) (n : Nat) (step : Session → Except Fault (β × Session)) :
    w.updateLive n step =
      (((w.session n).attempt step).1, w.setSession n ((w.session n).attempt step).2) := by
  unfold updateLive update Session.attempt
  split
  · rw [setSession_self]
  · cases hstep : step (w.session n) with
    | error fault => simp only [setSession_self]
    | ok stepped => rfl

/-- Every session stands as its machine does, and the fields of its chain agree. A
session that has not been opened has done nothing yet. -/
structure OnCourse (w : World H) : Prop where
  opened : ∀ s < w.sessions.length,
    replay s w.journal = some (w.session s).course ∧ (w.session s).chain.InStep
  unopened : ∀ s, w.sessions.length ≤ s → replay s w.journal = some .start

end World

/-- At every return in a journal the sessions stood as their machines did, and the
reply was one that the machine of its session can give. -/
def Told : List Event → Prop
  | [] => True
  | .returned r reply m :: earlier =>
    (∀ s < m.sessions.length,
      (∃ c, replay s (.returned r reply m :: earlier) = some c ∧ m.Agrees s c) ∧
        (r.session? = some s → ∃ c, replay s earlier = some c ∧ c.Answers (lastResults earlier) r reply)) ∧
      Told earlier
  | _ :: earlier => Told earlier

namespace World.OnCourse

theorem start (h : H) (outlet : Option Outlet) : (World.start h outlet).OnCourse where
  opened s hs := by
    obtain rfl : s = 0 := by simpa [World.start] using hs
    exact ⟨rfl, Chain.inStep_empty⟩
  unopened _ _ := rfl

/-- Only the sessions and the replay of the journal matter. -/
theorem congr {w v : World H} (h : w.OnCourse) (hs : v.sessions = w.sessions)
    (hj : ∀ s, replay s v.journal = replay s w.journal) : v.OnCourse where
  opened s hlt := by
    have hsession : v.session s = w.session s := by simp only [Moment.session, hs]
    rw [hj, hsession]
    exact h.opened s (hs ▸ hlt)
  unopened s hle := by
    rw [hj]
    exact h.unopened s (hs ▸ hle)

/-- A request has been performed: its own session followed the machine, the others
are as they were. Then the return is on course, too. -/
theorem conclude {w v : World H} {r : Request} {reply : r.Reply} (hw : w.OnCourse) (htold : Told v.journal)
    (hj : ∀ s, replay s v.journal = replay s w.journal) (hlength : v.sessions.length = w.sessions.length)
    (hother : ∀ s, r.session? ≠ some s → v.session s = w.session s)
    (hself : ∀ s, r.session? = some s → s < w.sessions.length → (w.session s).chain.InStep →
      (w.session s).Follows (lastResults v.journal) r reply (v.session s))
    (hclosed : ∀ s, r.session? = some s → w.sessions.length ≤ s →
      Course.start.after (lastResults v.journal) r reply = some .start) :
    (World.conclude r (reply, v)).OnCourse ∧ Told (World.conclude r (reply, v)).journal := by
  have hopened : ∀ s < w.sessions.length,
      replay s (World.conclude r (reply, v)).journal = some (v.session s).course ∧
        (v.session s).chain.InStep := by
    intro s hs
    obtain ⟨hcourse, hstep⟩ := hw.opened s hs
    have hreplay : replay s (World.conclude r (reply, v)).journal =
        if r.session? = some s then (w.session s).course.after (lastResults v.journal) r reply
        else some (w.session s).course := by
      simp only [World.conclude, World.note, replay, hj, hcourse, Option.bind_some]
    by_cases hr : r.session? = some s
    · rw [hreplay, if_pos hr]
      exact ⟨(hself s hr hs hstep).move, (hself s hr hs hstep).inStep⟩
    · rw [hreplay, if_neg hr, hother s hr]
      exact ⟨rfl, hstep⟩
  refine ⟨⟨fun s hs => hopened s (hlength ▸ hs), fun s hs => ?_⟩, ⟨fun s hs => ⟨?_, fun hr => ?_⟩, htold⟩⟩
  · have hle : w.sessions.length ≤ s := hlength ▸ hs
    simp only [World.conclude, World.note, replay, hj, hw.unopened s hle, Option.bind_some]
    by_cases hr : r.session? = some s
    · rw [if_pos hr, hclosed s hr hle]
    · rw [if_neg hr]
  · obtain ⟨hcourse, hstep⟩ := hopened s (hlength ▸ hs)
    exact ⟨_, hcourse, Moment.agrees_course hstep⟩
  · have hlt : s < w.sessions.length := hlength ▸ hs
    obtain ⟨hcourse, hstep⟩ := hw.opened s hlt
    exact ⟨_, (hj s).trans hcourse, (hself s hr hlt hstep).answer⟩

/-- A request that changes its session by a step, refused when the session is complete. -/
theorem conclude_setSession {w v : World H} {r : Request} {s : Nat} {reply : r.Reply} {t : Session}
    (hr : r.session? = some s) (hw : w.OnCourse) (htold : Told v.journal) (hs : v.sessions = w.sessions)
    (hj : ∀ s, replay s v.journal = replay s w.journal)
    (hself : (w.session s).chain.InStep → (w.session s).Follows (lastResults v.journal) r reply t)
    (hclosed : w.session s = .closed →
      Course.start.after (lastResults v.journal) r reply = some .start) :
    (World.conclude r (reply, v.setSession s t)).OnCourse ∧
      Told (World.conclude r (reply, v.setSession s t)).journal := by
  have hsession : ∀ k, v.session k = w.session k := fun k => by simp only [Moment.session, hs]
  refine hw.conclude htold hj (by simp [World.setSession, hs]) (fun k hk => ?_) (fun k hk hlt hstep => ?_)
    (fun k hk hle => ?_)
  · have hne : s ≠ k := fun h => hk (h ▸ hr)
    simp [Moment.session, World.setSession, List.getD_eq_getElem?_getD, hne, hs]
  · obtain rfl : s = k := Option.some.inj (hr.symm.trans hk)
    rw [World.session_setSession v s t (hs ▸ hlt), if_pos rfl]
    exact hself hstep
  · obtain rfl : s = k := Option.some.inj (hr.symm.trans hk)
    exact hclosed (World.session_eq_closed hle)

/-- A request that changes nothing the machines see, and whose reply tells how its
session stands if it tells anything. -/
theorem conclude_same {w v : World H} {r : Request} {reply : r.Reply} (hw : w.OnCourse)
    (htold : Told v.journal) (hs : v.sessions = w.sessions)
    (hj : ∀ s, replay s v.journal = replay s w.journal)
    (hafter : ∀ c : Course, c.after (lastResults v.journal) r reply = some c)
    (hanswer : ∀ s, r.session? = some s → (w.session s).chain.InStep →
      (w.session s).course.Answers (lastResults v.journal) r reply) :
    (World.conclude r (reply, v)).OnCourse ∧ Told (World.conclude r (reply, v)).journal := by
  have hsession : ∀ k, v.session k = w.session k := fun k => by simp only [Moment.session, hs]
  refine hw.conclude htold hj (by rw [hs]) (fun k _ => hsession k) (fun k hk _ hstep => ?_)
    (fun k _ _ => hafter .start)
  rw [hsession]
  exact ⟨hafter _, hstep, hanswer k hk hstep⟩

end World.OnCourse

theorem lastResults_captured {j : List Event} {n : Nat} {vs : List Value} {rs : List (Rendered Nat)}
    (h : j.head? = some (.rendered n vs rs)) (s : Nat) (f : Frame) :
    lastResults (.captured s f :: j) = rs := by
  cases j with
  | nil => cases h
  | cons e j =>
    obtain rfl : e = .rendered n vs rs := Option.some.inj h
    rfl

namespace World.OnCourse

/-- What is made of a frame whose values have just been rendered. -/
theorem recorded {w : World H} {r : Request} {done : r.Reply × World H} {n : Nat} {vs : List Value}
    {rs : List (Rendered Nat)} (hhead : w.journal.head? = some (.rendered n vs rs))
    (hdone : w.record rs r = some done) (hw : w.OnCourse) (htold : Told w.journal) :
    (World.conclude r done).OnCourse ∧ Told (World.conclude r done).journal := by
  have hresults : ∀ s m, lastResults (w.note (.captured s ⟨m, rs⟩)).journal = rs :=
    fun s m => lastResults_captured hhead s ⟨m, rs⟩
  cases r with
  | enterEntry s m vs =>
    cases hdone
    rw [World.updateLive_eq]
    refine conclude_setSession rfl hw htold rfl (fun _ => rfl) (fun hstep => ?_) (fun hclosed => ?_)
    · rw [hresults]
      exact Session.follows_enterEntry hstep s m vs rs
    · rw [show (w.note (.captured s ⟨m, rs⟩)).session s = .closed from hclosed]
      rfl
  | enterCandidate s m vs =>
    cases hdone
    rw [World.updateLive_eq]
    refine conclude_setSession rfl hw htold rfl (fun _ => rfl) (fun hstep => ?_) (fun hclosed => ?_)
    · rw [hresults]
      exact Session.follows_enterCandidate hstep s m vs rs
    · rw [show (w.note (.captured s ⟨m, rs⟩)).session s = .closed from hclosed]
      rfl
  | matchChain s m vs =>
    cases hdone
    rw [World.updateLive_eq]
    refine conclude_setSession rfl hw htold rfl (fun _ => rfl) (fun hstep => ?_) (fun hclosed => ?_)
    · rw [hresults]
      exact Session.follows_matchChain hstep s m vs rs
    · rw [show (w.note (.captured s ⟨m, rs⟩)).session s = .closed from hclosed]
      rfl
  | _ => cases hdone

/-- A session is opened, and has done nothing yet. -/
theorem opening {w : World H} (hw : w.OnCourse) (htold : Told w.journal) (share : Option Nat) :
    (World.conclude (.openSession share) (w.openSession share)).OnCourse ∧
      Told (World.conclude (.openSession share) (w.openSession share)).journal := by
  obtain ⟨n, registries, heq⟩ : ∃ n registries, w.openSession share =
      (w.sessions.length,
        { w with registries := registries, sessions := w.sessions ++ [.fresh n none] }) := by
    unfold World.openSession
    split
    · exact ⟨_, _, rfl⟩
    · exact ⟨_, _, rfl⟩
  rw [heq]
  have hreplay : ∀ s, replay s (World.conclude (.openSession share) (w.sessions.length,
      { w with registries := registries, sessions := w.sessions ++ [.fresh n none] })).journal =
      replay s w.journal := by
    intro s
    simp only [World.conclude, World.note, replay, Request.session?, reduceCtorEq, if_false,
      Option.bind_fun_some]
  have hopened : ∀ s < w.sessions.length + 1,
      replay s w.journal = some ((w.sessions ++ [Session.fresh n none]).getD s .closed).course ∧
        ((w.sessions ++ [Session.fresh n none]).getD s .closed).chain.InStep := by
    intro s hs
    by_cases hlt : s < w.sessions.length
    · rw [List.getD_eq_getElem?_getD, List.getElem?_append_left hlt, ← List.getD_eq_getElem?_getD]
      exact hw.opened s hlt
    · obtain rfl : s = w.sessions.length := by omega
      rw [List.getD_eq_getElem?_getD, List.getElem?_concat_length, Option.getD_some]
      exact ⟨hw.unopened _ (Nat.le_refl _), Chain.inStep_empty⟩
  refine ⟨⟨fun s hs => ?_, fun s hs => ?_⟩, fun s hs => ⟨?_, fun hr => by cases hr⟩, htold⟩
  · rw [hreplay]
    exact hopened s (by simpa [World.conclude, World.note] using hs)
  · rw [hreplay]
    exact hw.unopened s (Nat.le_trans (by simp [World.conclude, World.note]) hs)
  · obtain ⟨hcourse, hstep⟩ := hopened s (by simpa using hs)
    exact ⟨_, (hreplay s).trans hcourse, Moment.agrees_course hstep⟩

/-- What is made of a request that renders nothing. -/
theorem silent {w : World H} {keeps : H → List ObjectRef → List ObjectRef} {ask : Asking H}
    {held : List ObjectRef} {r : Request} (hr : r.isSilent = true) (hw : w.OnCourse)
    (htold : Told w.journal) :
    (World.conclude r (w.perform keeps ask held r)).OnCourse ∧
      Told (World.conclude r (w.perform keeps ask held r)).journal := by
  cases r with
  | exitEntry s =>
    have hfollows := fun h => Session.follows_exitEntry (s := w.session s) h s
    simp only [perform, updateLive_eq]
    generalize hleft : (w.session s).attempt Session.exitEntry = left at hfollows
    obtain ⟨reply, t⟩ := left
    cases reply with
    | error fault =>
      exact conclude_setSession rfl hw htold rfl (fun _ => rfl) (fun hstep => hfollows hstep _) (fun _ => rfl)
    | ok u =>
      -- the purge that follows touches no session
      refine conclude_setSession (v := (w.purge keeps held (w.session s).registry).2) rfl hw htold rfl
        (fun _ => rfl) (fun hstep => hfollows hstep _) (fun hclosed => ?_)
      rw [hclosed] at hleft
      cases hleft
  | exitCandidate s =>
    simp only [perform, updateLive_eq]
    refine conclude_setSession rfl hw htold rfl (fun _ => rfl)
      (fun hstep => Session.follows_exitCandidate hstep s _) (fun hclosed => ?_)
    rw [hclosed]
    rfl
  | discover s offered =>
    simp only [perform, updateLive_eq]
    refine conclude_setSession rfl hw htold rfl (fun _ => rfl)
      (fun hstep => Session.follows_discover hstep s offered _) (fun hclosed => ?_)
    rw [hclosed]
    rfl
  | identify s v =>
    simp only [perform]
    split
    · exact conclude_same hw htold rfl (fun _ => rfl) (fun _ => rfl) (fun _ _ _ => trivial)
    · exact conclude_same hw htold rfl (fun _ => rfl) (fun _ => rfl) (fun _ _ _ => trivial)
  | lookup s v =>
    simp only [perform]
    split <;>
      exact conclude_same hw htold rfl (fun _ => rfl) (fun _ => rfl) (fun _ _ _ => trivial)
  | purge s =>
    simp only [perform]
    split
    · exact conclude_same hw htold rfl (fun _ => rfl) (fun _ => rfl) (fun _ _ _ => trivial)
    · exact conclude_same hw htold rfl (fun _ => rfl) (fun _ => rfl) (fun _ _ _ => trivial)
  | openSession share => exact opening hw htold share
  | look s =>
    refine conclude_same hw htold rfl (fun _ => rfl) (fun _ => rfl) (fun k hk hstep => ?_)
    obtain rfl : s = k := Option.some.inj hk
    have hagrees := Moment.agrees_course hstep
    exact ⟨hagrees.phase, hagrees.depth, hagrees.inTarget⟩
  | frames s =>
    refine conclude_same hw htold rfl (fun _ => rfl) (fun _ => rfl) (fun k hk hstep => ?_)
    obtain rfl : s = k := Option.some.inj hk
    rfl
  | sent s => exact conclude_same hw htold rfl (fun _ => rfl) (fun _ => rfl) (fun _ _ _ => trivial)
  | _ => cases hr

end World.OnCourse

/-! ### All sessions, all runs -/

/-- Every step of a run keeps the sessions on course. -/
theorem Host.onCourse_rule (D : Host H) : D.Rule fun _ w => w.OnCourse ∧ Told w.journal where
  fewer _ h := h
  grasp _ h := h
  host _ h := ⟨h.1.congr rfl fun _ => rfl, h.2⟩
  swept h := ⟨h.1.congr rfl fun _ => rfl, h.2⟩
  create _ _ _ h := ⟨h.1.congr rfl fun _ => rfl, h.2⟩
  asked _ h := ⟨h.1.congr rfl fun _ => rfl, h.2⟩
  answered _ _ h := ⟨h.1.congr rfl fun _ => rfl, h.2⟩
  tag _ _ h := ⟨h.1.congr rfl fun _ => rfl, h.2⟩
  rendered _ _ _ h := ⟨h.1.congr rfl fun _ => rfl, h.2⟩
  refused hreply h :=
    World.OnCourse.conclude_same h.1 h.2 rfl (fun _ => rfl)
      (fun c => Request.after_refused hreply c _)
      (fun _ hs hstep => Request.answers_refused hs hreply hstep _)
  recorded _ _ _ _ hhead hdone h := World.OnCourse.recorded hhead hdone h.1 h.2
  shown {held w r} reply hr h := by
    cases r with
    | render s vs =>
      exact World.OnCourse.conclude_same h.1 h.2 rfl (fun _ => rfl) (fun _ => rfl) (fun _ _ _ => trivial)
    | renderEach s vs =>
      exact World.OnCourse.conclude_same h.1 h.2 rfl (fun _ => rfl) (fun _ => rfl) (fun _ _ _ => trivial)
    | _ => cases hr
  silent hr h := World.OnCourse.silent hr h.1 h.2

theorem Told.of_split {r : Request} {reply : r.Reply} {m : Moment} {earlier : List Event} :
    ∀ later : List Event, Told (later ++ .returned r reply m :: earlier) →
      Told (.returned r reply m :: earlier)
  | [], h => h
  | .returned _ _ _ :: later, h => Told.of_split later h.2
  | .tagged _ _ _ :: later, h => Told.of_split later h
  | .asked _ :: later, h => Told.of_split later h
  | .answered _ _ :: later, h => Told.of_split later h
  | .rendered _ _ _ :: later, h => Told.of_split later h
  | .captured _ _ :: later, h => Told.of_split later h
  | .released _ _ :: later, h => Told.of_split later h

/-- **Sessions follow the chain machine.** Whatever host code does, and whatever the
objects do that are asked on the way: after every request that returned, every session
stands as its machine does after the returns up to this one, and the reply is one that
the machine of its session could give before. -/
theorem Host.sessions_follow_course (D : Host H) (level : Nat) (a : Activity H α) (h : H)
    (outlet : Option Outlet) :
    let w := (D.run level a (World.start h outlet)).2
    (∀ s < w.sessions.length, ∃ c, replay s w.journal = some c ∧ w.Agrees s c) ∧
      ∀ (later earlier : List Event) (r : Request) (reply : r.Reply) (m : Moment),
        w.journal = later ++ .returned r reply m :: earlier → ∀ s < m.sessions.length,
          (∃ c, replay s (.returned r reply m :: earlier) = some c ∧ m.Agrees s c) ∧
            (r.session? = some s →
              ∃ c, replay s earlier = some c ∧ c.Answers (lastResults earlier) r reply) := by
  intro w
  obtain ⟨hcourse, htold⟩ : w.OnCourse ∧ Told w.journal :=
    D.onCourse_rule.run ⟨World.OnCourse.start h outlet, trivial⟩
  refine ⟨fun s hs => ?_, fun later earlier r reply m hsplit s hs => ?_⟩
  · obtain ⟨hreplay, hstep⟩ := hcourse.opened s hs
    exact ⟨_, hreplay, Moment.agrees_course hstep⟩
  · rw [hsplit] at htold
    exact (Told.of_split later htold).1 s hs

end CallChain
