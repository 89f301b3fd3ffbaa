/-
# How a return turns a session

A session changes only when a request that went to it returns, and then in one of a few
ways: it refuses the request at once and stays as it is (`Session.Refuses`), or it is
turned when the values of the request have been rendered (`Session.Turns`), and it may
have changed since the request began. So a statement about a session and the journal so
far holds in every run, at every return and at every depth of calls, once each of these
ways preserves it (`Session.Rule.run`).

Key definitions: `Session.Refuses`, `Session.Turns`, `Session.Resolved`, `Session.Rule`,
`World.Holds`, `Session.Traced`.
Key theorems: `World.Holds.conclude`, `Session.Rule.host`, `Session.Rule.traced`,
`Session.Rule.run`.
-/
import CallChain.Proofs.Sessions

namespace CallChain

variable {H α : Type}

/-! ### What a return makes of a session -/

/-- A session refuses a request before any value is rendered: because it is complete, or,
to a candidate, because no chain is active. -/
def Session.Refuses (x : Session) : (r : Request) → r.Reply → Prop
  | .enterEntry .., reply => x.complete = true ∧ reply = .error .sessionComplete
  | .enterCandidate .., reply =>
    (x.complete = true ∧ reply = .error .sessionComplete) ∨
      (x.complete = false ∧ x.chain.inTarget = false ∧ reply = .ok false)
  | .matchChain .., reply => x.complete = true ∧ reply = .error .sessionComplete
  | _, _ => False

/-- What was done last is the capture of a frame for a call of this method. -/
def CapturedLast (j : List Event) (s : Nat) (m : Method) (f : Frame) : Prop :=
  f.method = m ∧ j.head? = some (.captured s f)

/-- What a request that is answered after the journal `j` makes of the session that it
goes to. Its frame has just been captured. -/
def Session.Turns (x : Session) (j : List Event) : (r : Request) → r.Reply → Session → Prop
  | .enterEntry s m _, reply, t =>
    ∃ f, CapturedLast j s m f ∧ x.attempt (enterEntry f) = (reply, t)
  | .exitEntry _, reply, t => x.attempt exitEntry = (reply, t)
  | .enterCandidate s m _, reply, t =>
    ∃ f, CapturedLast j s m f ∧ x.attempt (enterCandidate f) = (reply, t)
  | .exitCandidate _, reply, t => x.attempt exitCandidate = (reply, t)
  | .matchChain s m _, reply, t =>
    ∃ f, CapturedLast j s m f ∧ x.attempt (matchChain f) = (reply, t)
  | .discover _ offered, reply, t => x.attempt (discover offered) = (reply, t)
  | _, _, t => t = x

/-- A session stands as `x` after the journal `j` when a request to it is answered, which
makes it the last argument. Where the request was not refused at once, it began when the
session was good as well, and admitted it. -/
inductive Session.Resolved (Good : Nat → List Event → Session → Prop) (s : Nat) (j : List Event)
    (x : Session) (r : Request) (reply : r.Reply) : Session → Prop
  | refused (refuses : x.Refuses r reply) : Resolved Good s j x r reply x
  | turned {begun : List Event} {y t : Session} (began : begun <:+ j) (good : Good s begun y)
      (admitted : ∀ reply, ¬ y.Refuses r reply) (turns : x.Turns j r reply t) : Resolved Good s j x r reply t

theorem Session.Resolved.mono {P Q : Nat → List Event → Session → Prop} (hPQ : ∀ s j x, P s j x → Q s j x)
    {s : Nat} {j : List Event} {x t : Session} {r : Request} {reply : r.Reply}
    (h : Resolved P s j x r reply t) : Resolved Q s j x r reply t := by
  cases h with
  | refused refuses => exact .refused refuses
  | turned began good admitted turns => exact .turned began (hPQ _ _ _ good) admitted turns

/-- A complete session stays as it is. -/
theorem Session.attempt_of_complete {β : Type} {x : Session} (h : x.complete = true)
    (step : Session → Except Fault (β × Session)) : x.attempt step = (.error .sessionComplete, x) :=
  if_pos h

/-- An attempt leaves a session as it is, or it takes the step on a live one. -/
theorem Session.attempt_cases {β : Type} {step : Session → Except Fault (β × Session)} {x t : Session}
    {reply : Except Fault β} (h : x.attempt step = (reply, t)) :
    t = x ∨ (x.complete = false ∧ ∃ b, step x = .ok (b, t)) := by
  unfold attempt at h
  split at h
  · cases h
    exact .inl rfl
  · rename_i hlive
    split at h
    · cases h
      exact .inl rfl
    · rename_i stepped hstepped
      cases h
      exact .inr ⟨by simpa using hlive, stepped.1, hstepped⟩

theorem Session.attempt_matchChain {x t : Session} {f : Frame} {reply : Except Fault Completion}
    (h : x.attempt (matchChain f) = (reply, t)) :
    (x.complete = true ∧ reply = .error .sessionComplete ∧ t = x) ∨
      (x.complete = false ∧ reply = .ok (.matching (x.chain.frames ++ [f])) ∧
        t = x.finish (.matching (x.chain.frames ++ [f]))) := by
  unfold attempt at h
  split at h
  · rename_i hcomplete
    cases h
    exact .inl ⟨hcomplete, rfl, rfl⟩
  · rename_i hlive
    cases h
    exact .inr ⟨by simpa using hlive, rfl, rfl⟩

theorem Session.attempt_discover {x t : Session} {offered : List String} {reply : Except Fault Completion}
    (h : x.attempt (discover offered) = (reply, t)) :
    (x.complete = true ∧ reply = .error .sessionComplete ∧ t = x) ∨
      (x.complete = false ∧ reply = .ok (.discovering (x.walk offered)) ∧
        t = x.finish (.discovering (x.walk offered))) := by
  unfold attempt at h
  split at h
  · rename_i hcomplete
    cases h
    exact .inl ⟨hcomplete, rfl, rfl⟩
  · rename_i hlive
    cases h
    exact .inr ⟨by simpa using hlive, rfl, rfl⟩

/-- A request that is refused before its values are rendered is refused by its session. -/
theorem Request.refuses_of_refusal {r : Request} {m : Moment} {reply : r.Reply} {s : Nat}
    (hs : r.session? = some s) (h : r.refusal? m = some reply) : (m.session s).Refuses r reply := by
  cases r with
  | enterEntry s' f vs | matchChain s' f vs =>
    obtain rfl : s' = s := Option.some.inj hs
    simp only [refusal?] at h
    split at h
    · rename_i hcomplete
      cases h
      exact ⟨hcomplete, rfl⟩
    · cases h
  | enterCandidate s' f vs =>
    obtain rfl : s' = s := Option.some.inj hs
    simp only [refusal?] at h
    split at h
    · rename_i hcomplete
      cases h
      exact .inl ⟨hcomplete, rfl⟩
    · rename_i hlive
      split at h
      · rename_i hout
        cases h
        exact .inr ⟨by simpa using hlive, by simpa using hout, rfl⟩
      · cases h
  | _ => cases h

theorem Request.admitted_of_refusal {r : Request} {m : Moment} {s : Nat} (hs : r.session? = some s)
    (h : r.refusal? m = none) (reply : r.Reply) : ¬ (m.session s).Refuses r reply := by
  intro hrefuses
  cases r with
  | enterEntry s' f vs | matchChain s' f vs =>
    obtain rfl : s' = s := Option.some.inj hs
    simp only [refusal?, if_pos hrefuses.1] at h
    cases h
  | enterCandidate s' f vs =>
    obtain rfl : s' = s := Option.some.inj hs
    rcases hrefuses with ⟨hcomplete, -⟩ | ⟨hlive, hout, -⟩
    · simp only [refusal?, if_pos hcomplete] at h
      cases h
    · simp [refusal?, hlive, hout] at h
  | _ => exact hrefuses

/-- A match is refused because the session is complete, or it completes the session with
the frame that has just been captured. -/
theorem Session.Resolved.matchChain {Good : Nat → List Event → Session → Prop} {s k : Nat} {j : List Event}
    {x t : Session} {m : Method} {vs : List Value} {reply : Except Fault Completion}
    (h : Resolved Good s j x (.matchChain k m vs) reply t) :
    (x.complete = true ∧ reply = .error .sessionComplete ∧ t = x) ∨
      (x.complete = false ∧ ∃ f, CapturedLast j k m f ∧
        reply = .ok (.matching (x.chain.frames ++ [f])) ∧
          t = x.finish (.matching (x.chain.frames ++ [f]))) := by
  cases h with
  | refused refuses => exact .inl ⟨refuses.1, refuses.2, rfl⟩
  | turned _ _ _ turns =>
    obtain ⟨f, hcaptured, hattempt⟩ := turns
    rcases attempt_matchChain hattempt with hrefused | ⟨hlive, hreply, ht⟩
    · exact .inl hrefused
    · exact .inr ⟨hlive, f, hcaptured, hreply, ht⟩

theorem Session.Resolved.discover {Good : Nat → List Event → Session → Prop} {s k : Nat} {j : List Event}
    {x t : Session} {offered : List String} {reply : Except Fault Completion}
    (h : Resolved Good s j x (.discover k offered) reply t) :
    (x.complete = true ∧ reply = .error .sessionComplete ∧ t = x) ∨
      (x.complete = false ∧ reply = .ok (.discovering (x.walk offered)) ∧
        t = x.finish (.discovering (x.walk offered))) := by
  cases h with
  | refused refuses => exact refuses.elim
  | turned _ _ _ turns => exact attempt_discover turns

/-- Whether something done is the return of a request. -/
def Event.isReturn : Event → Bool
  | .returned .. => true
  | _ => false

/-- `Good s j x` is said of a session `s` that stands as `x` after the journal `j`. It is
preserved by all that can happen to the session and to the journal. -/
structure Session.Rule (Good : Nat → List Event → Session → Prop) : Prop where
  /-- something was done that is not a return -/
  note : ∀ {s : Nat} {j : List Event} {x : Session} {e : Event},
    e.isReturn = false → Good s j x → Good s (e :: j) x
  /-- a request to another session returned -/
  aside : ∀ {s : Nat} {j : List Event} {x : Session} {r : Request} {reply : r.Reply} {m : Moment},
    r.session? ≠ some s → m.session s = x → Good s j x → Good s (.returned r reply m :: j) x
  turn : ∀ {s : Nat} {j : List Event} {x t : Session} {r : Request} {reply : r.Reply} {m : Moment},
    r.session? = some s → m.session s = t → Session.Resolved Good s j x r reply t → Good s j x →
      Good s (.returned r reply m :: j) t
  /-- a session that refused everything is opened -/
  opened : ∀ {s : Nat} {j : List Event} (n : Nat), Good s j .closed → Good s j (.fresh n none)

/-- What holds at every return of a journal, of the request, its reply, the moment after it
and the journal before it. -/
def EachReturn (P : (r : Request) → r.Reply → Moment → List Event → Prop) (j : List Event) : Prop :=
  ∀ (later earlier : List Event) (r : Request) (reply : r.Reply) (m : Moment),
    j = later ++ .returned r reply m :: earlier → P r reply m earlier

namespace EachReturn

variable {P : (r : Request) → r.Reply → Moment → List Event → Prop} {j : List Event}

theorem note {e : Event} (he : e.isReturn = false) (h : EachReturn P j) : EachReturn P (e :: j) := by
  intro later earlier r reply m hsplit
  cases later with
  | nil =>
    rw [(List.cons.inj hsplit).1] at he
    cases he
  | cons first later => exact h later earlier r reply m (List.cons.inj hsplit).2

theorem returned {r : Request} {reply : r.Reply} {m : Moment} (hnew : P r reply m j)
    (h : EachReturn P j) : EachReturn P (.returned r reply m :: j) := by
  intro later earlier r' reply' m' hsplit
  cases later with
  | nil =>
    obtain ⟨hevent, hearlier⟩ := List.cons.inj hsplit
    cases hevent
    exact hearlier ▸ hnew
  | cons first later => exact h later earlier r' reply' m' (List.cons.inj hsplit).2

/-- The part of the journal up to a return, and what holds there. -/
theorem of_mem {r : Request} {reply : r.Reply} {m : Moment} (h : EachReturn P j)
    (hmem : .returned r reply m ∈ j) : ∃ earlier, .returned r reply m :: earlier <:+ j ∧ P r reply m earlier := by
  obtain ⟨later, earlier, hsplit⟩ := List.append_of_mem hmem
  exact ⟨earlier, ⟨later, hsplit.symm⟩, h later earlier r reply m hsplit⟩

end EachReturn

/-- At a return the session is good, and if the request went to it, it was good before
and has been resolved. -/
structure Session.Turning (Good : Nat → List Event → Session → Prop) (s : Nat) (r : Request) (reply : r.Reply)
    (m : Moment) (earlier : List Event) : Prop where
  after : Good s (.returned r reply m :: earlier) (m.session s)
  resolved : r.session? = some s →
    ∃ x, Good s earlier x ∧ Session.Resolved Good s earlier x r reply (m.session s)

/-- A session is good, and so it was at every return. -/
structure Session.Traced (Good : Nat → List Event → Session → Prop) (s : Nat) (j : List Event)
    (x : Session) : Prop where
  now : Good s j x
  before : EachReturn (Turning Good s) j

/-- Whatever each turn preserves was true at every return, too. -/
theorem Session.Rule.traced {Good : Nat → List Event → Session → Prop} (rule : Session.Rule Good) :
    Session.Rule (Session.Traced Good) where
  note he h := ⟨rule.note he h.now, h.before.note he⟩
  aside {s j x r reply m} hr hm h := by
    have hnow : Good s (.returned r reply m :: j) x := rule.aside hr hm h.now
    exact ⟨hnow, h.before.returned ⟨hm ▸ hnow, fun hs => absurd hs hr⟩⟩
  turn hr hm hresolved h := by
    have hresolved := hresolved.mono fun _ _ _ hx => hx.now
    have hnow := rule.turn hr hm hresolved h.now
    exact ⟨hnow, h.before.returned ⟨hm ▸ hnow, fun _ => ⟨_, h.now, hm ▸ hresolved⟩⟩⟩
  opened n h := ⟨rule.opened n h.now, h.before⟩

/-! ### All sessions of a world -/

namespace World

/-- Only the named session is set, and none if there is no such session. -/
theorem session_setSession_attempt {β : Type} (w : World H) (n : Nat)
    (step : Session → Except Fault (β × Session)) (s : Nat) :
    (w.setSession n ((w.session n).attempt step).2).session s =
      if s = n then ((w.session n).attempt step).2 else w.session s := by
  by_cases hn : n < w.sessions.length
  · exact session_setSession w n _ hn s
  · have hclosed : w.session n = .closed := session_eq_closed (Nat.le_of_not_lt hn)
    have hsame : (w.setSession n ((w.session n).attempt step).2).session s = w.session s := by
      simp only [Moment.session, setSession, List.set_eq_of_length_le (Nat.le_of_not_lt hn)]
    rw [hsame, hclosed, Session.attempt_of_complete rfl]
    split
    · rename_i h
      rw [h, hclosed]
    · rfl

/-- Every session is good as it stands. -/
def Holds (Good : Nat → List Event → Session → Prop) (w : World H) : Prop :=
  ∀ s, Good s w.journal (w.session s)

namespace Holds

variable {Good : Nat → List Event → Session → Prop}

/-- Something was done that is not a return. -/
theorem note (rule : Session.Rule Good) {w : World H} {e : Event} (he : e.isReturn = false)
    (h : w.Holds Good) : (w.note e).Holds Good :=
  fun s => rule.note he (h s)

/-- Only the sessions and the journal matter. -/
theorem congr {w v : World H} (h : w.Holds Good) (hs : v.sessions = w.sessions)
    (hj : v.journal = w.journal) : v.Holds Good := by
  intro s
  have hsession : v.session s = w.session s := by simp only [Moment.session, hs]
  rw [hj, hsession]
  exact h s

/-- A request returned: the session that it went to was resolved from `w` to `v`, and the
others are as they were. -/
theorem conclude (rule : Session.Rule Good) {w v : World H} {r : Request} {reply : r.Reply}
    (hw : w.Holds Good) (hj : v.journal = w.journal)
    (hother : ∀ s, r.session? ≠ some s → v.session s = w.session s)
    (hself : ∀ s, r.session? = some s →
      Session.Resolved Good s w.journal (w.session s) r reply (v.session s)) :
    (World.conclude r (reply, v)).Holds Good := by
  intro s
  have hjournal : (World.conclude r (reply, v)).journal = .returned r reply v.toMoment :: w.journal := by
    rw [← hj]
    rfl
  rw [hjournal]
  show Good s _ (v.session s)
  by_cases hr : r.session? = some s
  · exact rule.turn hr rfl (hself s hr) (hw s)
  · have hgood := hw s
    rw [← hother s hr] at hgood
    exact rule.aside hr rfl hgood

/-- A request that touches no session. -/
theorem conclude_same (rule : Session.Rule Good) {w : World H} {r : Request} (reply : r.Reply)
    (h : w.Holds Good) (hresolved : ∀ s, r.session? = some s →
      Session.Resolved Good s w.journal (w.session s) r reply (w.session s)) :
    (World.conclude r (reply, w)).Holds Good :=
  h.conclude rule rfl (fun _ _ => rfl) hresolved

/-- A request that attempts a step on its session. -/
theorem conclude_attempt (rule : Session.Rule Good) {w v : World H} {r : Request} {s : Nat}
    {β : Type} {step : Session → Except Fault (β × Session)} {reply : r.Reply} (hr : r.session? = some s)
    (h : w.Holds Good) (hs : v.sessions = w.sessions) (hj : v.journal = w.journal)
    (hresolved : Session.Resolved Good s w.journal (w.session s) r reply ((w.session s).attempt step).2) :
    (World.conclude r (reply, v.setSession s ((w.session s).attempt step).2)).Holds Good := by
  have hsession : ∀ k, v.session k = w.session k := fun k => by simp only [Moment.session, hs]
  have hset : ∀ k, (v.setSession s ((w.session s).attempt step).2).session k =
      if k = s then ((w.session s).attempt step).2 else w.session k := by
    intro k
    rw [← hsession, session_setSession_attempt, hsession k]
  refine h.conclude rule hj (fun k hk => ?_) (fun k hk => ?_)
  · have hne : k ≠ s := fun hks => hk (hks.symm ▸ hr)
    rw [hset, if_neg hne]
  · obtain rfl : s = k := Option.some.inj (hr.symm.trans hk)
    rw [hset, if_pos rfl]
    exact hresolved

/-- A request that is not refused at once, and is answered when it begins. -/
theorem resolved {w : World H} {r : Request} {reply : r.Reply} {s : Nat} {t : Session} (h : w.Holds Good)
    (hs : r.session? = some s) (hadmitted : r.refusal? w.toMoment = none)
    (hturns : (w.session s).Turns w.journal r reply t) :
    Session.Resolved Good s w.journal (w.session s) r reply t :=
  .turned (List.suffix_refl _) (h s) (Request.admitted_of_refusal hs hadmitted) hturns

/-- What is made of a frame whose values have just been rendered, of a request that began
in `u`. -/
theorem recorded (rule : Session.Rule Good) {u w : World H} {r : Request} {done : r.Reply × World H}
    {rs : List (Rendered Nat)} (hbegan : World.Began r u w) (hu : u.Holds Good)
    (hdone : w.record rs r = some done) (h : w.Holds Good) : (World.conclude r done).Holds Good := by
  have hcaptured : ∀ s m, (w.note (.captured s ⟨m, rs⟩)).Holds Good :=
    fun s m => h.note rule rfl
  -- the session at the beginning, long before the frame was captured
  have hresolved : ∀ {s : Nat} {m : Method} {reply : r.Reply} {t : Session}, r.session? = some s →
      (w.session s).Turns (w.note (.captured s ⟨m, rs⟩)).journal r reply t →
      Session.Resolved Good s (w.note (.captured s ⟨m, rs⟩)).journal (w.session s) r reply t :=
    fun hs hturns => .turned (hbegan.grows.journal.trans (List.suffix_cons _ _)) (hu _)
      (Request.admitted_of_refusal hs hbegan.admitted) hturns
  cases r with
  | enterEntry s m vs | enterCandidate s m vs | matchChain s m vs =>
    cases hdone
    rw [World.updateLive_eq]
    exact (hcaptured s m).conclude_attempt rule rfl rfl rfl (hresolved rfl ⟨⟨m, rs⟩, ⟨rfl, rfl⟩, rfl⟩)
  | _ => cases hdone

/-- A session is opened. -/
theorem opening (rule : Session.Rule Good) {w : World H} (h : w.Holds Good) (share : Option Nat) :
    (World.conclude (.openSession share) (w.openSession share)).Holds Good := by
  obtain ⟨n, registries, heq⟩ : ∃ n registries, w.openSession share =
      (w.sessions.length,
        { w with registries := registries, sessions := w.sessions ++ [.fresh n none] }) := by
    unfold World.openSession
    split
    · exact ⟨_, _, rfl⟩
    · exact ⟨_, _, rfl⟩
  have hopened : World.Holds Good
      { w with registries := registries, sessions := w.sessions ++ [.fresh n none] } := by
    intro s
    by_cases hs : s = w.sessions.length
    · have hclosed := h s
      rw [session_eq_closed (Nat.le_of_eq hs.symm)] at hclosed
      simpa [Moment.session, hs, List.getD_eq_getElem?_getD] using rule.opened n hclosed
    · have hsession : (w.sessions ++ [Session.fresh n none]).getD s .closed = w.session s := by
        rcases Nat.lt_or_gt_of_ne hs with hlt | hgt
        · simp [Moment.session, List.getD_eq_getElem?_getD, List.getElem?_append_left hlt]
        · have hlength : (w.sessions ++ [Session.fresh n none]).length ≤ s := by
            rw [List.length_append]
            exact hgt
          rw [session_eq_closed (Nat.le_of_lt hgt), List.getD_eq_getElem?_getD,
            List.getElem?_eq_none hlength, Option.getD_none]
      have hgood := h s
      rwa [← hsession] at hgood
  rw [heq]
  exact hopened.conclude_same rule (r := .openSession share) w.sessions.length fun s hs => by cases hs

theorem purged (rule : Session.Rule Good) {w : World H} (keeps : H → List ObjectRef → List ObjectRef)
    (held : List ObjectRef) (n : Nat) (h : w.Holds Good) : (w.purge keeps held n).2.Holds Good := by
  have hswept : ∀ registry, ((w.sweep keeps held).setRegistry n registry).Holds Good :=
    fun _ => h.congr rfl rfl
  exact (hswept _).note rule rfl

theorem tagged (rule : Session.Rule Good) {w : World H} (n : Nat) (o : ObjectRef) (h : w.Holds Good) :
    (w.tag n o).2.Holds Good := by
  have hset : ∀ registry, (w.setRegistry n registry).Holds Good := fun _ => h.congr rfl rfl
  exact (hset _).note rule rfl

/-- A request that renders nothing. -/
theorem silent (rule : Session.Rule Good) {w : World H} {keeps : H → List ObjectRef → List ObjectRef}
    {ask : Asking H} {held : List ObjectRef} {r : Request} (hr : r.isSilent = true)
    (h : w.Holds Good) : (World.conclude r (w.perform keeps ask held r)).Holds Good := by
  cases r with
  | exitEntry s =>
    simp only [perform, updateLive_eq]
    have hleft : ∀ reply, ((w.session s).attempt Session.exitEntry).1 = reply →
        (w.session s).Turns w.journal (.exitEntry s) reply ((w.session s).attempt Session.exitEntry).2 :=
      fun reply hreply => Prod.ext hreply rfl
    split
    · rename_i fault hfault
      exact h.conclude_attempt rule rfl rfl rfl (h.resolved rfl rfl (hleft _ hfault))
    · rename_i hok
      -- the purge that follows touches no session
      have hpurged := h.purged rule keeps held (w.session s).registry
      exact hpurged.conclude_attempt rule rfl rfl rfl (hpurged.resolved rfl rfl (hleft _ hok))
  | exitCandidate s =>
    simp only [perform, updateLive_eq]
    exact h.conclude_attempt rule rfl rfl rfl (h.resolved rfl rfl rfl)
  | discover s offered =>
    simp only [perform, updateLive_eq]
    exact h.conclude_attempt rule rfl rfl rfl (h.resolved rfl rfl rfl)
  | identify s v =>
    simp only [perform]
    split
    · rename_i n o _ _
      have htagged := h.tagged rule n o
      exact htagged.conclude_same rule _ fun _ hs => htagged.resolved hs rfl rfl
    · exact h.conclude_same rule _ fun _ hs => h.resolved hs rfl rfl
  | lookup s v =>
    simp only [perform]
    split <;> exact h.conclude_same rule _ fun _ hs => h.resolved hs rfl rfl
  | purge s =>
    simp only [perform]
    split
    · rename_i n _
      have hpurged := h.purged rule keeps held n
      exact hpurged.conclude_same rule _ fun _ hs => hpurged.resolved hs rfl rfl
    · exact h.conclude_same rule _ fun _ hs => h.resolved hs rfl rfl
  | openSession share => exact h.opening rule share
  | look s => exact h.conclude_same rule _ fun _ hs => h.resolved hs rfl rfl
  | frames s => exact h.conclude_same rule _ fun _ hs => h.resolved hs rfl rfl
  | sent s => exact h.conclude_same rule _ fun _ hs => h.resolved hs rfl rfl
  | _ => cases hr

end Holds
end World

/-! ### All runs -/

namespace Session.Rule

variable {Good : Nat → List Event → Session → Prop}

/-- What each turn of a session preserves, each step of a run preserves. -/
theorem host (rule : Session.Rule Good) (D : Host H) : D.Rule fun _ w => w.Holds Good where
  fewer _ h := h
  grasp _ h := h
  host _ h := h
  swept h := h
  create _ _ _ h := h
  asked _ h := h.note rule rfl
  answered _ _ h := h.note rule rfl
  tag _ _ h := h.tagged rule _ _
  rendered _ _ _ h := h.note rule rfl
  refused hreply h :=
    h.conclude_same rule _ fun _ hs => .refused (Request.refuses_of_refusal hs hreply)
  recorded hbegan hu _ _ _ hdone h := World.Holds.recorded rule hbegan hu hdone h
  shown {held w r} reply hr h := by
    cases r with
    | render s vs => exact h.conclude_same rule _ fun _ hs => h.resolved hs rfl rfl
    | renderEach s vs => exact h.conclude_same rule _ fun _ hs => h.resolved hs rfl rfl
    | _ => cases hr
  silent hr h := h.silent rule hr

/-- **What each turn of a session preserves holds in every run**, of every session as it
stands at the end, and as it stood at every return. -/
theorem run (rule : Session.Rule Good) (D : Host H) (level : Nat) (a : Activity H α) {w : World H}
    (hstart : ∀ s, Good s [] (w.session s)) (hjournal : w.journal = []) :
    (D.run level a w).2.Holds (Session.Traced Good) := by
  refine (rule.traced.host D).run fun s => ?_
  rw [hjournal]
  refine ⟨hstart s, fun later earlier r reply m hsplit => ?_⟩
  simp at hsplit

end Session.Rule

end CallChain
