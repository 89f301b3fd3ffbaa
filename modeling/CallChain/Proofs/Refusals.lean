/-
# Refusals touch nothing

An operation on a complete session is refused, a candidate outside of a chain is ignored,
and an exit may be refused because the calls do not nest. In all these cases the operation
comes back before it has rendered a value, purged a registry or sent an artifact, so the
world afterwards is the one before, but for the note on the return. A complete session
stays complete that way, and so a whole program of operations on it changes nothing.

Key definitions: `Request.operates?`, `Request.SaysComplete`, `Request.Vain`,
`World.Untouched`, `Activity.Makes`.
Key theorems: `World.perform_of_complete`, `World.perform_of_vain`,
`Host.act_of_complete`, `Host.refused_untouched`.
-/
import CallChain.Proofs.Turns

namespace CallChain

variable {H α : Type}

/-! ### Operations and their refusals -/

namespace Request

/-- The session that a request operates on, if it is one of the operations of a chain. -/
def operates? : Request → Option Nat
  | .enterEntry s _ _ | .exitEntry s | .enterCandidate s _ _ | .exitCandidate s | .matchChain s _ _
  | .discover s _ => some s
  | _ => none

/-- The reply to an operation says that the session had completed before. -/
def SaysComplete : (r : Request) → r.Reply → Prop
  | .enterEntry .., reply => reply = .error .sessionComplete
  | .exitEntry .., reply => reply = .error .sessionComplete
  | .enterCandidate .., reply => reply = .error .sessionComplete
  | .exitCandidate .., reply => reply = .error .sessionComplete
  | .matchChain .., reply => reply = .error .sessionComplete
  | .discover .., reply => reply = .error .sessionComplete
  | _, _ => False

/-- The reply says that a candidate was ignored, or that an exit was refused. -/
def Vain : (r : Request) → r.Reply → Prop
  | .exitEntry .., reply => ∃ fault, reply = .error fault
  | .enterCandidate .., reply => reply = .ok false
  | .exitCandidate .., reply => reply = .ok false ∨ ∃ fault, reply = .error fault
  | _, _ => False

end Request

namespace Session

variable {β : Type} {x : Session}

/-- A refused step leaves the session as it is. -/
theorem attempt_of_error {step : Session → Except Fault (β × Session)} {fault : Fault}
    (h : (x.attempt step).1 = .error fault) : (x.attempt step).2 = x := by
  unfold attempt at h ⊢
  split
  · rfl
  · rename_i hlive
    rw [if_neg hlive] at h
    cases hstep : step x with
    | error _ => rfl
    | ok stepped =>
      rw [hstep] at h
      cases h

/-- A candidate frame that comes to the chain is recorded, or it is an error. -/
theorem attempt_enterCandidate_ne (f : Frame) : (x.attempt (enterCandidate f)).1 ≠ .ok false := by
  intro h
  unfold attempt at h
  split at h
  · cases h
  · unfold enterCandidate at h
    cases hpush : x.chain.push f <;> rw [hpush] at h <;> cases h

theorem attempt_exitCandidate_of_false (h : (x.attempt exitCandidate).1 = .ok false) :
    (x.attempt exitCandidate).2 = x := by
  unfold attempt at h ⊢
  split
  · rfl
  · rename_i hlive
    rw [if_neg hlive] at h
    unfold exitCandidate at h ⊢
    by_cases hin : x.chain.inTarget = true
    · -- inside of a chain the frame is discarded, or there is an error
      simp only [hin, Bool.not_true, Bool.false_eq_true, if_false] at h
      cases hpop : x.chain.pop <;> rw [hpop] at h <;> cases h
    · simp only [hin, Bool.not_false, if_true]

end Session

/-! ### One operation -/

namespace World

variable {w : World H} {keeps : H → List ObjectRef → List ObjectRef} {ask : Asking H}
  {held : List ObjectRef} {s : Nat} {r : Request}

theorem updateLive_of_same {β : Type} {step : Session → Except Fault (β × Session)}
    (h : ((w.session s).attempt step).2 = w.session s) :
    w.updateLive s step = (((w.session s).attempt step).1, w) := by
  rw [updateLive_eq, h, setSession_self]

theorem updateLive_of_complete {β : Type} (h : (w.session s).complete = true)
    (step : Session → Except Fault (β × Session)) :
    w.updateLive s step = (.error .sessionComplete, w) :=
  if_pos h

theorem updateWith_of_complete {β : Type} (h : (w.session s).complete = true) (m : Method)
    (vs : List Value) (step : Frame → Session → Except Fault (β × Session)) :
    w.updateWith ask held s m vs step = (.error .sessionComplete, w) :=
  if_pos h

/-- On a complete session every operation is refused before it does anything. -/
theorem perform_of_complete (hs : r.operates? = some s) (h : (w.session s).complete = true)
    (keeps : H → List ObjectRef → List ObjectRef) (ask : Asking H) (held : List ObjectRef) :
    r.SaysComplete (w.perform keeps ask held r).1 ∧ (w.perform keeps ask held r).2 = w := by
  cases r with
  | enterEntry k m vs =>
    obtain rfl : k = s := Option.some.inj hs
    rw [perform, updateWith_of_complete h]
    exact ⟨rfl, rfl⟩
  | exitEntry k =>
    obtain rfl : k = s := Option.some.inj hs
    have hrefused : w.perform keeps ask held (.exitEntry k) = (.error .sessionComplete, w) := by
      simp only [perform, updateLive_of_complete h]
    rw [hrefused]
    exact ⟨rfl, rfl⟩
  | enterCandidate k m vs =>
    obtain rfl : k = s := Option.some.inj hs
    rw [perform, if_pos h]
    exact ⟨rfl, rfl⟩
  | exitCandidate k =>
    obtain rfl : k = s := Option.some.inj hs
    rw [perform, updateLive_of_complete h]
    exact ⟨rfl, rfl⟩
  | matchChain k m vs =>
    obtain rfl : k = s := Option.some.inj hs
    rw [perform, updateWith_of_complete h]
    exact ⟨rfl, rfl⟩
  | discover k offered =>
    obtain rfl : k = s := Option.some.inj hs
    rw [perform, updateLive_of_complete h]
    exact ⟨rfl, rfl⟩
  | _ => cases hs

/-- A candidate that is rendered is not ignored. -/
theorem updateWith_enterCandidate_ne (m : Method) (vs : List Value) :
    (w.updateWith ask held s m vs Session.enterCandidate).1 ≠ .ok false := by
  intro h
  unfold updateWith at h
  split at h
  · cases h
  · rw [updateLive_eq] at h
    exact Session.attempt_enterCandidate_ne _ h

/-- An operation in vain came back before it did anything. -/
theorem perform_of_vain (h : r.Vain (w.perform keeps ask held r).1) : (w.perform keeps ask held r).2 = w := by
  cases r with
  | exitEntry k =>
    obtain ⟨fault, hfault⟩ := h
    simp only [perform, updateLive_eq] at hfault ⊢
    cases hleft : ((w.session k).attempt Session.exitEntry).1 with
    | ok u =>
      rw [hleft] at hfault
      cases hfault
    | error fault =>
      show w.setSession k _ = w
      rw [Session.attempt_of_error hleft, setSession_self]
  | enterCandidate k m vs =>
    have hignored : (w.perform keeps ask held (.enterCandidate k m vs)).1 = .ok false := h
    simp only [perform] at hignored ⊢
    split
    · rfl
    · rename_i hlive
      rw [if_neg hlive] at hignored
      split
      · rfl
      · rename_i hin
        rw [if_neg hin] at hignored
        exact absurd hignored (updateWith_enterCandidate_ne m vs)
  | exitCandidate k =>
    have hsame : ((w.session k).attempt Session.exitCandidate).2 = w.session k := by
      simp only [Request.Vain, perform, updateLive_eq] at h
      rcases h with hignored | ⟨fault, hfault⟩
      · exact Session.attempt_exitCandidate_of_false hignored
      · exact Session.attempt_of_error hfault
    rw [perform, updateLive_of_same hsame]
  | _ => exact h.elim

/-! ### What is left as it was -/

/-- How often an object was asked to describe itself. -/
def asks (w : World H) (o : ObjectRef) : Nat :=
  w.journal.countP fun
    | .asked p => p = o
    | _ => false

/-- The sessions with all that they recorded and sent, the registries with their slots and
their counters, and the number of times that each object was asked are as they were. -/
structure Untouched (w v : World H) : Prop where
  sessions : v.sessions = w.sessions
  registries : v.registries = w.registries
  asks : ∀ o, v.asks o = w.asks o

namespace Untouched

variable {u v : World H}

theorem refl (w : World H) : w.Untouched w :=
  ⟨rfl, rfl, fun _ => rfl⟩

theorem trans (h : w.Untouched u) (h' : u.Untouched v) : w.Untouched v :=
  ⟨h'.sessions.trans h.sessions, h'.registries.trans h.registries,
    fun o => (h'.asks o).trans (h.asks o)⟩

theorem returned (w : World H) (r : Request) (reply : r.Reply) (m : Moment) :
    w.Untouched (w.note (.returned r reply m)) :=
  ⟨rfl, rfl, fun _ => List.countP_cons_of_neg (by simp)⟩

/-- A session is found as it was. -/
theorem session (h : w.Untouched v) (n : Nat) : v.session n = w.session n := by
  rw [Moment.session, Moment.session, h.sessions]

end Untouched

/-- A request that leaves the world as it was is noted, and nothing else. -/
theorem serve_of_same (h : (w.perform keeps ask held r).2 = w) :
    (World.serve keeps ask held r w).2 =
      w.note (.returned r (World.serve keeps ask held r w).1 w.toMoment) := by
  show (w.perform keeps ask held r).2.note
    (.returned r _ (w.perform keeps ask held r).2.toMoment) = _
  rw [h]
  rfl

end World

/-! ### Programs of operations -/

/-- Whatever the replies are, a program makes no other requests than these. -/
def Activity.Makes (P : Request → Prop) : Activity H α → Prop
  | .done _ => True
  | .host _ next => ∀ h, (next h).Makes P
  | .create _ _ _ next => ∀ o, (next o).Makes P
  | .call request next => P request ∧ ∀ reply, (next reply).Makes P

theorem Activity.makes_pure (P : Request → Prop) (result : α) : Activity.Makes P (pure result : Activity H α) :=
  trivial

theorem Activity.Makes.bind {β : Type} {P : Request → Prop} {go : α → Activity H β}
    (hgo : ∀ result, (go result).Makes P) : ∀ {a : Activity H α}, a.Makes P → (a >>= go).Makes P
  | .done result, _ => hgo result
  | .host _ _, ha => fun h => (ha h).bind hgo
  | .create _ _ _ _, ha => fun o => (ha o).bind hgo
  | .call _ _, ha => ⟨ha.1, fun reply => (ha.2 reply).bind hgo⟩

/-- What was done is the return of an operation on a session, which says that the session
had completed before; and the machinery stood as in `w` then. -/
def Event.Refuses (w : World H) (s : Nat) (e : Event) : Prop :=
  ∃ (r : Request) (reply : r.Reply) (m : Moment), e = .returned r reply m ∧ r.operates? = some s ∧
    r.SaysComplete reply ∧ m.sessions = w.sessions ∧ m.registries = w.registries

/-- A program of operations on a complete session is refused all along. The induction is on
the program: after each step the world is untouched, so the session is still complete. -/
theorem Host.act_of_complete (D : Host H) (ask : Asking H) (held : List ObjectRef) {w : World H}
    {s : Nat} (hcomplete : (w.session s).complete = true) :
    ∀ (a : Activity H α) {u : World H}, a.Makes (·.operates? = some s) → w.Untouched u →
      w.Untouched (D.act ask held a u).2 ∧
        ∃ new, (D.act ask held a u).2.journal = new ++ u.journal ∧ ∀ e ∈ new, e.Refuses w s
  | .done _, u, _, hu => ⟨hu, [], rfl, fun e he => by cases he⟩
  | .host change next, u, ha, hu =>
    D.act_of_complete ask held hcomplete (next (change u.host)) (u := { u with host := change u.host })
      (ha _) ⟨hu.sessions, hu.registries, hu.asks⟩
  | .create typeName place store next, u, ha, hu =>
    D.act_of_complete ask held hcomplete (next ((u.sweep D.keeps held).create typeName place store).1)
      (u := ((u.sweep D.keeps held).create typeName place store).2)
      (ha _) ⟨hu.sessions, hu.registries, hu.asks⟩
  | .call r next, u, ha, hu => by
    have hlive : (u.session s).complete = true := by rw [hu.session, hcomplete]
    obtain ⟨hrefused, hsame⟩ := World.perform_of_complete (w := u) ha.1 hlive D.keeps ask held
    have hserved := World.serve_of_same hsame
    have huntouched : w.Untouched (World.serve D.keeps ask held r u).2 := by
      rw [hserved]
      exact hu.trans (.returned u r _ _)
    obtain ⟨hend, new, hjournal, hnew⟩ := D.act_of_complete ask held hcomplete
      (next (World.serve D.keeps ask held r u).1) (ha.2 _) huntouched
    refine ⟨hend, new ++ [.returned r (World.serve D.keeps ask held r u).1 u.toMoment], ?_, ?_⟩
    · calc (D.act ask held (.call r next) u).2.journal
          = new ++ (World.serve D.keeps ask held r u).2.journal := hjournal
        _ = new ++ .returned r (World.serve D.keeps ask held r u).1 u.toMoment :: u.journal := by
          rw [hserved]
          rfl
        _ = _ := by simp
    · intro e he
      rcases List.mem_append.1 he with he | he
      · exact hnew e he
      · exact ⟨r, _, u.toMoment, List.mem_singleton.1 he, ha.1, hrefused, hu.sessions, hu.registries⟩

/-- **Refused and ignored operations have no effect at all.** An operation on a complete
session says so; and such an operation, as one in vain on any session, leaves the world as
it was, but for the note on its return: what was recorded, the phase of each session, what
was sent, the registries, and how often each object was asked. So does a program of any
operations on a complete session, all of which are refused. -/
theorem Host.refused_untouched (D : Host H) (ask : Asking H) (held : List ObjectRef) (w : World H)
    (s : Nat) :
    (∀ r : Request, r.operates? = some s →
      let served := World.serve D.keeps ask held r w
      ((w.session s).complete = true → r.SaysComplete served.1) ∧
        ((w.session s).complete = true ∨ r.Vain served.1 →
          w.Untouched served.2 ∧ served.2 = w.note (.returned r served.1 w.toMoment))) ∧
    ∀ a : Activity H α, a.Makes (·.operates? = some s) → (w.session s).complete = true →
      let v := (D.act ask held a w).2
      w.Untouched v ∧ ∃ new, v.journal = new ++ w.journal ∧ ∀ e ∈ new, e.Refuses w s := by
  refine ⟨fun r hs => ⟨fun hcomplete => (World.perform_of_complete hs hcomplete D.keeps ask held).1, fun h => ?_⟩, ?_⟩
  · have hsame : (w.perform D.keeps ask held r).2 = w :=
      h.elim (fun hcomplete => (World.perform_of_complete hs hcomplete D.keeps ask held).2)
        World.perform_of_vain
    have hserved := World.serve_of_same hsame
    refine ⟨?_, hserved⟩
    rw [hserved]
    exact .returned w r _ _
  · intro a ha hcomplete
    exact D.act_of_complete ask held hcomplete a ha (.refl w)

def bell : ObjectRef := ⟨0, 0, "Bell"⟩

/-- A bell answers at once, and the host keeps it alive. -/
def bellHost : Host Unit where
  describe _ _ := .done (.shape (.sequence [.text "ding"]))
  keeps _ _ := [bell]

/-- The world when there is a bell and nothing has been recorded. -/
def quietWorld : World Unit :=
  (bellHost.run 0 (Activity.birth "Bell" fun _ h => h) (.start () (some ⟨[], []⟩))).2

/-- The world when a chain has come from a bell to a candidate. -/
def ringingWorld : World Unit :=
  (bellHost.run 1 (do
    let _ ← Activity.request (.enterEntry 0 ⟨"Bell.ring(Bell)"⟩ [.object bell])
    Activity.request (.enterCandidate 0 ⟨"Bell.swing(Bell)"⟩ [.object bell])) quietWorld).2

/-- The world when that chain has been matched. -/
def rungWorld : World Unit :=
  (bellHost.run 1 (.request (.matchChain 0 ⟨"Bell.sound(Bell)"⟩ [.object bell])) ringingWorld).2

/-- The bell has a slot and was asked for each of three frames. The exit of the entry is
refused while the candidate is open; before the chain a candidate is ignored, and so is its
exit; after the match every operation is refused, though the bell is passed again. -/
theorem late_and_early_untouched :
    let ask := bellHost.ask 1
    let enter : Request := .enterCandidate 0 ⟨"Bell.swing(Bell)"⟩ [.object bell]
    let late : Activity Unit (Except Fault Completion) := do
      let _ ← Activity.request (.enterEntry 0 ⟨"Bell.ring(Bell)"⟩ [.object bell])
      let _ ← Activity.request enter
      let _ ← Activity.request (.exitEntry 0)
      Activity.request (.matchChain 0 ⟨"Bell.sound(Bell)"⟩ [.object bell])
    ((ringingWorld.session 0).chain.depth = 2 ∧ (ringingWorld.registry 0).size = 1 ∧
        rungWorld.asks bell = 3 ∧ (rungWorld.session 0).sent.length = 1) ∧
      ringingWorld.Untouched (World.serve bellHost.keeps ask [] (.exitEntry 0) ringingWorld).2 ∧
      quietWorld.Untouched (World.serve bellHost.keeps ask [] enter quietWorld).2 ∧
      quietWorld.Untouched (World.serve bellHost.keeps ask [] (.exitCandidate 0) quietWorld).2 ∧
      rungWorld.Untouched (World.serve bellHost.keeps ask [] enter rungWorld).2 ∧
      rungWorld.Untouched (bellHost.act ask [] late rungWorld).2 := by
  intro ask enter late
  have hquiet := Host.refused_untouched (α := Unit) bellHost ask [] quietWorld 0
  have hringing := Host.refused_untouched (α := Unit) bellHost ask [] ringingWorld 0
  have hrung := Host.refused_untouched (α := Except Fault Completion) bellHost ask [] rungWorld 0
  have hunbalanced : Request.Vain (.exitEntry 0) (World.serve bellHost.keeps ask [] (.exitEntry 0) ringingWorld).1 :=
    ⟨.unbalanced 1, rfl⟩
  have hignored : Request.Vain enter (World.serve bellHost.keeps ask [] enter quietWorld).1 := rfl
  have hlate : late.Makes (·.operates? = some 0) :=
    ⟨rfl, fun _ => ⟨rfl, fun _ => ⟨rfl, fun _ => ⟨rfl, fun _ => trivial⟩⟩⟩⟩
  refine ⟨by decide +kernel, ?_, ?_, ?_, ?_, ?_⟩
  · exact ((hringing.1 (.exitEntry 0) rfl).2 (.inr hunbalanced)).1
  · exact ((hquiet.1 enter rfl).2 (.inr hignored)).1
  · exact ((hquiet.1 (.exitCandidate 0) rfl).2 (.inr (.inl rfl))).1
  · exact ((hrung.1 enter rfl).2 (.inl rfl)).1
  · exact (hrung.2 late hlate rfl).1

end CallChain
