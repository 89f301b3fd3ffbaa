/-
# Balanced candidates are invisible

After balanced traffic a session is the one that it was. So an operation whose values are
rendered by balanced code does to the session what it does when nothing else happens, and
what it does when the objects run nothing.

Key definitions: `Session.outcome?`, `World.since`, `Host.mute`.
Key theorems: `Host.chains_inStep`, `Host.perform_result`, `Host.perform_mute`,
`Host.balanced_unseen`.
-/
import CallChain.Proofs.Balance

namespace CallChain

variable {H α : Type}

/-! ### Reachable sessions

The traffic is unseen where the two fields of a chain agree, as they do in every run. -/

/-- Each turn of a session leaves the fields of its chain in step. -/
theorem Session.inStep_rule : Session.Rule fun _ _ x => x.chain.InStep where
  note _ h := h
  aside _ _ h := h
  turn {s j x t r reply m} _ _ hresolved h := by
    cases hresolved with
    | refused _ => exact h
    | turned _ _ _ hturns =>
      cases r with
      | enterEntry s' m vs =>
        obtain ⟨f, -, hattempt⟩ := hturns
        have hfollows := (follows_enterEntry h s' f.method vs f.values).inStep
        rwa [show (⟨f.method, f.values⟩ : Frame) = f from rfl, hattempt] at hfollows
      | exitEntry s' =>
        have hfollows := (follows_exitEntry h s' []).inStep
        rwa [show x.attempt exitEntry = (reply, t) from hturns] at hfollows
      | enterCandidate s' m vs =>
        obtain ⟨f, -, hattempt⟩ := hturns
        have hfollows := (follows_enterCandidate h s' f.method vs f.values).inStep
        rwa [show (⟨f.method, f.values⟩ : Frame) = f from rfl, hattempt] at hfollows
      | exitCandidate s' =>
        have hfollows := (follows_exitCandidate h s' []).inStep
        rwa [show x.attempt exitCandidate = (reply, t) from hturns] at hfollows
      | matchChain s' m vs =>
        obtain ⟨f, -, hattempt⟩ := hturns
        have hfollows := (follows_matchChain h s' f.method vs f.values).inStep
        rwa [show (⟨f.method, f.values⟩ : Frame) = f from rfl, hattempt] at hfollows
      | discover s' offered =>
        have hfollows := (follows_discover h s' offered []).inStep
        rwa [show x.attempt (discover offered) = (reply, t) from hturns] at hfollows
      | _ =>
        obtain rfl : t = x := hturns
        exact h
  opened _ _ := Chain.inStep_empty

/-- In every run, at the end and at every return, the fields of each chain agree. -/
theorem Host.chains_inStep (D : Host H) (level : Nat) (a : Activity H α) (h : H) (outlet : Option Outlet) :
    let w := (D.run level a (World.start h outlet)).2
    (∀ s, (w.session s).chain.InStep) ∧
      ∀ (r : Request) (reply : r.Reply) (m : Moment), .returned r reply m ∈ w.journal →
        ∀ s, (m.session s).chain.InStep := by
  intro w
  have hstart : ∀ s, ((World.start h outlet).session s).chain.InStep := by
    intro s
    cases s <;> exact Chain.inStep_empty
  have htraced := Session.inStep_rule.run D level a hstart rfl
  refine ⟨fun s => (htraced s).now, fun r reply m hmem s => ?_⟩
  obtain ⟨earlier, -, hturning⟩ := (htraced s).before.of_mem hmem
  exact hturning.after

/-! ### Operations whose values are rendered by balanced code -/

/-- What a request with a frame comes to on a live session when nothing else happens to it,
with the rendered values of the frame. -/
def Session.outcome? (x : Session) (rs : List (Rendered Nat)) : (r : Request) → Option (r.Reply × Session)
  | .enterEntry _ m _ => some (x.attempt (enterEntry ⟨m, rs⟩))
  | .enterCandidate _ m _ =>
    if x.chain.inTarget then some (x.attempt (enterCandidate ⟨m, rs⟩)) else some (.ok false, x)
  | .matchChain _ m _ => some (x.attempt (matchChain ⟨m, rs⟩))
  | _ => none

/-- The reply to a request of session `s`, and the session then. -/
def World.result (s : Nat) {r : Request} (performed : r.Reply × World H) : r.Reply × Session :=
  (performed.1, performed.2.session s)

/-- What has been done from one world to another that came of it. -/
def World.since (w v : World H) : List Event :=
  v.journal.take (v.journal.length - w.journal.length)

theorem World.Grows.since {w v : World H} (h : w.Grows v) : v.journal = w.since v ++ w.journal := by
  have hsuffix := List.suffix_iff_eq_drop.1 h.journal
  calc v.journal = w.since v ++ v.journal.drop (v.journal.length - w.journal.length) :=
        (List.take_append_drop _ _).symm
    _ = w.since v ++ w.journal := by rw [← hsuffix]

/-- What has been done since `w` is balanced. -/
def World.BalancedSince (s : Nat) (w v : World H) : Prop :=
  ∃ new, v.journal = new ++ w.journal ∧ Balanced s new

section

variable (D : Host H) (level : Nat) (held : List ObjectRef) {w : World H} {s : Nat}

/-- A run keeps the traffic of a live session unseen. -/
theorem Host.unseen (hlive : (w.session s).complete = false) (hstep : (w.session s).chain.InStep) :
    D.Rule fun _ v => v.Holds fun k j x => k = s → Session.Unseen s (w.session s) w.journal j x :=
  (Session.unseen_rule s w.journal hlive hstep).host D

theorem World.holds_unseen (w : World H) (s : Nat) :
    w.Holds fun k j x => k = s → Session.Unseen s (w.session s) w.journal j x := by
  rintro k rfl
  exact Session.Unseen.self k (w.session k) w.journal

/-- After balanced traffic a session is the one that it was. -/
theorem World.Holds.same {v : World H} {new : List Event}
    (h : v.Holds fun k j x => k = s → Session.Unseen s (w.session s) w.journal j x)
    (hj : v.journal = new ++ w.journal) (hbalanced : Balanced s new) :
    v.session s = w.session s ∧ CandidatesTold s (w.session s).chain.inTarget new := by
  obtain ⟨new', hj', hnew⟩ := h s rfl
  rw [hj] at hj'
  obtain rfl := List.append_cancel_right hj'
  obtain ⟨hraised, htold⟩ := hnew 0 hbalanced
  exact ⟨hraised.eq, htold⟩

/-- A frame whose values are rendered by balanced code meets the session as it was. -/
theorem Host.updateWith_result {β : Type} (hlive : (w.session s).complete = false)
    (hstep : (w.session s).chain.InStep) (m : Method) (vs : List Value)
    (step : Frame → Session → Except Fault (β × Session))
    (hbalanced : World.BalancedSince s w (w.updateWith (D.ask level) held s m vs step).2) :
    ∃ rs, ((w.updateWith (D.ask level) held s m vs step).1,
      (w.updateWith (D.ask level) held s m vs step).2.session s) = (w.session s).attempt (step ⟨m, rs⟩) := by
  have rule := D.unseen hlive hstep
  generalize hcaptured : w.capture (D.ask level) held s vs = captured
  obtain ⟨rs, u⟩ := captured
  obtain ⟨hholds, hgrows⟩ : (u.Holds fun k j x => k = s → Session.Unseen s (w.session s) w.journal j x) ∧
      w.Grows u := by
    have hu : (w.capture (D.ask level) held s vs).2 = u := congrArg Prod.snd hcaptured
    rw [← hu]
    exact (rule.capture (rule.ask level) vs (World.holds_unseen w s)).imp id And.left
  have hresult : w.updateWith (D.ask level) held s m vs step =
      (u.note (.captured s ⟨m, rs⟩)).updateLive s (step ⟨m, rs⟩) := by
    simp only [World.updateWith, hlive, hcaptured]
    rfl
  rw [hresult, World.updateLive_eq] at hbalanced ⊢
  -- before the capture is noted the journal holds what the descriptors did
  obtain ⟨new, hj, hbalanced⟩ := hbalanced
  have hnew : new ++ w.journal = .captured s ⟨m, rs⟩ :: w.since u ++ w.journal := by
    rw [← hj, List.cons_append, ← hgrows.since]
    rfl
  rw [List.append_cancel_right hnew] at hbalanced
  have hsame : u.session s = w.session s := (hholds.same hgrows.since hbalanced).1
  refine ⟨rs, ?_⟩
  rw [World.session_setSession_attempt, if_pos rfl, ← hsame]
  rfl

/-- An operation whose values are rendered by balanced code does what it does when nothing
else happens. -/
theorem Host.perform_result (hlive : (w.session s).complete = false) (hstep : (w.session s).chain.InStep)
    {r : Request} (hs : r.session? = some s) (hsilent : r.isSilent = false) (hshow : r.isShow = false)
    (hbalanced : World.BalancedSince s w (w.perform D.keeps (D.ask level) held r).2) :
    ∃ rs, (w.session s).outcome? rs r = some (World.result s (w.perform D.keeps (D.ask level) held r)) := by
  cases r with
  | enterEntry s' m vs =>
    obtain rfl : s' = s := Option.some.inj hs
    obtain ⟨rs, hrs⟩ := D.updateWith_result level held hlive hstep m vs Session.enterEntry hbalanced
    exact ⟨rs, congrArg some hrs.symm⟩
  | enterCandidate s' m vs =>
    obtain rfl : s' = s := Option.some.inj hs
    simp only [World.perform, hlive] at hbalanced ⊢
    by_cases hin : (w.session s').chain.inTarget = true
    · simp only [hin, Bool.not_true, Bool.false_eq_true, if_false] at hbalanced ⊢
      obtain ⟨rs, hrs⟩ := D.updateWith_result level held hlive hstep m vs Session.enterCandidate hbalanced
      refine ⟨rs, ?_⟩
      rw [Session.outcome?, if_pos hin, ← hrs]
      rfl
    · refine ⟨[], ?_⟩
      rw [Session.outcome?, if_neg hin]
      simp [World.result, hin]
  | matchChain s' m vs =>
    obtain rfl : s' = s := Option.some.inj hs
    obtain ⟨rs, hrs⟩ := D.updateWith_result level held hlive hstep m vs Session.matchChain hbalanced
    exact ⟨rs, congrArg some hrs.symm⟩
  | render s' vs => cases hshow
  | renderEach s' vs => cases hshow
  | _ => cases hsilent

theorem Host.grows_perform (w : World H) {r : Request} (hsilent : r.isSilent = false)
    (hshow : r.isShow = false) : w.Grows (w.perform D.keeps (D.ask level) held r).2 := by
  rcases World.perform_framed w D.keeps (D.ask level) held hsilent hshow with
    ⟨reply, -, hdone⟩ | ⟨s, vs, -, -, -, hdone⟩
  · rw [hdone]
    exact .refl w
  · exact (D.grows_capture level held s vs w).trans (.record hdone)

/-! ### Objects that run nothing -/

/-- The same host with objects that give these answers and run nothing. -/
def Host.mute (answer : List ObjectRef → ObjectRef → Answer) : Host H where
  describe held o := .done (answer held o)
  keeps := D.keeps

theorem World.BalancedSince.note {v : World H} {e : Event} (he : e.isReturn = false)
    (h : World.BalancedSince s w v) : World.BalancedSince s w (v.note e) := by
  obtain ⟨new, hj, hbalanced⟩ := h
  refine ⟨e :: new, congrArg (e :: ·) hj, ?_⟩
  rw [Balanced, openCandidates_note he]
  exact hbalanced

/-- To ask an object that runs nothing is noted, and no more. -/
theorem Host.ask_mute (answer : List ObjectRef → ObjectRef → Answer) (o : ObjectRef) {v : World H}
    (h : World.BalancedSince s w v) : World.BalancedSince s w (((D.mute answer).ask level) held o v).2 := by
  have hasked : World.BalancedSince s w (v.note (.asked o)) := h.note rfl
  cases level with
  | zero => exact hasked.note rfl
  | succ level => exact hasked.note rfl

theorem Host.capture_mute (answer : List ObjectRef → ObjectRef → Answer) (w : World H) (s k : Nat)
    (vs : List Value) : World.BalancedSince k w (w.capture ((D.mute answer).ask level) held s vs).2 := by
  have hstart : World.BalancedSince k w w := ⟨[], rfl, rfl⟩
  unfold World.capture
  split
  · rename_i n _
    have hkeeps : (World.surroundings ((D.mute answer).ask level) n).Keeps
        fun _ v => World.BalancedSince k w v :=
      ⟨fun _ h => h, fun _ h => h.note rfl, fun {held o v} _ h => D.ask_mute level held answer o h,
        fun {held o v shape} _ h _ => D.ask_mute level held answer o h⟩
    exact (Pass.renders_renderAll hkeeps held (vs.map w.grasp) ⟨w, []⟩ hstart).2.note rfl
  · exact hstart

theorem World.journal_record {w : World H} {rs : List (Rendered Nat)} {r : Request} {done : r.Reply × World H}
    (h : w.record rs r = some done) : ∃ n f, done.2.journal = .captured n f :: w.journal := by
  cases r with
  | enterEntry n m vs | enterCandidate n m vs | matchChain n m vs =>
    refine ⟨n, ⟨m, rs⟩, ?_⟩
    cases h
    rw [World.updateLive_eq]
    rfl
  | _ => cases h

theorem Host.perform_mute (answer : List ObjectRef → ObjectRef → Answer) (w : World H) (k : Nat) {r : Request}
    (hsilent : r.isSilent = false) (hshow : r.isShow = false) :
    World.BalancedSince k w (w.perform D.keeps ((D.mute answer).ask level) held r).2 := by
  rcases World.perform_framed w D.keeps ((D.mute answer).ask level) held hsilent hshow with
    ⟨reply, -, hdone⟩ | ⟨s, vs, -, -, -, hdone⟩
  · rw [hdone]
    exact ⟨[], rfl, rfl⟩
  · obtain ⟨n, f, hj⟩ := World.journal_record hdone
    obtain ⟨new, hnew, hbalanced⟩ := D.capture_mute level held answer w s k vs
    refine ⟨.captured n f :: new, ?_, hbalanced⟩
    rw [hj, hnew]
    rfl

end

/-- **Balanced candidates are invisible.** Where a session is live and its chain in step, as
in every run: when host code has run whose requests about candidates of the session are a
Dyck word in the order of their returns, those of the objects asked on the way included, and
which has not changed the session otherwise, then the session is the one that it was, and
each of these requests was answered by whether a chain is active. So an operation with a
frame whose values are rendered by such code comes to what it comes to when nothing else
happens, as it does when the objects run nothing at all. -/
theorem Host.balanced_unseen (D : Host H) (level : Nat) (held : List ObjectRef) {w : World H} {s : Nat}
    (hlive : (w.session s).complete = false) (hstep : (w.session s).chain.InStep) :
    (∀ a : Activity H α,
      let v := (D.act (D.ask level) held a w).2
      Balanced s (w.since v) →
        v.session s = w.session s ∧ CandidatesTold s (w.session s).chain.inTarget (w.since v)) ∧
    ∀ r : Request, r.session? = some s → r.isSilent = false → r.isShow = false →
      let performed := w.perform D.keeps (D.ask level) held r
      Balanced s (w.since performed.2) →
        (∃ rs, (w.session s).outcome? rs r = some (World.result s performed)) ∧
        ∀ answer, ∃ rs, (w.session s).outcome? rs r =
          some (World.result s (w.perform D.keeps ((D.mute answer).ask level) held r)) := by
  refine ⟨?_, ?_⟩
  · intro a v hbalanced
    have rule := D.unseen hlive hstep
    obtain ⟨hholds, hgrows⟩ : (v.Holds fun k j x => k = s → Session.Unseen s (w.session s) w.journal j x) ∧
        w.Grows v := rule.activity (rule.ask level) a (World.holds_unseen w s)
    exact hholds.same hgrows.since hbalanced
  · intro r hs hsilent hshow performed hbalanced
    refine ⟨?_, fun answer => ?_⟩
    · have hgrows := D.grows_perform level held w hsilent hshow
      exact D.perform_result level held hlive hstep hs hsilent hshow ⟨_, hgrows.since, hbalanced⟩
    · have hmute := D.perform_mute level held answer w s hsilent hshow
      exact (D.mute answer).perform_result level held hlive hstep hs hsilent hshow hmute

/-- A knot is entered and left as a candidate whenever it is asked, and then it fails. -/
def knotHost : Host Unit where
  describe _ o := do
    let _ ← Activity.request (.enterCandidate 0 ⟨"Knot.look()"⟩ [.object o])
    let _ ← Activity.request (.exitCandidate 0)
    return .failed ⟨"knot", "it is tied"⟩
  keeps _ _ := []

def knot : ObjectRef := ⟨0, 0, "Knot"⟩

/-- The world when a chain has started at a knot. -/
def knotWorld : World Unit :=
  (knotHost.run 0 (do
    let o ← Activity.birth "Knot" fun _ h => h
    Activity.request (.enterEntry 0 ⟨"Knot.tie()"⟩ [.object o])) (World.start () none)).2

/-- The knot is pulled, and the match looks at it again. -/
theorem knot_unseen :
    let w := knotWorld
    let pull : Activity Unit (Except Fault Bool) := do
      let _ ← Activity.request (.enterCandidate 0 ⟨"Knot.pull(Knot)"⟩ [.object knot])
      Activity.request (.exitCandidate 0)
    let v := (knotHost.act (knotHost.ask 2) [] pull w).2
    let cut : Request := .matchChain 0 ⟨"Knot.cut(Knot)"⟩ [.object knot]
    let performed := w.perform knotHost.keeps (knotHost.ask 2) [] cut
    (v.session 0 = w.session 0 ∧ CandidatesTold 0 true (w.since v)) ∧
      ∃ rs, (w.session 0).outcome? rs cut = some (World.result 0 performed) := by
  intro w pull v cut performed
  have hstep : (w.session 0).chain.InStep := ⟨fun _ => List.cons_ne_nil _ _, fun _ => rfl⟩
  have hpull : Nested 0 (w.since v) := by decide +kernel
  have hcut : Nested 0 (w.since performed.2) := by decide +kernel
  have hunseen := Host.balanced_unseen (α := Except Fault Bool) knotHost 2 [] (w := w) (s := 0) rfl hstep
  exact ⟨hunseen.1 pull hpull.balanced, (hunseen.2 cut rfl rfl rfl hcut.balanced).1⟩

end CallChain
