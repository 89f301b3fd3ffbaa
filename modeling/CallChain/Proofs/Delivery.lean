/-
# An agent delivers one artifact

The session of an agent sends the artifact of each completion that it returns, and
returns one at most. At every return the artifacts sent are those of the completions
returned so far; the one completion of a match shows the frames that the session keeps
showing from then on, and the terminal frame after them.

Key definitions: `completions`, `shownFrames`, `Session.Delivers`.
Key theorems: `Session.Turns.outcome`, `Session.delivers_rule`, `Session.Delivers.of_matchChain`,
`Host.delivers_once`.
-/
import CallChain.Proofs.Turns

namespace CallChain

variable {H α : Type}

/-! ### What an attempt can do -/

namespace Session

/-- A step that changes the chain alone. -/
def Recording {β : Type} (step : Session → Except Fault (β × Session)) : Prop :=
  ∀ {x t : Session} {b : β}, step x = .ok (b, t) → t = { x with chain := t.chain }

theorem recording_enterEntry (f : Frame) : Recording (enterEntry f) := by
  intro x t b h
  unfold enterEntry at h
  cases hc : x.chain.enter f <;> rw [hc] at h <;> cases h
  rfl

theorem recording_exitEntry : Recording exitEntry := by
  intro x t b h
  unfold exitEntry at h
  cases hc : x.chain.leave <;> rw [hc] at h <;> cases h
  rfl

theorem recording_enterCandidate (f : Frame) : Recording (enterCandidate f) := by
  intro x t b h
  unfold enterCandidate at h
  cases hc : x.chain.push f <;> rw [hc] at h <;> cases h
  rfl

theorem recording_exitCandidate : Recording exitCandidate := by
  intro x t b h
  unfold exitCandidate at h
  split at h
  · cases h
    rfl
  · cases hc : x.chain.pop <;> rw [hc] at h <;> cases h
    rfl

/-- An attempt to record changes the chain of a live session at most. -/
theorem attempt_recording {β : Type} {step : Session → Except Fault (β × Session)} (hstep : Recording step)
    {x t : Session} {reply : Except Fault β} (h : x.attempt step = (reply, t)) :
    t = { x with chain := t.chain } ∧ (x.complete = true → t = x) := by
  rcases attempt_cases h with rfl | ⟨hlive, b, hb⟩
  · exact ⟨rfl, fun _ => rfl⟩
  · exact ⟨hstep hb, fun hcomplete => by rw [hlive] at hcomplete; cases hcomplete⟩

end Session

/-! ### Completions in the journal -/

/-- The completion that a reply carries. -/
def Request.completion? : (r : Request) → r.Reply → Option Completion
  | .matchChain .., .ok c => some c
  | .discover .., .ok c => some c
  | _, _ => none

/-- The completions that a session has returned, the first one first. -/
def completions (s : Nat) : List Event → List Completion
  | [] => []
  | .returned r reply _ :: earlier =>
    completions s earlier ++ if r.session? = some s then (r.completion? reply).toList else []
  | _ :: earlier => completions s earlier

/-- The frames that a session had at the last return; at the start there are none. -/
def shownFrames (s : Nat) : List Event → List Frame
  | [] => []
  | .returned _ _ m :: _ => (m.session s).chain.frames
  | _ :: earlier => shownFrames s earlier

theorem completions_note {e : Event} (he : e.isReturn = false) (s : Nat) (j : List Event) :
    completions s (e :: j) = completions s j := by
  cases e with
  | returned r reply m => cases he
  | _ => rfl

theorem shownFrames_note {e : Event} (he : e.isReturn = false) (s : Nat) (j : List Event) :
    shownFrames s (e :: j) = shownFrames s j := by
  cases e with
  | returned r reply m => cases he
  | _ => rfl

theorem Session.Refuses.completion? {x : Session} {r : Request} {reply : r.Reply} (h : x.Refuses r reply) :
    r.completion? reply = none := by
  cases r with
  | matchChain s m vs =>
    obtain ⟨-, rfl⟩ := h
    rfl
  | enterEntry s m vs | enterCandidate s m vs => rfl
  | _ => exact h.elim

/-- A turn leaves a session live or complete as it was, or it is the one that completes a
live session and returns its completion. -/
theorem Session.Turns.outcome {x t : Session} {j : List Event} {r : Request} {reply : r.Reply}
    (h : x.Turns j r reply t) :
    (r.completion? reply = none ∧ t = { x with chain := t.chain } ∧ (x.complete = true → t = x)) ∨
      ∃ c, r.completion? reply = some c ∧ x.complete = false ∧ t = x.finish c := by
  cases r with
  | enterEntry s m vs =>
    obtain ⟨f, -, hattempt⟩ := h
    exact .inl ⟨rfl, attempt_recording (recording_enterEntry f) hattempt⟩
  | exitEntry s => exact .inl ⟨rfl, attempt_recording recording_exitEntry h⟩
  | enterCandidate s m vs =>
    obtain ⟨f, -, hattempt⟩ := h
    exact .inl ⟨rfl, attempt_recording (recording_enterCandidate f) hattempt⟩
  | exitCandidate s => exact .inl ⟨rfl, attempt_recording recording_exitCandidate h⟩
  | matchChain s m vs =>
    obtain ⟨f, -, hattempt⟩ := h
    rcases attempt_matchChain hattempt with ⟨-, rfl, rfl⟩ | ⟨hlive, rfl, rfl⟩
    · exact .inl ⟨rfl, rfl, fun _ => rfl⟩
    · exact .inr ⟨_, rfl, hlive, rfl⟩
  | discover s offered =>
    rcases attempt_discover h with ⟨-, rfl, rfl⟩ | ⟨hlive, rfl, rfl⟩
    · exact .inl ⟨rfl, rfl, fun _ => rfl⟩
    · exact .inr ⟨_, rfl, hlive, rfl⟩
  | _ =>
    obtain rfl : t = x := h
    exact .inl ⟨rfl, rfl, fun _ => rfl⟩

/-! ### The account of an agent -/

/-- The session of an agent that reports `walk`: it has sent the artifacts of the
completions that it has returned, it is complete when there is one, and it has not
changed its frames since. -/
structure Session.Delivers (walk : List String) (s : Nat) (j : List Event) (x : Session) : Prop where
  outlet : x.outlet = some ⟨walk, (completions s j).map (·.artifact)⟩
  live : x.complete = false → completions s j = []
  complete : x.complete = true → ∃ c, completions s j = [c]
  shown : x.chain.frames = shownFrames s j
  lasting : ∀ (r : Request) (reply : r.Reply) (m : Moment) (c : Completion), .returned r reply m ∈ j →
    r.session? = some s → r.completion? reply = some c →
      x.complete = true ∧ (m.session s).chain.frames = x.chain.frames

namespace Session.Delivers

variable {walk : List String} {s : Nat} {j : List Event} {x t : Session}

theorem note {e : Event} (he : e.isReturn = false) (h : x.Delivers walk s j) : x.Delivers walk s (e :: j) where
  outlet := by rw [completions_note he]; exact h.outlet
  live := by rw [completions_note he]; exact h.live
  complete := by rw [completions_note he]; exact h.complete
  shown := by rw [shownFrames_note he]; exact h.shown
  lasting r reply m c hmem := by
    rcases List.mem_cons.1 hmem with rfl | hmem
    · cases he
    · exact h.lasting r reply m c hmem

theorem aside {r : Request} {reply : r.Reply} {m : Moment} (hr : r.session? ≠ some s)
    (hm : m.session s = x) (h : x.Delivers walk s j) : x.Delivers walk s (.returned r reply m :: j) := by
  have hsame : completions s (.returned r reply m :: j) = completions s j := by
    simp only [completions, if_neg hr, List.append_nil]
  refine ⟨hsame ▸ h.outlet, hsame ▸ h.live, hsame ▸ h.complete, hm ▸ rfl, fun r' reply' m' c hmem hs => ?_⟩
  rcases List.mem_cons.1 hmem with heq | hmem
  · cases heq
    exact absurd hs hr
  · exact h.lasting r' reply' m' c hmem hs

/-- A return that carries no completion. -/
theorem quiet {r : Request} {reply : r.Reply} {m : Moment} (hnone : r.completion? reply = none)
    (ht : t = { x with chain := t.chain }) (hcomplete : x.complete = true → t = x)
    (hm : m.session s = t) (h : x.Delivers walk s j) : t.Delivers walk s (.returned r reply m :: j) := by
  have hsame : completions s (.returned r reply m :: j) = completions s j := by
    simp only [completions, hnone, Option.toList_none, ite_self, List.append_nil]
  have houtlet : t.outlet = x.outlet := by rw [ht]
  have hphase : t.complete = x.complete := by rw [ht]
  refine ⟨?_, ?_, ?_, hm ▸ rfl, fun r' reply' m' c hmem hs hc => ?_⟩
  · rw [hsame, houtlet]
    exact h.outlet
  · rw [hsame, hphase]
    exact h.live
  · rw [hsame, hphase]
    exact h.complete
  · rcases List.mem_cons.1 hmem with heq | hmem
    · cases heq
      rw [hnone] at hc
      cases hc
    · have hlasting := h.lasting r' reply' m' c hmem hs hc
      rwa [hcomplete hlasting.1]

/-- The return that completes the session. -/
theorem finish {r : Request} {reply : r.Reply} {m : Moment} {c : Completion} (hr : r.session? = some s)
    (hc : r.completion? reply = some c) (hlive : x.complete = false) (hm : m.session s = x.finish c)
    (h : x.Delivers walk s j) : (x.finish c).Delivers walk s (.returned r reply m :: j) := by
  have hnone := h.live hlive
  have hone : completions s (.returned r reply m :: j) = [c] := by
    simp only [completions, if_pos hr, hc, hnone, Option.toList_some, List.nil_append]
  refine ⟨?_, ?_, ?_, ?_, fun r' reply' m' c' hmem hs hc' => ?_⟩
  · simp only [Session.finish, h.outlet, hone, hnone, Option.map_some, List.map_nil, List.nil_append,
      List.map_cons]
  · intro hfalse
    cases hfalse
  · exact fun _ => ⟨c, hone⟩
  · rw [← hm]
    rfl
  · rcases List.mem_cons.1 hmem with heq | hmem
    · cases heq
      exact ⟨rfl, by rw [hm]⟩
    · have hlasting := h.lasting r' reply' m' c' hmem hs hc'
      rw [hlive] at hlasting
      exact absurd hlasting.1 (by decide)

end Session.Delivers

/-- Each turn of the session of an agent keeps its account. -/
theorem Session.delivers_rule (walk : List String) (agent : Nat) :
    Session.Rule fun s j x => s = agent → x.Delivers walk s j where
  note he h hs := (h hs).note he
  aside hr hm h hs := (h hs).aside hr hm
  turn hr hm hresolved h hs := by
    cases hresolved with
    | refused hrefuses => exact (h hs).quiet hrefuses.completion? rfl (fun _ => rfl) hm
    | turned _ _ _ hturns =>
      rcases hturns.outcome with ⟨hnone, ht, hcomplete⟩ | ⟨c, hc, hlive, rfl⟩
      · exact (h hs).quiet hnone ht hcomplete hm
      · exact (h hs).finish hr hc hlive hm
  opened n h hs := by
    -- a session that refuses everything has no outlet
    have houtlet := (h hs).outlet
    cases houtlet

namespace Session.Delivers

variable {walk : List String} {s : Nat} {j : List Event} {x : Session}

theorem sent (h : x.Delivers walk s j) : x.sent = (completions s j).map (·.artifact) := by
  rw [Session.sent, h.outlet]

theorem completions_length_le (h : x.Delivers walk s j) : (completions s j).length ≤ 1 := by
  cases hphase : x.complete with
  | false =>
    rw [h.live hphase]
    exact Nat.zero_le 1
  | true =>
    obtain ⟨c, hc⟩ := h.complete hphase
    rw [hc]
    exact Nat.le_refl 1

/-- A session that refuses because it is complete has returned its completion. -/
theorem completions_ne_nil (h : x.Delivers walk s j) (hcomplete : x.complete = true) : completions s j ≠ [] := by
  obtain ⟨c, hc⟩ := h.complete hcomplete
  rw [hc]
  exact List.cons_ne_nil _ _

/-- A request to match is refused after the completion, or it is the completion: of the
frames that the session has then, and the terminal frame, captured last. -/
theorem of_matchChain {t : Session} {method : Method} {vs : List Value} {reply : Except Fault Completion}
    {Good : Nat → List Event → Session → Prop} (h : x.Delivers walk s j)
    (hresolved : Resolved Good s j x (.matchChain s method vs) reply t) :
    (reply = .error .sessionComplete ∧ completions s j ≠ []) ∨
      (completions s j = [] ∧ ∃ terminal, CapturedLast j s method terminal ∧
        reply = .ok (.matched (t.chain.frames ++ [terminal]) (chainArtifact (t.chain.frames ++ [terminal])))) := by
  rcases hresolved.matchChain with ⟨hcomplete, rfl, -⟩ | ⟨hlive, f, hcaptured, hreply, ht⟩
  · exact .inl ⟨rfl, h.completions_ne_nil hcomplete⟩
  · refine .inr ⟨h.live hlive, f, hcaptured, ?_⟩
    have hframes : t.chain.frames = x.chain.frames := by
      rw [ht]
      rfl
    rw [hframes]
    exact hreply

/-- A request to discover is refused after the completion, or it is the completion: of the
call stack that the agent reports, with the frames left as they were. -/
theorem of_discover {t : Session} {offered : List String} {reply : Except Fault Completion}
    {Good : Nat → List Event → Session → Prop} (h : x.Delivers walk s j)
    (hresolved : Resolved Good s j x (.discover s offered) reply t) :
    (reply = .error .sessionComplete ∧ completions s j ≠ []) ∨
      (completions s j = [] ∧ reply = .ok (.discovered walk ("\n".intercalate walk)) ∧
        t.chain.frames = shownFrames s j) := by
  rcases hresolved.discover with ⟨hcomplete, rfl, -⟩ | ⟨hlive, hreply, ht⟩
  · exact .inl ⟨rfl, h.completions_ne_nil hcomplete⟩
  · have hframes : t.chain.frames = x.chain.frames := by
      rw [ht]
      rfl
    have hwalk : x.walk offered = walk := by
      rw [Session.walk, h.outlet]
    rw [hwalk] at hreply
    exact .inr ⟨h.live hlive, hreply, hframes.trans h.shown⟩

end Session.Delivers

/-- From a moment on a session has these frames: at every return that came later, and at
the end. -/
def KeepsFrames (s : Nat) (frames : List Frame) (later : List Event) (atEnd : Session) : Prop :=
  atEnd.chain.frames = frames ∧
    ∀ (r : Request) (reply : r.Reply) (m : Moment), .returned r reply m ∈ later →
      (m.session s).chain.frames = frames

/-- Once a session of an agent has returned a completion its frames stay. -/
theorem Session.Traced.keepsFrames {walk : List String} {agent : Nat} {w : World H}
    (h : Traced (fun s j x => s = agent → x.Delivers walk s j) agent w.journal (w.session agent))
    {later earlier : List Event} {r : Request} {reply : r.Reply} {m : Moment} {c : Completion}
    (hsplit : w.journal = later ++ .returned r reply m :: earlier) (hr : r.session? = some agent)
    (hc : r.completion? reply = some c) :
    KeepsFrames agent (m.session agent).chain.frames later (w.session agent) := by
  refine ⟨?_, fun r' reply' m' hmem => ?_⟩
  · have hmem : .returned r reply m ∈ w.journal := by
      rw [hsplit]
      exact List.mem_append_right _ List.mem_cons_self
    exact ((h.now rfl).lasting r reply m c hmem hr hc).2.symm
  · obtain ⟨after, between, hlater⟩ := List.append_of_mem hmem
    have hsplit' : w.journal =
        after ++ .returned r' reply' m' :: (between ++ .returned r reply m :: earlier) := by
      rw [hsplit, hlater, List.append_assoc, List.cons_append]
    have hgood := (h.before _ _ r' reply' m' hsplit').after rfl
    have hmem : .returned r reply m ∈
        Event.returned r' reply' m' :: (between ++ .returned r reply m :: earlier) :=
      List.mem_cons_of_mem _ (List.mem_append_right _ List.mem_cons_self)
    exact (hgood.lasting r reply m c hmem hr hc).2.symm

/-- **An agent delivers one artifact, and it is the right one.** Whatever is done with an
agent, from outside or by the objects that are asked on the way: at every return, and at
the end, the artifacts sent are those of the completions returned so far, of which there is
one at most. A request to complete is refused because the session has completed, or it is
the first to complete; then it returns the frames that the session has, and has for good,
with the terminal frame after them, or the call stack that the agent reports, and the
artifact is the text of that. -/
theorem Host.delivers_once (D : Host H) (level : Nat) (a : Activity H α) (h : H) (walk : List String) :
    let w := (D.run level a (World.start h (some ⟨walk, []⟩))).2
    ((w.session 0).sent = (completions 0 w.journal).map (·.artifact) ∧
      (completions 0 w.journal).length ≤ 1) ∧
    (∀ (later earlier : List Event) (r : Request) (reply : r.Reply) (m : Moment),
      w.journal = later ++ .returned r reply m :: earlier →
        (m.session 0).sent = (completions 0 (.returned r reply m :: earlier)).map (·.artifact)) ∧
    (∀ (later earlier : List Event) (method : Method) (vs : List Value) (reply : Except Fault Completion)
        (m : Moment), w.journal = later ++ .returned (.matchChain 0 method vs) reply m :: earlier →
      (reply = .error .sessionComplete ∧ completions 0 earlier ≠ []) ∨
        (completions 0 earlier = [] ∧ ∃ terminal, terminal.method = method ∧
          earlier.head? = some (.captured 0 terminal) ∧
          reply = .ok (.matched ((m.session 0).chain.frames ++ [terminal])
            (chainArtifact ((m.session 0).chain.frames ++ [terminal]))) ∧
          KeepsFrames 0 (m.session 0).chain.frames later (w.session 0))) ∧
    ∀ (later earlier : List Event) (offered : List String) (reply : Except Fault Completion) (m : Moment),
      w.journal = later ++ .returned (.discover 0 offered) reply m :: earlier →
        (reply = .error .sessionComplete ∧ completions 0 earlier ≠ []) ∨
          (completions 0 earlier = [] ∧ reply = .ok (.discovered walk ("\n".intercalate walk)) ∧
            (m.session 0).chain.frames = shownFrames 0 earlier ∧
            KeepsFrames 0 (m.session 0).chain.frames later (w.session 0)) := by
  intro w
  have htraced : Session.Traced (fun s j x => s = 0 → x.Delivers walk s j) 0 w.journal (w.session 0) := by
    refine (Session.delivers_rule walk 0).run D level a (fun s hs => ?_) rfl 0
    subst hs
    exact ⟨rfl, fun _ => rfl, nofun, rfl, nofun⟩
  refine ⟨⟨(htraced.now rfl).sent, (htraced.now rfl).completions_length_le⟩,
    fun later earlier r reply m hsplit => ?_, fun later earlier method vs reply m hsplit => ?_,
    fun later earlier offered reply m hsplit => ?_⟩
  · exact ((htraced.before _ _ _ _ _ hsplit).after rfl).sent
  · obtain ⟨x, hgood, hresolved⟩ := (htraced.before _ _ _ _ _ hsplit).resolved rfl
    rcases (hgood rfl).of_matchChain hresolved with hrefused | ⟨hfirst, f, ⟨hmethod, hhead⟩, rfl⟩
    · exact .inl hrefused
    · exact .inr ⟨hfirst, f, hmethod, hhead, rfl, htraced.keepsFrames hsplit rfl rfl⟩
  · obtain ⟨x, hgood, hresolved⟩ := (htraced.before _ _ _ _ _ hsplit).resolved rfl
    rcases (hgood rfl).of_discover hresolved with hrefused | ⟨hfirst, rfl, hframes⟩
    · exact .inl hrefused
    · exact .inr ⟨hfirst, rfl, hframes, htraced.keepsFrames hsplit rfl rfl⟩

end CallChain
