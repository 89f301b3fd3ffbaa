/-
# The demo reports the chain that it takes

The methods of the demo report to a probe that swallows every fault. On a graph of apps the
probe does not disturb the program: an app that is asked only answers, so a hook changes
nothing but the session, and its frame does to the session what it does to a chain. The
overload beside the chain leaves the session as it found it, whatever the session is doing,
because its exit undoes its entry. The session freezes in the middle of the nested calls,
and the exits that follow are refused.

Key definitions: `Host.Calm`, `Scene.Apps`, `World.Stands`.
Key theorems: `Activity.run_bind`, `Host.Calm.capture`, `Session.exit_of_enter`,
`Demo.run_beginChain_serialize`, `Demo.beginChain_reports`.
-/
import CallChain.Proofs.Delivery
import CallChain.Proofs.Faithful
import CallChain.Proofs.Invisible
import CallChain.Proofs.Refusals
import CallChain.Scene.Program

namespace CallChain

variable {H α β : Type}

/-! ### One program after another -/

theorem Activity.run_bind (sweep : World H → World H) (serve : (r : Request) → World H → r.Reply × World H)
    (go : α → Activity H β) : ∀ (a : Activity H α) (w : World H),
    (a.bind go).run sweep serve w = (go (a.run sweep serve w).1).run sweep serve (a.run sweep serve w).2
  | .done _, _ => rfl
  | .host _ next, _ => Activity.run_bind sweep serve go (next _) _
  | .create _ _ _ next, _ => Activity.run_bind sweep serve go (next _) _
  | .call _ next, _ => Activity.run_bind sweep serve go (next _) _

/-- The second program takes over from the first one. -/
theorem Host.run_bind (D : Host H) (level : Nat) (a : Activity H α) (go : α → Activity H β) (w : World H) :
    D.run level (a >>= go) w = D.run level (go (D.run level a w).1) (D.run level a w).2 :=
  Activity.run_bind _ _ go a w

theorem Host.run_pure (D : Host H) (level : Nat) (result : α) (w : World H) :
    D.run level (pure result) w = (result, w) :=
  rfl

/-! ### Objects that only answer -/

/-- In this state of the host some objects only answer when they are asked, and show only
each other. -/
def Host.Calm (D : Host H) (state : H) (mem : ObjectRef → Prop) : Prop :=
  ∀ (held : List ObjectRef) (o : ObjectRef), mem o → ∃ answer : Answer,
    (D.describe held o).Quiet (· = state) answer ∧
      ∀ shape, answer = .shape shape → ∀ p ∈ Value.objects shape.children, mem p

/-- A world with the host and the sessions of another one. -/
structure World.Calmed (w v : World H) : Prop where
  host : v.host = w.host
  sessions : v.sessions = w.sessions

theorem World.mem_of_grasp {w : World H} {vs : List Value} {o : ObjectRef}
    (h : o ∈ Value.objects (vs.map w.grasp)) : o ∈ Value.objects vs := by
  obtain ⟨v, hv, ho⟩ := List.mem_map.1 (Value.mem_objects.1 h)
  cases v with
  | scalar s => cases ho
  | object p =>
    simp only [grasp] at ho
    split at ho
    · cases ho
      exact Value.mem_objects.2 hv
    · cases ho

namespace Host.Calm

variable {D : Host H} {mem : ObjectRef → Prop} {w v : World H}

/-- To ask an object that only answers changes neither the host nor a session. -/
theorem ask (calm : D.Calm w.host mem) (level : Nat) {held : List ObjectRef} {o : ObjectRef} (ho : mem o)
    (hv : w.Calmed v) :
    w.Calmed (D.ask level held o v).2 ∧ ∀ shape, (D.ask level held o v).1 = .shape shape →
      ∀ p ∈ Value.objects shape.children, mem p := by
  cases level with
  | zero => exact ⟨⟨hv.host, hv.sessions⟩, fun shape h => by cases h⟩
  | succ level =>
    obtain ⟨answer, hquiet, hmem⟩ := calm held o ho
    obtain ⟨state, hstate, hrun⟩ := hquiet.run_eq (fun w => w.sweep D.keeps held)
      (World.serve D.keeps (D.ask level) held) (w := v.note (.asked o)) hv.host
    have hdescribed : D.act (D.ask level) held (D.describe held o) (v.note (.asked o)) =
        (answer, { v.note (.asked o) with host := state }) := hrun
    rw [Host.ask, hdescribed]
    refine ⟨⟨hstate, hv.sessions⟩, fun shape hshape p hp => ?_⟩
    cases answer with
    | shape shown =>
      obtain rfl : shown.map _ = shape := Answer.shape.inj hshape
      rw [Shape.children_map] at hp
      exact hmem shown rfl p (World.mem_of_grasp hp)
    | failed f => cases hshape
    | panicked text => cases hshape

/-- A pass over objects that only answer changes neither the host nor a session. -/
theorem capture (calm : D.Calm w.host mem) (level : Nat) {held : List ObjectRef} (hheld : ∀ o ∈ held, mem o)
    (s : Nat) {vs : List Value} (hvs : ∀ o ∈ Value.objects vs, mem o) :
    w.Calmed (w.capture (D.ask level) held s vs).2 := by
  unfold World.capture
  split
  · rename_i n _
    have hkeeps : (World.surroundings (D.ask level) n).Keeps
        fun held v => w.Calmed v ∧ ∀ o ∈ held, mem o := by
      refine ⟨fun hfewer h => ⟨h.1, fun o ho => h.2 o (hfewer o ho)⟩,
        fun _ h => ⟨⟨h.1.host, h.1.sessions⟩, h.2⟩,
        fun ho h => ⟨(calm.ask level (h.2 _ ho) h.1).1, h.2⟩, fun {_ _ _ shape} ho h hshape => ?_⟩
      obtain ⟨hcalmed, hshown⟩ := calm.ask level (h.2 _ ho) h.1
      exact ⟨hcalmed, fun p hp => (List.mem_append.1 hp).elim (h.2 p) (hshown shape hshape p)⟩
    have hstart : ∀ o ∈ held ++ Value.objects (vs.map w.grasp), mem o := fun o ho =>
      (List.mem_append.1 ho).elim (hheld o) fun ho => hvs o (World.mem_of_grasp ho)
    have hend := (Pass.renders_renderAll hkeeps held (vs.map w.grasp) ⟨w, []⟩ ⟨⟨rfl, rfl⟩, hstart⟩).2.1
    exact ⟨hend.host, hend.sessions⟩
  · exact ⟨rfl, rfl⟩

/-- A frame of objects that only answer comes to its session as the session was. -/
theorem updateWith {γ : Type} (calm : D.Calm w.host mem) (level : Nat) {held : List ObjectRef}
    (hheld : ∀ o ∈ held, mem o) (s : Nat) (m : Method) {vs : List Value} (hvs : ∀ o ∈ Value.objects vs, mem o)
    (step : Frame → Session → Except Fault (γ × Session)) :
    ∃ f : Frame, f.method = m ∧
      (w.updateWith (D.ask level) held s m vs step).1 = ((w.session s).attempt (step f)).1 ∧
      (w.updateWith (D.ask level) held s m vs step).2.host = w.host ∧
      (w.updateWith (D.ask level) held s m vs step).2.session s = ((w.session s).attempt (step f)).2 := by
  by_cases hcomplete : (w.session s).complete = true
  · refine ⟨⟨m, []⟩, rfl, ?_⟩
    rw [World.updateWith_of_complete hcomplete, Session.attempt_of_complete hcomplete]
    exact ⟨rfl, rfl, rfl⟩
  · have hcalmed := calm.capture level hheld s hvs
    generalize hcaptured : w.capture (D.ask level) held s vs = captured at hcalmed
    obtain ⟨rs, u⟩ := captured
    have hsession : (u.note (.captured s ⟨m, rs⟩)).session s = w.session s := by
      show u.session s = w.session s
      rw [Moment.session, Moment.session, hcalmed.sessions]
    refine ⟨⟨m, rs⟩, rfl, ?_⟩
    have hresult : w.updateWith (D.ask level) held s m vs step =
        (u.note (.captured s ⟨m, rs⟩)).updateLive s (step ⟨m, rs⟩) := by
      simp only [World.updateWith, if_neg hcomplete, hcaptured]
    rw [hresult, World.updateLive_eq, World.session_setSession_attempt, if_pos rfl, hsession]
    exact ⟨rfl, hcalmed.host, rfl⟩

end Host.Calm

/-! ### Candidates, and the match after them -/

/-- A chain that is not active holds no frame. -/
theorem Chain.InStep.frames_of_idle {c : Chain} (h : c.InStep) (hidle : c.inTarget = false) :
    c.frames = [] := by
  by_contra hframes
  rw [h.2 hframes] at hidle
  cases hidle

namespace Session

variable {x : Session}

theorem attempt_enterCandidate_of_idle (h : x.chain.inTarget = false) (f : Frame) :
    (x.attempt (enterCandidate f)).2 = x := by
  unfold attempt enterCandidate Chain.push
  rw [h]
  split <;> rfl

theorem attempt_enterCandidate_of_active (hlive : x.complete = false) (h : x.chain.inTarget = true)
    (f : Frame) : x.attempt (enterCandidate f) =
      (.ok true, { x with chain := ⟨x.chain.frames ++ [f], true⟩ }) := by
  simp only [attempt, hlive, Bool.false_eq_true, if_false, enterCandidate, Chain.push, h, Bool.not_true,
    Except.map]

/-- The exit of a candidate undoes its entry, whatever the session is doing. -/
theorem exit_of_enter (hstep : x.chain.InStep) (f : Frame) :
    ((x.attempt (enterCandidate f)).2.attempt exitCandidate).2 = x := by
  by_cases hcomplete : x.complete = true
  · rw [attempt_of_complete hcomplete, attempt_of_complete hcomplete]
  · have hlive : x.complete = false := by simpa using hcomplete
    by_cases hin : x.chain.inTarget = true
    · have hpush : x.chain.push f = .ok ⟨x.chain.frames ++ [f], true⟩ := by
        simp only [Chain.push, hin, Bool.not_true, Bool.false_eq_true, if_false]
      have hpop := Chain.pop_of_push hstep hpush
      rw [attempt_enterCandidate_of_active hlive hin]
      unfold attempt exitCandidate
      simp only [hlive, Bool.false_eq_true, if_false, Bool.not_true, hpop, Except.map]
      rw [← hlive]
    · have hidle : x.chain.inTarget = false := by simpa using hin
      rw [attempt_enterCandidate_of_idle hidle]
      unfold attempt exitCandidate
      simp only [hlive, hidle, Bool.false_eq_true, if_false, Bool.not_false, if_true]

/-- A live session of an agent reports the call stack of the agent. -/
theorem attempt_discover_of_live {walk sent : List String} (hlive : x.complete = false)
    (h : x.outlet = some ⟨walk, sent⟩) :
    x.attempt (discover []) = (.ok (.discovering walk), x.finish (.discovering walk)) := by
  have hwalk : x.walk [] = walk := by rw [Session.walk, h]
  simp only [attempt, hlive, Bool.false_eq_true, if_false, discover, hwalk]

theorem complete_attempt_matchChain (x : Session) (f : Frame) :
    (x.attempt (matchChain f)).2.complete = true := by
  unfold attempt
  split
  · assumption
  · rfl

theorem sent_finish {outlet : Outlet} (h : x.outlet = some outlet) (c : Completion) :
    (x.finish c).sent = x.sent ++ [c.artifact] := by
  simp only [Session.sent, Session.finish, h, Option.map_some]

end Session

/-! ### Graphs of apps -/

/-- An app or a roster of apps that leads to no other objects. -/
def Thing.LeadsTo (mem : ObjectRef → Prop) : Thing → Prop
  | .member .app _ children parent => mem children ∧ ∀ p, parent = some p → mem p
  | .roster members => ∀ p ∈ members, mem p
  | _ => False

/-- The objects are a graph of apps: each is an app or a roster, and they lead only to each
other. -/
def Scene.Apps (s : Scene) (mem : ObjectRef → Prop) : Prop :=
  ∀ o, mem o → ∃ t, s.thing? o = some t ∧ t.LeadsTo mem

/-- Apps only answer. -/
theorem Scene.Apps.calm {s : Scene} {mem : ObjectRef → Prop} (h : s.Apps mem) : Scene.asHost.Calm s mem := by
  intro held o ho
  obtain ⟨t, ht, hleads⟩ := h o ho
  cases t with
  | member family label roster parent =>
    cases family with
    | node => exact hleads.elim
    | app =>
      obtain ⟨hroster, hparent⟩ := hleads
      have hquiet : (Scene.describe held o).Quiet (· = s) (.shape (.record [("name", .text label),
          (Family.app.rosterField, .object roster),
          ("parent", (parent.filter (· ∈ s.keeps held)).elim .null .object)])) := by
        refine .host (fun h hh => hh) fun h hh => ?_
        subst hh
        simp only [Activity.bind, ht]
        exact .done
      refine ⟨_, hquiet, fun shape hshape p hp => ?_⟩
      cases hshape
      simp only [Value.mem_objects, Shape.children, List.map_cons, List.map_nil, List.mem_cons,
        List.not_mem_nil, or_false, Value.object.injEq, Value.text, reduceCtorEq, false_or] at hp
      rcases hp with rfl | hp
      · exact hroster
      · cases hfound : parent.filter (· ∈ s.keeps held) with
        | none =>
          rw [hfound] at hp
          cases hp
        | some q =>
          rw [hfound] at hp
          cases hp
          exact hparent p (Option.filter_eq_some_iff.1 hfound).1
  | roster members =>
    have hquiet : (Scene.describe held o).Quiet (· = s) (.shape (.sequence (members.map .object))) := by
      refine .host (fun h hh => hh) fun h hh => ?_
      subst hh
      simp only [Activity.bind, ht]
      exact .done
    refine ⟨_, hquiet, fun shape hshape p hp => ?_⟩
    cases hshape
    simp only [Value.mem_objects, Shape.children, List.mem_map, Value.object.injEq, exists_eq_right] at hp
    exact hleads p hp
  | _ => exact hleads.elim

/-! ### The hooks of a probe -/

/-- A world with this scene, in which session 0 is this one. -/
structure World.Stands (w : World Scene) (s : Scene) (x : Session) : Prop where
  host : w.host = s
  session : w.session 0 = x

namespace Probe

variable {p : Probe} {w : World Scene} {s : Scene} {x : Session} {mem : ObjectRef → Prop}

/-- The scene once a probe has kept a completion, if there is one. -/
def keeping (p : Probe) (reply : Except Fault Completion) (s : Scene) : Scene :=
  match reply with
  | .ok completion => { s with kept := some completion, ended := s.ended || p.terminates }
  | .error _ => s

theorem rosterOf_keeping (p : Probe) (reply : Except Fault Completion) (s : Scene) (roster : ObjectRef) :
    (p.keeping reply s).rosterOf roster = s.rosterOf roster := by
  cases reply <;> rfl

/-- An embedded probe changes nothing but what it keeps. -/
theorem keeping_embedded (hp : p.terminates = false) (reply : Except Fault Completion) (s : Scene) :
    p.keeping reply s = { s with kept := (p.keeping reply s).kept } := by
  cases reply with
  | error fault => rfl
  | ok completion => simp only [keeping, hp, Bool.or_false]

theorem run_keep (p : Probe) (level : Nat) (reply : Except Fault Completion) (w : World Scene) :
    Scene.asHost.run level (p.keep reply) w = ((), { w with host := p.keeping reply w.host }) := by
  cases reply <;> rfl

theorem run_report_of_ne (hrules : p.rules ≠ .serialize) (level : Nat) (r : Request) (w : World Scene) :
    Scene.asHost.run level (p.report r) w = ((), w) := by
  unfold report
  rw [if_neg hrules]
  rfl

theorem run_report (hrules : p.rules = .serialize) (level : Nat) (r : Request) (w : World Scene) :
    Scene.asHost.run level (p.report r) w =
      ((), (World.serve Scene.asHost.keeps (Scene.asHost.ask level) [] r w).2) := by
  unfold report
  rw [if_pos hrules]
  rfl

/-- A candidate of apps is entered on the session as it is, and nothing else changes. -/
theorem run_candidate (hrules : p.rules = .serialize) (happs : s.Apps mem) (level : Nat) (m : Method)
    {vs : List Value} (hvs : ∀ o ∈ Value.objects vs, mem o) (hw : w.Stands s x) :
    ∃ f : Frame, f.method = m ∧ (Scene.asHost.run level (p.candidate m vs) w).2.Stands s
      (x.attempt (Session.enterCandidate f)).2 := by
  obtain ⟨rfl, rfl⟩ := hw
  have hperformed : ∃ f : Frame, f.method = m ∧
      (w.perform Scene.asHost.keeps (Scene.asHost.ask level) [] (.enterCandidate 0 m vs)).2.Stands w.host
        ((w.session 0).attempt (Session.enterCandidate f)).2 := by
    simp only [World.perform]
    split
    · rename_i hcomplete
      exact ⟨⟨m, []⟩, rfl, rfl, by rw [Session.attempt_of_complete hcomplete]⟩
    · split
      · rename_i hout
        have hidle : (w.session 0).chain.inTarget = false := by simpa using hout
        exact ⟨⟨m, []⟩, rfl, rfl, by rw [Session.attempt_enterCandidate_of_idle hidle]⟩
      · have hnone : ∀ o ∈ ([] : List ObjectRef), mem o := by simp
        obtain ⟨f, hf, -, hhost, hsession⟩ :=
          happs.calm.updateWith level hnone 0 m hvs Session.enterCandidate
        exact ⟨f, hf, hhost, hsession⟩
  obtain ⟨f, hf, hhost, hsession⟩ := hperformed
  refine ⟨f, hf, ?_⟩
  rw [candidate, run_report hrules]
  exact ⟨hhost, hsession⟩

theorem run_exitCandidate (hrules : p.rules = .serialize) (level : Nat) (hw : w.Stands s x) :
    (Scene.asHost.run level p.exitCandidate w).2.Stands s (x.attempt Session.exitCandidate).2 := by
  obtain ⟨rfl, rfl⟩ := hw
  have hsession : (w.updateLive 0 Session.exitCandidate).2.session 0 =
      ((w.session 0).attempt Session.exitCandidate).2 := by
    rw [World.updateLive_eq, World.session_setSession_attempt, if_pos rfl]
  have hhost : (w.updateLive 0 Session.exitCandidate).2.host = w.host := by
    rw [World.updateLive_eq]
    rfl
  rw [exitCandidate, run_report hrules]
  exact ⟨hhost, hsession⟩

/-- A terminal frame of apps ends the session as it is, and the completion is kept. -/
theorem run_terminal (hrules : p.rules = .serialize) (happs : s.Apps mem) (level : Nat) (m : Method)
    {vs : List Value} (hvs : ∀ o ∈ Value.objects vs, mem o) (hw : w.Stands s x) :
    ∃ f : Frame, f.method = m ∧ (Scene.asHost.run level (p.terminal m vs) w).2.Stands
      (p.keeping (x.attempt (Session.matchChain f)).1 s) (x.attempt (Session.matchChain f)).2 := by
  obtain ⟨rfl, rfl⟩ := hw
  have hnone : ∀ o ∈ ([] : List ObjectRef), mem o := by simp
  obtain ⟨f, hf, hreply, hhost, hsession⟩ := happs.calm.updateWith level hnone 0 m hvs Session.matchChain
  refine ⟨f, hf, ?_⟩
  simp only [terminal, hrules, Host.run_bind, run_keep]
  rw [← hreply, ← hsession]
  exact ⟨congrArg (p.keeping _) hhost, rfl⟩

/-- A report of the call stack ends the session as it is, and the completion is kept. -/
theorem run_terminal_discover (hrules : p.rules = .discover) (level : Nat) (m : Method) (vs : List Value)
    (hw : w.Stands s x) : (Scene.asHost.run level (p.terminal m vs) w).2.Stands
      (p.keeping (x.attempt (Session.discover [])).1 s) (x.attempt (Session.discover [])).2 := by
  obtain ⟨rfl, rfl⟩ := hw
  have hupdated := World.updateLive_eq w 0 (Session.discover [])
  have hsession : (w.updateLive 0 (Session.discover [])).2.session 0 =
      ((w.session 0).attempt (Session.discover [])).2 := by
    rw [hupdated, World.session_setSession_attempt, if_pos rfl]
  have hhost : p.keeping (w.updateLive 0 (Session.discover [])).1 (w.updateLive 0 (Session.discover [])).2.host =
      p.keeping ((w.session 0).attempt (Session.discover [])).1 w.host := by
    rw [hupdated]
    rfl
  simp only [terminal, hrules, Host.run_bind, run_keep]
  exact ⟨hhost, hsession⟩

theorem makes_report {P : Request → Prop} {r : Request} (h : P r) : (p.report r).Makes P := by
  unfold report
  split
  · exact ⟨h, fun _ => trivial⟩
  · trivial

theorem makes_keep {P : Request → Prop} (p : Probe) (reply : Except Fault Completion) :
    (p.keep reply).Makes P := by
  cases reply with
  | error fault => trivial
  | ok completion => exact fun _ => trivial

theorem makes_terminal (p : Probe) (m : Method) (vs : List Value) :
    (p.terminal m vs).Makes (·.operates? = some 0) := by
  unfold terminal
  split
  · trivial
  · exact .bind (p.makes_keep ·) ⟨rfl, fun _ => trivial⟩
  · exact .bind (p.makes_keep ·) ⟨rfl, fun _ => trivial⟩

theorem run_terminal_off (hrules : p.rules = .off) (level : Nat) (m : Method) (vs : List Value)
    (w : World Scene) : Scene.asHost.run level (p.terminal m vs) w = ((), w) := by
  simp only [terminal, hrules]
  rfl

end Probe

/-! ### The chain of the demo -/

/-- A session after two candidates and a match, with the answer to the match. -/
def Session.takeChain (x : Session) (f₁ f₂ f₃ : Frame) : Except Fault Completion × Session :=
  ((x.attempt (enterCandidate f₁)).2.attempt (enterCandidate f₂)).2.attempt (matchChain f₃)

namespace Demo

variable {p : Probe} {w : World Scene} {s : Scene} {x : Session} {mem : ObjectRef → Prop}
  {a b : Scene.Member}

/-- The result of the chain: twice the length of both names with the slash between them,
and the number of the children. -/
def chainResult (a b : Scene.Member) (s : Scene) : Int :=
  2 * (a.label.utf8ByteSize + 1 + b.label.utf8ByteSize) + (s.rosterOf a.roster).length

theorem utf8ByteSize_joined (first second : String) :
    (first ++ "/" ++ second).utf8ByteSize = first.utf8ByteSize + 1 + second.utf8ByteSize := by
  rw [String.utf8ByteSize_append, String.utf8ByteSize_append]
  rfl

theorem mem_of_receiver (ha : mem a.object) (s : Scalar) :
    ∀ o ∈ Value.objects [.object a.object, .scalar s], mem o := by
  intro o ho
  obtain rfl : o = a.object := by simpa using ho
  exact ha

theorem run_childCount (level : Nat) (a : Scene.Member) (w : World Scene) :
    Scene.asHost.run level (childCount a) w = (((w.host.rosterOf a.roster).length : Int), w) :=
  rfl

/-- The overload beside the chain joins the names, and leaves the session as it is. -/
theorem run_midChainLabel (hrules : p.rules = .serialize) (happs : s.Apps mem) (ha : mem a.object)
    (hstep : x.chain.InStep) (level : Nat) (label : String) (hw : w.Stands s x) :
    (Scene.asHost.run level (midChainLabel p a label) w).1 = a.label ++ "/" ++ label ∧
      (Scene.asHost.run level (midChainLabel p a label) w).2.Stands s x := by
  have hmem : ∀ o ∈ Value.objects [.object a.object, .text label], mem o := mem_of_receiver ha (.str label)
  obtain ⟨f, -, hentered⟩ := Probe.run_candidate hrules happs level (method "mid_chain(&str) String") hmem hw
  have hexited := Probe.run_exitCandidate hrules level hentered
  rw [Session.exit_of_enter hstep] at hexited
  constructor
  · simp only [midChainLabel, Host.run_bind, Host.run_pure]
  · simpa only [midChainLabel, Host.run_bind, Host.run_pure] using hexited

/-- The link of the chain records itself and the end, and the session is complete when it
returns. -/
theorem run_midChain (hrules : p.rules = .serialize) (happs : s.Apps mem) (ha : mem a.object)
    (level : Nat) (n : Int) (hw : w.Stands s x) :
    ∃ f₂ f₃ : Frame, f₂.method = method "mid_chain(i64) i64" ∧ f₃.method = method "end_chain(i64) i64" ∧
      let ended := (x.attempt (Session.enterCandidate f₂)).2.attempt (Session.matchChain f₃)
      (Scene.asHost.run level (midChain p a n) w).1 = n * 2 + (s.rosterOf a.roster).length ∧
        (Scene.asHost.run level (midChain p a n) w).2.Stands (p.keeping ended.1 s) ended.2 := by
  obtain ⟨f₂, hf₂, hentered⟩ := Probe.run_candidate hrules happs level
    (method "mid_chain(i64) i64") (mem_of_receiver ha (.int (.ofInt n))) hw
  obtain ⟨f₃, hf₃, hmatched⟩ := Probe.run_terminal hrules happs level
    (method "end_chain(i64) i64") (mem_of_receiver ha (.int (.ofInt (n * 2)))) hentered
  have hcomplete := Session.complete_attempt_matchChain (x.attempt (Session.enterCandidate f₂)).2 f₃
  have hexited := Probe.run_exitCandidate hrules level hmatched
  rw [Session.attempt_of_complete hcomplete] at hexited
  refine ⟨f₂, f₃, hf₂, hf₃, ?_⟩
  simp only [midChain, endChain, Host.run_bind, Host.run_pure, run_childCount]
  refine ⟨?_, hexited⟩
  rw [hmatched.host, Probe.rosterOf_keeping]

/-- Where the probe records the chain, its frames are taken by the session. -/
theorem run_beginChain_serialize (hrules : p.rules = .serialize) (happs : s.Apps mem) (ha : mem a.object)
    (hb : mem b.object) (hstep : x.chain.InStep) (level : Nat) (hw : w.Stands s x) :
    ∃ f₁ f₂ f₃ : Frame, [f₁, f₂, f₃].map (·.method.text) =
        ["demo.App.begin_chain(App)", "demo.App.mid_chain(i64)", "demo.App.end_chain(i64)"] ∧
      (Scene.asHost.run level (beginChain p a b) w).1 = chainResult a b s ∧
        (Scene.asHost.run level (beginChain p a b) w).2.Stands
          (p.keeping (x.takeChain f₁ f₂ f₃).1 s) (x.takeChain f₁ f₂ f₃).2 := by
  have hmem : ∀ o ∈ Value.objects [.object a.object, .object b.object], mem o := by
    intro o ho
    have heither : o = a.object ∨ o = b.object := by simpa using ho
    rcases heither with rfl | rfl
    · exact ha
    · exact hb
  obtain ⟨f₁, hf₁, hentered⟩ := Probe.run_candidate hrules happs level
    (method "begin_chain(App) i64") hmem hw
  have hstep₁ : (x.attempt (Session.enterCandidate f₁)).2.chain.InStep :=
    (Session.follows_enterCandidate hstep 0 f₁.method [] f₁.values).inStep
  obtain ⟨hlabel, hlabelled⟩ := run_midChainLabel hrules happs ha hstep₁ level b.label hentered
  obtain ⟨f₂, f₃, hf₂, hf₃, hresult, hended⟩ := run_midChain hrules happs ha level
    (a.label ++ "/" ++ b.label).utf8ByteSize hlabelled
  have hexited := Probe.run_exitCandidate hrules level hended
  rw [Session.attempt_of_complete (Session.complete_attempt_matchChain _ _)] at hexited
  have hmethods : [f₁, f₂, f₃].map (·.method.text) =
      ["demo.App.begin_chain(App)", "demo.App.mid_chain(i64)", "demo.App.end_chain(i64)"] := by
    rw [List.map_cons, List.map_cons, List.map_cons, List.map_nil, hf₁, hf₂, hf₃]
    decide +kernel
  refine ⟨f₁, f₂, f₃, hmethods, ?_⟩
  simp only [beginChain, Host.run_bind, Host.run_pure, hlabel]
  refine ⟨?_, hexited⟩
  rw [hresult, chainResult, utf8ByteSize_joined]
  push_cast
  omega

/-- Where the probe records nothing, only the terminal hook is left. -/
theorem run_beginChain_of_ne (hrules : p.rules ≠ .serialize) (level : Nat) (w : World Scene) :
    let ended := Scene.asHost.run level (p.terminal (method "end_chain(i64) i64") [.object a.object,
      .scalar (.int (.ofInt ((a.label ++ "/" ++ b.label).utf8ByteSize * 2)))]) w
    Scene.asHost.run level (beginChain p a b) w = (chainResult a b ended.2.host, ended.2) := by
  simp only [beginChain, midChainLabel, midChain, endChain, Probe.candidate, Probe.exitCandidate,
    Host.run_bind, Host.run_pure, Probe.run_report_of_ne hrules, run_childCount]
  refine Prod.ext ?_ rfl
  rw [chainResult, utf8ByteSize_joined]
  push_cast
  omega

theorem run_beginChain_off (hrules : p.rules = .off) (level : Nat) (w : World Scene) :
    Scene.asHost.run level (beginChain p a b) w = (chainResult a b w.host, w) := by
  have hne : p.rules ≠ .serialize := by simp [hrules]
  rw [run_beginChain_of_ne hne, Probe.run_terminal_off hrules]

theorem run_beginChain_discover (hrules : p.rules = .discover) (level : Nat) (hw : w.Stands s x) :
    (Scene.asHost.run level (beginChain p a b) w).1 = chainResult a b s ∧
      (Scene.asHost.run level (beginChain p a b) w).2.Stands
        (p.keeping (x.attempt (Session.discover [])).1 s) (x.attempt (Session.discover [])).2 := by
  have hne : p.rules ≠ .serialize := by simp [hrules]
  have hended := Probe.run_terminal_discover hrules level (method "end_chain(i64) i64") [.object a.object,
    .scalar (.int (.ofInt ((a.label ++ "/" ++ b.label).utf8ByteSize * 2)))] hw
  rw [run_beginChain_of_ne hne]
  refine ⟨?_, hended⟩
  rw [chainResult, chainResult, hended.host, Probe.rosterOf_keeping]

/-- The chain of the demo operates on the session of the agent, and makes no other
requests. -/
theorem makes_beginChain (p : Probe) (a b : Scene.Member) :
    (beginChain p a b).Makes (·.operates? = some 0) := by
  have hcandidate : ∀ m vs, (p.candidate m vs).Makes (·.operates? = some 0) :=
    fun m vs => Probe.makes_report rfl
  have hexit : p.exitCandidate.Makes (·.operates? = some 0) := Probe.makes_report rfl
  have hcount : (childCount a).Makes (·.operates? = some 0) := fun _ => trivial
  have hend : ∀ n, (endChain p a n).Makes (·.operates? = some 0) := fun n =>
    .bind (fun _ => .bind (fun _ => Activity.makes_pure _ _) hcount) (Probe.makes_terminal p _ _)
  have hmid : ∀ n, (midChain p a n).Makes (·.operates? = some 0) := fun n =>
    .bind (fun _ => .bind (fun _ => .bind (fun _ => Activity.makes_pure _ _) hexit) (hend _)) (hcandidate _ _)
  have hlabel : ∀ label, (midChainLabel p a label).Makes (·.operates? = some 0) := fun label =>
    .bind (fun _ => .bind (fun _ => Activity.makes_pure _ _) hexit) (hcandidate _ _)
  have hrest : ∀ n, (midChain p a n >>= fun result => p.exitCandidate >>= fun _ => pure result).Makes
      (·.operates? = some 0) := fun n =>
    .bind (fun _ => .bind (fun _ => Activity.makes_pure _ _) hexit) (hmid n)
  exact .bind (fun _ => .bind (fun _ => hrest _) (hlabel _)) (hcandidate _ _)

end Demo

/-! ### What the chain does to its session -/

namespace Session

variable {x : Session}

theorem takeChain_of_complete (h : x.complete = true) (f₁ f₂ f₃ : Frame) :
    x.takeChain f₁ f₂ f₃ = (.error .sessionComplete, x) := by
  simp only [takeChain, attempt_of_complete h]

/-- Inside of a target chain the frames are recorded, and the match shows them. -/
theorem takeChain_of_active (hlive : x.complete = false) (h : x.chain.inTarget = true) (f₁ f₂ f₃ : Frame) :
    x.takeChain f₁ f₂ f₃ = (.ok (.matching (x.chain.frames ++ [f₁, f₂, f₃])),
      { x with chain := ⟨x.chain.frames ++ [f₁, f₂], true⟩ }.finish
        (.matching (x.chain.frames ++ [f₁, f₂, f₃]))) := by
  rw [takeChain, attempt_enterCandidate_of_active hlive h,
    attempt_enterCandidate_of_active (x := { x with chain := ⟨x.chain.frames ++ [f₁], true⟩ }) hlive rfl]
  simp only [attempt, hlive, Bool.false_eq_true, if_false, matchChain, Chain.snapshot, List.append_assoc,
    List.cons_append, List.nil_append]

/-- Outside of a chain only the end is seen. -/
theorem takeChain_of_idle (hlive : x.complete = false) (h : x.chain.inTarget = false) (f₁ f₂ f₃ : Frame) :
    x.takeChain f₁ f₂ f₃ = (.ok (.matching (x.chain.frames ++ [f₃])),
      x.finish (.matching (x.chain.frames ++ [f₃]))) := by
  rw [takeChain, attempt_enterCandidate_of_idle h, attempt_enterCandidate_of_idle h]
  simp only [attempt, hlive, Bool.false_eq_true, if_false, matchChain, Chain.snapshot]

end Session

/-- An app of a graph, as the scene has it. -/
structure Scene.HasApp (s : Scene) (mem : ObjectRef → Prop) (a : Member) : Prop where
  mem : mem a.object
  app : s.memberAt? .app a.object = some a

namespace Demo

/-- What a match of the chain leaves: the session `x` became `y`, and the probe kept this. -/
structure Matched (x y : Session) (kept : Option Completion) (frames : List Frame) : Prop where
  complete : y.complete = true
  sent : y.sent = x.sent ++ [chainArtifact frames]
  kept : kept = some (.matching frames)

theorem matched_finish {outlet : Outlet} (h : x.outlet = some outlet) (c : Chain) (frames : List Frame) :
    Matched x ({ x with chain := c }.finish (.matching frames)) (some (.matching frames)) frames where
  complete := rfl
  sent := by rw [Session.sent_finish (x := { x with chain := c }) h, Completion.matching, Completion.artifact]; rfl
  kept := rfl

/-- Every agent keeps the call stack that it reports. -/
theorem outlet_run (before : Nat) {α : Type} (earlier : Activity Scene α) (role : Role) (walk : List String) :
    ∃ sent, ((Scene.asHost.run before earlier (Program.start role walk)).2.session 0).outlet =
      some ⟨walk, sent⟩ := by
  have hstart : ∀ s, s = 0 → Session.Delivers walk s [] ((Program.start role walk).session s) := by
    rintro s rfl
    exact ⟨rfl, fun _ => rfl, nofun, rfl, nofun⟩
  have htraced := (Session.delivers_rule walk 0).run Scene.asHost before earlier hstart rfl
  exact ⟨_, ((htraced 0).now rfl).outlet⟩

/-- **The demo's probe is transparent and reports the chain that was taken.** Whatever was
done with the agent before, and for any two apps of a graph: the chain gives the result
that it has without a probe, and of the scene nothing changes but what the probe keeps. A
live session is matched with the frames it has and those of the chain, or with the last one
alone if no chain is active; or it reports the call stack, and its frames stay. Where the
probe does nothing, or the session is complete, everything stays as it was. -/
theorem beginChain_reports (rules : Rules) (role : Role) (walk : List String) (before level : Nat)
    {α : Type} (earlier : Activity Scene α) (mem : ObjectRef → Prop) (a b : Scene.Member) :
    let w := (Scene.asHost.run before earlier (Program.start role walk)).2
    w.host.Apps mem → w.host.HasApp mem a → w.host.HasApp mem b →
    let ran := Scene.asHost.run level (beginChain ⟨rules, false⟩ a b) w
    let x := w.session 0
    let y := ran.2.session 0
    ran.1 = chainResult a b w.host ∧ ran.2.host = { w.host with kept := ran.2.host.kept } ∧
    (rules = .serialize → x.complete = false →
      (x.chain.inTarget = true → ∃ f₁ f₂ f₃ : Frame,
        Matched x y ran.2.host.kept (x.chain.frames ++ [f₁, f₂, f₃]) ∧
        y.chain.frames = x.chain.frames ++ [f₁, f₂] ∧
        [f₁, f₂, f₃].map (·.method.text) =
          ["demo.App.begin_chain(App)", "demo.App.mid_chain(i64)", "demo.App.end_chain(i64)"]) ∧
      (x.chain.inTarget = false → ∃ f : Frame, Matched x y ran.2.host.kept [f] ∧
        y.chain.frames = [] ∧ f.method.text = "demo.App.end_chain(i64)")) ∧
    (rules = .discover → x.complete = false →
      y.complete = true ∧ y.chain = x.chain ∧ y.sent = x.sent ++ [stackArtifact walk] ∧
        ran.2.host.kept = some (.discovering walk)) ∧
    (rules = .off ∨ x.complete = true → w.Untouched ran.2 ∧ ran.2.host = w.host) := by
  intro w happs ha hb ran x y
  have hw : w.Stands w.host x := ⟨rfl, rfl⟩
  have hstep : x.chain.InStep := (Scene.asHost.chains_inStep before earlier _ _).1 0
  obtain ⟨sent, houtlet⟩ : ∃ sent, x.outlet = some ⟨walk, sent⟩ := outlet_run before earlier role walk
  have hrefused : x.complete = true → w.Untouched ran.2 := fun hcomplete =>
    (Scene.asHost.act_of_complete (Scene.asHost.ask level) [] hcomplete (beginChain ⟨rules, false⟩ a b)
      (makes_beginChain _ a b) (.refl w)).1
  -- of the run before nothing else is needed
  clear_value w
  have hkept : ∀ (reply : Except Fault Completion) (t : Session),
      ran.2.Stands (Probe.keeping ⟨rules, false⟩ reply w.host) t →
        ran.2.host = { w.host with kept := ran.2.host.kept } := by
    intro reply t hended
    rw [hended.host]
    exact Probe.keeping_embedded rfl reply w.host
  cases rules with
  | off =>
    have hran : ran = (chainResult a b w.host, w) := run_beginChain_off rfl level w
    have hsame : ran.2 = w := congrArg Prod.snd hran
    refine ⟨congrArg Prod.fst hran, by rw [hsame], nofun, nofun, fun _ => ?_⟩
    rw [hsame]
    exact ⟨.refl w, rfl⟩
  | discover =>
    obtain ⟨hresult, hended⟩ : ran.1 = chainResult a b w.host ∧
        ran.2.Stands (Probe.keeping ⟨.discover, false⟩ (x.attempt (Session.discover [])).1 w.host)
          (x.attempt (Session.discover [])).2 := run_beginChain_discover rfl level hw
    refine ⟨hresult, hkept _ _ hended, nofun, fun _ hlive => ?_, fun h => ?_⟩
    · rw [Session.attempt_discover_of_live hlive houtlet] at hended
      have hy : y = x.finish (.discovering walk) := hended.session
      rw [hy, hended.host]
      exact ⟨rfl, rfl, Session.sent_finish houtlet _, rfl⟩
    · have hcomplete : x.complete = true := h.resolve_left nofun
      rw [Session.attempt_of_complete hcomplete] at hended
      exact ⟨hrefused hcomplete, hended.host⟩
  | serialize =>
    obtain ⟨f₁, f₂, f₃, hmethods, hresult, hended⟩ : ∃ f₁ f₂ f₃ : Frame, [f₁, f₂, f₃].map (·.method.text) =
          ["demo.App.begin_chain(App)", "demo.App.mid_chain(i64)", "demo.App.end_chain(i64)"] ∧
        ran.1 = chainResult a b w.host ∧
        ran.2.Stands (Probe.keeping ⟨.serialize, false⟩ (x.takeChain f₁ f₂ f₃).1 w.host)
          (x.takeChain f₁ f₂ f₃).2 := run_beginChain_serialize rfl happs ha.mem hb.mem hstep level hw
    refine ⟨hresult, hkept _ _ hended, fun _ hlive => ⟨fun hin => ?_, fun hidle => ?_⟩, nofun, fun h => ?_⟩
    · rw [Session.takeChain_of_active hlive hin] at hended
      have hy : y = Session.finish _ _ := hended.session
      rw [hy, hended.host]
      exact ⟨f₁, f₂, f₃, matched_finish houtlet _ _, rfl, hmethods⟩
    · have hempty : x.chain.frames = [] := hstep.frames_of_idle hidle
      rw [Session.takeChain_of_idle hlive hidle, hempty] at hended
      have hy : y = x.finish (.matching [f₃]) := hended.session
      rw [hy, hended.host]
      have hlast : ["demo.App.end_chain(i64)"] = [f₃.method.text] := by
        rw [List.map_cons, List.map_cons, List.map_cons] at hmethods
        exact (List.cons.inj (List.cons.inj hmethods).2).2.symm
      exact ⟨f₃, matched_finish houtlet x.chain _, hempty, (List.cons.inj hlast).1.symm⟩
    · have hcomplete : x.complete = true := h.resolve_left nofun
      rw [Session.takeChain_of_complete hcomplete] at hended
      exact ⟨hrefused hcomplete, hended.host⟩

/-- A root with one leaf, and a chain that has been entered. -/
def family : Activity Scene Unit := do
  Scene.makeMember .app "p" "root"
  Scene.makeMember .app "q" "leaf"
  .modify fun s => match s.member? .app "p", s.member? .app "q" with
    | some p, some q => Scene.adoptMember .app p q s
    | _, _ => s
  Probe.entry ⟨.serialize, false⟩ (method "main(Vec<String>)") []

/-- The objects of the family, in the order of their births: each member comes after its
roster. -/
def familyRef (k : Nat) : ObjectRef :=
  ⟨k, k, if k % 2 = 0 then "Vec<demo.App>" else "demo.App"⟩

def root : Scene.Member := ⟨familyRef 1, "root", familyRef 0, none⟩

def leaf : Scene.Member := ⟨familyRef 3, "leaf", familyRef 2, some (familyRef 1)⟩

/-- The world of the family. -/
def familyWorld : World Scene :=
  (Scene.asHost.run 0 family (Program.start (.probe .serialize) [])).2

/-- The four objects of the family. -/
def InFamily (o : ObjectRef) : Prop :=
  ∃ k < 4, o = familyRef k

theorem apps_family : familyWorld.host.Apps InFamily := by
  rintro o ⟨k, hk, rfl⟩
  have hcases : k = 0 ∨ k = 1 ∨ k = 2 ∨ k = 3 := by omega
  rcases hcases with rfl | rfl | rfl | rfl
  · exact ⟨.roster [familyRef 3], rfl, fun p hp => ⟨3, by decide, List.mem_singleton.1 hp⟩⟩
  · exact ⟨.member .app "root" (familyRef 0) none, rfl, ⟨0, by decide, rfl⟩, nofun⟩
  · exact ⟨.roster [], rfl, nofun⟩
  · exact ⟨.member .app "leaf" (familyRef 2) (some (familyRef 1)), rfl, ⟨2, by decide, rfl⟩,
      fun p hp => ⟨1, by decide, (Option.some.inj hp).symm⟩⟩

/-- The chain of the root with its leaf: nine bytes twice, and one child. -/
theorem root_reports :
    let ran := Scene.asHost.run 0 (beginChain ⟨.serialize, false⟩ root leaf) familyWorld
    ran.1 = 19 ∧ ∃ frames, ran.2.host.kept = some (.matching frames) ∧
      frames.map (·.method.text) = ["demo.App.main(Vec<String>)", "demo.App.begin_chain(App)",
        "demo.App.mid_chain(i64)", "demo.App.end_chain(i64)"] := by
  have hreports := beginChain_reports .serialize (.probe .serialize) [] 0 0 family InFamily root leaf
  have hroot : familyWorld.host.HasApp InFamily root := ⟨⟨1, by decide, rfl⟩, rfl⟩
  have hleaf : familyWorld.host.HasApp InFamily leaf := ⟨⟨3, by decide, rfl⟩, rfl⟩
  have happs := apps_family
  have hlive : (familyWorld.session 0).complete = false := by decide +kernel
  have hin : (familyWorld.session 0).chain.inTarget = true := by decide +kernel
  have hbefore : (familyWorld.session 0).chain.frames.map (·.method.text) =
      ["demo.App.main(Vec<String>)"] := by decide +kernel
  have hnineteen : chainResult root leaf familyWorld.host = 19 := by decide +kernel
  -- the world is not to be computed again
  rw [← familyWorld] at hreports
  generalize familyWorld = w at *
  obtain ⟨hresult, -, hmatched, -⟩ := hreports happs hroot hleaf
  obtain ⟨f₁, f₂, f₃, hended, -, hmethods⟩ := (hmatched rfl hlive).1 hin
  refine ⟨hresult.trans hnineteen, _, hended.kept, ?_⟩
  rw [List.map_append, hbefore, hmethods]
  rfl

end Demo

end CallChain
