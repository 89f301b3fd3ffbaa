/-
# What a run preserves

Host code calls the machinery, which asks objects, which run host code. A statement
about all runs is proved once for each step that the world can take; `Host.Rule`
lists the steps and `Host.Rule.run` carries the statement through every nesting of
calls. The statement may speak of the handles that are held at the time, because a
purge forgets the objects that are neither held nor kept by the host.

`Host.Moves` is the rule for statements that do not care which request changed a
session: there every request comes down to a few moves of the world.

Key definitions: `Host.Steps`, `Host.Rule`, `Host.Moves`.
Key theorems: `Host.Rule.ask`, `Host.Rule.run`, `Host.Moves.rule`, `Host.grows_ask`.
-/
import CallChain.Proofs.Growth
import CallChain.Proofs.PassRules

namespace CallChain

variable {H α : Type}

/-! ### The rules -/

/-- `Good` is preserved by what host code does itself and by what a pass does while
handles are held. -/
structure Host.Steps (D : Host H) (Good : List ObjectRef → World H → Prop) : Prop where
  fewer : ∀ {held fewer : List ObjectRef} {w : World H}, (∀ o ∈ fewer, o ∈ held) → Good held w → Good fewer w
  grasp : ∀ {held : List ObjectRef} {w : World H} (vs : List Value), Good held w →
    Good (held ++ Value.objects (vs.map w.grasp)) w
  host : ∀ {held : List ObjectRef} {w : World H} (h : H), Good held w → Good held { w with host := h }
  /-- the dead are found before a birth -/
  swept : ∀ {held : List ObjectRef} {w : World H}, Good held w → Good held (w.sweep D.keeps held)
  create : ∀ {held : List ObjectRef} {w : World H} (typeName : String) (place : Nat)
    (store : ObjectRef → H → H), Good held w → Good held (w.create typeName place store).2
  asked : ∀ {held : List ObjectRef} {w : World H} (o : ObjectRef), Good held w →
    Good held (w.note (.asked o))
  answered : ∀ {held : List ObjectRef} {w : World H} (o : ObjectRef) (answer : Answer), Good held w →
    Good held (w.note (.answered o answer))
  tag : ∀ {held : List ObjectRef} {w : World H} {s n : Nat} {o : ObjectRef}, w.registryOf? s = some n →
    o ∈ held → Good held w → Good held (w.tag n o).2
  /-- a pass over some values went from `w` to `v` -/
  rendered : ∀ {held : List ObjectRef} {w v : World H} {s n level : Nat} {vs : List Value}
    {rs : List (Rendered Nat)}, w.registryOf? s = some n → Good (held ++ Value.objects vs) w →
    (World.surroundings (D.ask level) n).run held vs w = (rs, v) → Good held v →
    Good held (v.note (.rendered n vs rs))

/-- `Good` is also preserved by the end of every request. -/
structure Host.Rule (D : Host H) (Good : List ObjectRef → World H → Prop) : Prop
    extends Host.Steps D Good where
  refused : ∀ {held : List ObjectRef} {w : World H} {r : Request} {reply : r.Reply},
    r.refusal? w.toMoment = some reply → Good held w → Good held (World.conclude r (reply, w))
  /-- the pass over the values of a frame has just ended; the request began in `u` -/
  recorded : ∀ {held : List ObjectRef} {u w : World H} {r : Request} {done : r.Reply × World H} {s n : Nat}
    {vs : List Value} {rs : List (Rendered Nat)}, World.Began r u w → Good held u → r.session? = some s →
    w.registryOf? s = some n → w.journal.head? = some (.rendered n vs rs) → w.record rs r = some done →
    Good held w → Good held (World.conclude r done)
  shown : ∀ {held : List ObjectRef} {w : World H} {r : Request} (reply : r.Reply), r.isShow = true →
    Good held w → Good held (World.conclude r (reply, w))
  silent : ∀ {held : List ObjectRef} {w : World H} {ask : Asking H} {r : Request}, r.isSilent = true →
    Good held w → Good held (World.conclude r (w.perform D.keeps ask held r))

/-- What the reply to a request says of identities is what the world knows of them. -/
def World.Vouches (w : World H) : (r : Request) → r.Reply → Prop
  | .identify s v, id =>
    match w.registryOf? s, (w.grasp v).object? with
    | some n, some o => w.journal.head? = some (.tagged n o id)
    | _, _ => id = nullIdentity
  | .lookup s v, id =>
    match w.registryOf? s, (w.grasp v).object? with
    | some n, some o => id = (w.registry n).get? o
    | _, _ => id = none
  | _, _ => True

theorem World.vouches_tag {w : World H} {s n : Nat} {v : Value} {o : ObjectRef}
    (hn : w.registryOf? s = some n) (ho : (w.grasp v).object? = some o) :
    (w.tag n o).2.Vouches (.identify s v) (w.tag n o).1 := by
  have hn' : (w.tag n o).2.registryOf? s = some n := hn
  have ho' : ((w.tag n o).2.grasp v).object? = some o := ho
  simp only [Vouches, hn', ho']
  rfl

/-- `Good` is also preserved by every move that a request can consist of. -/
structure Host.Moves (D : Host H) (Good : List ObjectRef → World H → Prop) : Prop
    extends Host.Steps D Good where
  captured : ∀ {held : List ObjectRef} {w : World H} {s n : Nat} {vs : List Value} {f : Frame},
    w.registryOf? s = some n → w.journal.head? = some (.rendered n vs f.values) → Good held w →
    Good held (w.note (.captured s f))
  /-- a session was changed, but not its registry -/
  setSession : ∀ {held : List ObjectRef} {w : World H} {s : Nat} {t : Session},
    t.registry = (w.session s).registry → Good held w → Good held (w.setSession s t)
  openSession : ∀ {held : List ObjectRef} {w : World H} (share : Option Nat), Good held w →
    Good held (w.openSession share).2
  purge : ∀ {held : List ObjectRef} {w : World H} (n : Nat), Good held w →
    Good held (w.purge D.keeps held n).2
  returned : ∀ {held : List ObjectRef} {w : World H} {r : Request} {reply : r.Reply},
    w.Vouches r reply → Good held w → Good held (World.conclude r (reply, w))

namespace Host.Rule

variable {D : Host H} {Good : List ObjectRef → World H → Prop}

/-- To ask an object that is held keeps the world good, and the children that it shows
may be held from then on. -/
def Asks (D : Host H) (Good : List ObjectRef → World H → Prop) (level : Nat) : Prop :=
  ∀ {held : List ObjectRef} {o : ObjectRef} {w : World H}, Good held w →
    Good held (D.ask level held o w).2 ∧ w.Grows (D.ask level held o w).2 ∧
      ∀ {shape : Shape Value}, (D.ask level held o w).1 = .shape shape →
        Good (held ++ Value.objects shape.children) (D.ask level held o w).2

/-- The surroundings of a pass that starts in `w` stay good and only grow. -/
theorem keeps (rule : D.Rule Good) {level : Nat} (asks : Asks D Good level) {w : World H} {s n : Nat}
    (hs : w.registryOf? s = some n) :
    (World.surroundings (D.ask level) n).Keeps fun held v => Good held v ∧ w.Grows v where
  fewer hfewer h := ⟨rule.fewer hfewer h.1, h.2⟩
  tag mem h := ⟨rule.tag (h.2.registryOf hs) mem h.1, h.2.trans (.tag _ _ _)⟩
  ask _ h := ⟨(asks h.1).1, h.2.trans (asks h.1).2.1⟩
  shape _ h hshape := ⟨(asks h.1).2.2 hshape, h.2.trans (asks h.1).2.1⟩

/-- A pass, and the note on it. -/
theorem capture (rule : D.Rule Good) {level : Nat} (asks : Asks D Good level) {held : List ObjectRef}
    {w : World H} {s : Nat} (vs : List Value) (h : Good held w) :
    Good held (w.capture (D.ask level) held s vs).2 ∧ w.Grows (w.capture (D.ask level) held s vs).2 ∧
      ∀ {n : Nat}, w.registryOf? s = some n → ∃ ws,
        (w.capture (D.ask level) held s vs).2.journal.head? =
          some (.rendered n ws (w.capture (D.ask level) held s vs).1) := by
  unfold World.capture
  split
  · rename_i n hn
    have hgrasp := rule.grasp vs h
    obtain ⟨hgood, hgrows⟩ := (Pass.renders_renderAll (rule.keeps asks hn)
      held (vs.map w.grasp) ⟨w, []⟩ ⟨hgrasp, .refl w⟩).2
    have hend := rule.fewer (fun o ho => List.mem_append_left _ ho) hgood
    refine ⟨rule.rendered hn hgrasp rfl hend, hgrows.trans (.note _ _), fun {m} hm => ?_⟩
    obtain rfl : n = m := Option.some.inj (hn.symm.trans hm)
    exact ⟨_, rfl⟩
  · rename_i hn
    exact ⟨h, .refl w, fun hm => by rw [hn] at hm; cases hm⟩

theorem captureEach (rule : D.Rule Good) {level : Nat} (asks : Asks D Good level) {held : List ObjectRef}
    {s : Nat} : ∀ (vs : List Value) {w : World H}, Good held w →
      Good held (World.captureEach (D.ask level) held s vs w).2 ∧
        w.Grows (World.captureEach (D.ask level) held s vs w).2
  | [], w, h => ⟨h, .refl w⟩
  | v :: vs, w, h => by
    obtain ⟨hv, hgrows, -⟩ := rule.capture asks (s := s) [v] h
    obtain ⟨hvs, hgrows'⟩ := rule.captureEach asks (s := s) vs hv
    exact ⟨hvs, hgrows.trans hgrows'⟩

theorem serve (rule : D.Rule Good) {level : Nat} (asks : Asks D Good level) {held : List ObjectRef}
    {w : World H} (r : Request) (h : Good held w) :
    Good held (World.serve D.keeps (D.ask level) held r w).2 ∧
      w.Grows (World.serve D.keeps (D.ask level) held r w).2 := by
  have hconclude : ∀ done : r.Reply × World H, done.2.Grows (World.conclude r done) :=
    fun done => .note _ _
  cases hsilent : r.isSilent with
  | true => exact ⟨rule.silent hsilent h, (World.Grows.silent hsilent).trans (hconclude _)⟩
  | false =>
    cases hshow : r.isShow with
    | true =>
      cases r with
      | render s vs =>
        obtain ⟨hgood, hgrows, -⟩ := rule.capture asks (s := s) vs h
        exact ⟨rule.shown _ rfl hgood, hgrows.trans (hconclude _)⟩
      | renderEach s vs =>
        obtain ⟨hgood, hgrows⟩ := rule.captureEach asks (s := s) (vs.map w.grasp) (rule.grasp vs h)
        refine ⟨?_, hgrows.trans (hconclude _)⟩
        exact rule.fewer (fun o ho => List.mem_append_left _ ho) (rule.shown _ rfl hgood)
      | _ => cases hshow
    | false =>
      rcases World.perform_framed w D.keeps (D.ask level) held hsilent hshow with
        ⟨reply, hrefusal, hdone⟩ | ⟨s, vs, hs, hlive, hadmitted, hdone⟩
      · unfold World.serve
        rw [hdone]
        exact ⟨rule.refused hrefusal h, hconclude (reply, w)⟩
      · obtain ⟨n, hn⟩ := World.registryOf?_of_live hlive
        obtain ⟨hgood, hgrows, hhead⟩ := rule.capture asks (s := s) vs h
        obtain ⟨ws, hhead⟩ := hhead hn
        exact ⟨rule.recorded ⟨hadmitted, hgrows⟩ h hs (hgrows.registryOf hn) hhead hdone hgood,
          (hgrows.trans (.record hdone)).trans (hconclude _)⟩

theorem activity (rule : D.Rule Good) {level : Nat} (asks : Asks D Good level) {held : List ObjectRef} :
    ∀ (a : Activity H α) {w : World H}, Good held w →
      Good held (D.act (D.ask level) held a w).2 ∧ w.Grows (D.act (D.ask level) held a w).2
  | .done result, w, h => ⟨h, .refl w⟩
  | .host change next, w, h => by
    obtain ⟨hgood, hgrows⟩ := rule.activity asks (next (change w.host)) (rule.host (change w.host) h)
    exact ⟨hgood, (World.Grows.host w _).trans hgrows⟩
  | .create typeName place store next, w, h => by
    obtain ⟨hgood, hgrows⟩ := rule.activity asks
      (next ((w.sweep D.keeps held).create typeName place store).1)
      (rule.create typeName place store (rule.swept h))
    exact ⟨hgood, ((World.Grows.sweep w _ _).trans (World.Grows.create _ _ _ _)).trans hgrows⟩
  | .call request next, w, h => by
    obtain ⟨hserved, hserves⟩ := rule.serve asks request h
    obtain ⟨hgood, hgrows⟩ := rule.activity asks
      (next (World.serve D.keeps (D.ask level) held request w).1) hserved
    exact ⟨hgood, hserves.trans hgrows⟩

/-- An answer as it is received. -/
theorem receive (rule : D.Rule Good) {held : List ObjectRef} {w : World H} (o : ObjectRef) (answer : Answer)
    (h : Good held w) :
    Good held (w.receive o answer).2 ∧ w.Grows (w.receive o answer).2 ∧
      ∀ {shape : Shape Value}, (w.receive o answer).1 = .shape shape →
        Good (held ++ Value.objects shape.children) (w.receive o answer).2 := by
  have hgood := rule.answered o (w.graspAnswer answer) h
  refine ⟨hgood, .note _ _, fun {shape} hshape => ?_⟩
  cases answer with
  | shape s =>
    obtain rfl : s.map w.grasp = shape := Answer.shape.inj hshape
    rw [Shape.children_map]
    exact rule.grasp s.children hgood
  | failed f => cases hshape
  | panicked text => cases hshape

/-- What every step preserves is preserved by asking an object, however deep the calls
go that it makes. -/
theorem ask (rule : D.Rule Good) : ∀ level : Nat, Asks D Good level
  | 0, held, o, w, h => by
    obtain ⟨hgood, hgrows, hshape⟩ := rule.receive o (.panicked none) (rule.asked o h)
    exact ⟨hgood, (World.Grows.note w _).trans hgrows, hshape⟩
  | level + 1, held, o, w, h => by
    obtain ⟨hrun, hruns⟩ := rule.activity (rule.ask level) (D.describe held o) (rule.asked o h)
    obtain ⟨hgood, hgrows, hshape⟩ := rule.receive o
      (D.act (D.ask level) held (D.describe held o) (w.note (.asked o))).1 hrun
    exact ⟨hgood, ((World.Grows.note w _).trans hruns).trans hgrows, hshape⟩

/-- **What every step preserves is preserved by a run.** -/
theorem run (rule : D.Rule Good) {level : Nat} {a : Activity H α} {w : World H} (h : Good [] w) :
    Good [] (D.run level a w).2 :=
  (rule.activity (rule.ask level) a h).1

end Host.Rule

/-! ### Requests come down to moves -/

namespace Host.Moves

variable {D : Host H} {Good : List ObjectRef → World H → Prop}

theorem updateLive (moves : D.Moves Good) {β : Type} {step : Session → Except Fault (β × Session)}
    (hstep : Session.Settled step) {held : List ObjectRef} {w : World H} (s : Nat) (h : Good held w) :
    Good held (w.updateLive s step).2 := by
  unfold World.updateLive World.update
  split
  · exact h
  · split
    · exact h
    · rename_i stepped hstepped
      exact moves.setSession (hstep hstepped) h

theorem recorded (moves : D.Moves Good) {held : List ObjectRef} {w : World H} {r : Request}
    {done : r.Reply × World H} {s n : Nat} {vs : List Value} {rs : List (Rendered Nat)}
    (hs : r.session? = some s) (hn : w.registryOf? s = some n)
    (hhead : w.journal.head? = some (.rendered n vs rs)) (hdone : w.record rs r = some done)
    (h : Good held w) : Good held (World.conclude r done) := by
  have hcaptured := fun m => moves.captured (f := ⟨m, rs⟩) hn hhead h
  cases r with
  | enterEntry s' m vs =>
    cases hs
    cases hdone
    exact moves.returned trivial (moves.updateLive (Session.settled_enterEntry _) s (hcaptured m))
  | enterCandidate s' m vs =>
    cases hs
    cases hdone
    exact moves.returned trivial (moves.updateLive (Session.settled_enterCandidate _) s (hcaptured m))
  | matchChain s' m vs =>
    cases hs
    cases hdone
    exact moves.returned trivial (moves.updateLive (Session.settled_matchChain _) s (hcaptured m))
  | _ => cases hdone

theorem silent (moves : D.Moves Good) {held : List ObjectRef} {w : World H} {ask : Asking H} {r : Request}
    (hr : r.isSilent = true) (h : Good held w) :
    Good held (World.conclude r (w.perform D.keeps ask held r)) := by
  cases r with
  | exitEntry s =>
    have hleft := moves.updateLive Session.settled_exitEntry s h
    simp only [World.perform]
    split
    · exact moves.returned trivial hleft
    · exact moves.returned trivial (moves.purge _ hleft)
  | exitCandidate s => exact moves.returned trivial (moves.updateLive Session.settled_exitCandidate s h)
  | discover s offered =>
    exact moves.returned trivial (moves.updateLive (Session.settled_discover offered) s h)
  | identify s v =>
    simp only [World.perform]
    split
    · rename_i n o hn ho
      -- the object is held while it is named
      have hgrasp := moves.grasp [v] h
      have hmem : o ∈ held ++ Value.objects ([v].map w.grasp) :=
        List.mem_append_right _ (by simp [Value.objects, ho])
      have htag := moves.fewer (fun p hp => List.mem_append_left _ hp) (moves.tag hn hmem hgrasp)
      exact moves.returned (World.vouches_tag hn ho) htag
    · rename_i hnone
      refine moves.returned ?_ h
      simp only [World.Vouches]
  | lookup s v =>
    simp only [World.perform]
    split
    · rename_i n o hn ho
      refine moves.returned ?_ h
      simp only [World.Vouches, hn, ho]
    · rename_i hnone
      refine moves.returned ?_ h
      simp only [World.Vouches]
  | purge s =>
    simp only [World.perform]
    split
    · exact moves.returned trivial (moves.purge _ h)
    · exact moves.returned trivial h
  | openSession share => exact moves.returned trivial (moves.openSession share h)
  | look s => exact moves.returned trivial h
  | frames s => exact moves.returned trivial h
  | sent s => exact moves.returned trivial h
  | _ => cases hr

/-- **What every move preserves is preserved by every step.** -/
theorem rule (moves : D.Moves Good) : D.Rule Good where
  toSteps := moves.toSteps
  refused {held w r reply} hreply h := by
    cases r with
    | enterEntry s m vs => exact moves.returned trivial h
    | enterCandidate s m vs => exact moves.returned trivial h
    | matchChain s m vs => exact moves.returned trivial h
    | _ => cases hreply
  recorded _ _ hs hn hhead hdone h := moves.recorded hs hn hhead hdone h
  shown {held w r} reply hr h := by
    cases r with
    | render s vs => exact moves.returned trivial h
    | renderEach s vs => exact moves.returned trivial h
    | _ => cases hr
  silent hr h := moves.silent hr h

end Host.Moves

/-! ### Growth

Nothing is ever lost, so it takes no statement to be preserved. -/

theorem Host.moves_any (D : Host H) : D.Moves fun _ _ => True where
  fewer _ _ := trivial
  grasp _ _ := trivial
  host _ _ := trivial
  swept _ := trivial
  create _ _ _ _ := trivial
  asked _ _ := trivial
  answered _ _ _ := trivial
  tag _ _ _ := trivial
  rendered _ _ _ _ := trivial
  captured _ _ _ := trivial
  setSession _ _ := trivial
  openSession _ _ := trivial
  purge _ _ := trivial
  returned _ _ := trivial

theorem Host.grows_ask (D : Host H) (level : Nat) (held : List ObjectRef) (o : ObjectRef) (w : World H) :
    w.Grows (D.ask level held o w).2 :=
  (D.moves_any.rule.ask level trivial).2.1

theorem Host.grows_capture (D : Host H) (level : Nat) (held : List ObjectRef) (s : Nat) (vs : List Value)
    (w : World H) : w.Grows (w.capture (D.ask level) held s vs).2 :=
  (D.moves_any.rule.capture (D.moves_any.rule.ask level) vs trivial).2.1

theorem Host.grows_act (D : Host H) (level : Nat) (held : List ObjectRef) (a : Activity H α) (w : World H) :
    w.Grows (D.act (D.ask level) held a w).2 :=
  (D.moves_any.rule.activity (D.moves_any.rule.ask level) a trivial).2

end CallChain
