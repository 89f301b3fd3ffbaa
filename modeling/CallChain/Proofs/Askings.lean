/-
# How often an object is asked

In a pass an object is asked again only after it failed. Once it has given a shape it is
open, and wherever it occurs again it is referred to. An object that fails is not open, so
it is asked at each of its occurrences above the last level, until it gives a shape.

A pass with a log renders as the pass does and writes down whom it asked and what it was
answered (`Surroundings.logged`). What the objects ask for themselves when they are asked is
not in the log: those are passes of their own. That the log changes nothing follows from a
fact about any part of the surroundings that nothing depends on (`Surroundings.Forgets`).

Key definitions: `Surroundings.logged`, `Surroundings.Forgets`, `Pass.Logged`.
Key theorems: `Surroundings.Forgets.run`, `Pass.Renders.logged`, `Host.asked_again`.
-/
import CallChain.Proofs.Faithful
import CallChain.Proofs.Identity
import CallChain.Proofs.Refusals

namespace CallChain

variable {σ τ ι H : Type}

/-! ### A part of the surroundings that nothing depends on -/

/-- To forget a part of the surroundings leaves other surroundings, in which objects have the
same names and give the same answers. -/
structure Surroundings.Forgets (env : Surroundings τ ι) (env' : Surroundings σ ι) (forget : τ → σ) : Prop where
  tag : ∀ o s, env'.tag o (forget s) = ((env.tag o s).1, forget (env.tag o s).2)
  ask : ∀ held o s, env'.ask held o (forget s) = ((env.ask held o s).1, forget (env.ask held o s).2)

namespace Pass

/-- A pass with a part of its surroundings forgotten. -/
def forget (f : τ → σ) (p : Pass τ ι) : Pass σ ι :=
  ⟨f p.state, p.opened⟩

/-- What a pass has come to, with a part of the surroundings forgotten. -/
def forgetEnd {β : Type} (f : τ → σ) (done : β × Pass τ ι) : β × Pass σ ι :=
  (done.1, done.2.forget f)

variable {φ : τ → σ}

theorem forget_renderItems {f : Value → Pass τ ι → Rendered ι × Pass τ ι}
    {g : Value → Pass σ ι → Rendered ι × Pass σ ι} (hfg : ∀ v p, g v (p.forget φ) = forgetEnd φ (f v p)) :
    ∀ (vs : List Value) (p : Pass τ ι), renderItems g vs (p.forget φ) = forgetEnd φ (renderItems f vs p)
  | [], _ => rfl
  | v :: vs, p => by
    simp only [renderItems, hfg, forgetEnd, forget_renderItems hfg vs]

theorem forget_renderFields {f : List ObjectRef → Value → Pass τ ι → Rendered ι × Pass τ ι}
    {g : List ObjectRef → Value → Pass σ ι → Rendered ι × Pass σ ι}
    (hfg : ∀ held v p, g held v (p.forget φ) = forgetEnd φ (f held v p)) (held : List ObjectRef) :
    ∀ (fields : List (String × Value)) (p : Pass τ ι),
      renderFields g held fields (p.forget φ) = forgetEnd φ (renderFields f held fields p)
  | [], _ => rfl
  | (name, v) :: fields, p => by
    simp only [renderFields, hfg, forgetEnd, forget_renderFields hfg held fields]

theorem forget_renderBody {f : List ObjectRef → Value → Pass τ ι → Rendered ι × Pass τ ι}
    {g : List ObjectRef → Value → Pass σ ι → Rendered ι × Pass σ ι}
    (hfg : ∀ held v p, g held v (p.forget φ) = forgetEnd φ (f held v p)) (held : List ObjectRef)
    (shape : Shape Value) (p : Pass τ ι) :
    renderBody g held shape (p.forget φ) = forgetEnd φ (renderBody f held shape p) := by
  cases shape with
  | record fields => simp only [renderBody, forget_renderFields hfg, forgetEnd]
  | sequence items => simp only [renderBody, forget_renderItems (hfg _), forgetEnd]
  | mapping entries => simp only [renderBody, forget_renderFields hfg, forgetEnd]

variable {env : Surroundings τ ι} {env' : Surroundings σ ι}

theorem forget_meet [DecidableEq ι] (h : env.Forgets env' φ) {o : ObjectRef} {f : ι → Pass τ ι → Rendered ι × Pass τ ι}
    {g : ι → Pass σ ι → Rendered ι × Pass σ ι} (hfg : ∀ id p, g id (p.forget φ) = forgetEnd φ (f id p))
    (p : Pass τ ι) : meet env' o g (p.forget φ) = forgetEnd φ (meet env o f p) := by
  have hgo := hfg (env.tag o p.state).1 { p with state := (env.tag o p.state).2 }
  simp only [meet, forget, h.tag] at hgo ⊢
  split
  · rfl
  · exact hgo

theorem forget_expand (h : env.Forgets env' φ) {f : List ObjectRef → Value → Pass τ ι → Rendered ι × Pass τ ι}
    {g : List ObjectRef → Value → Pass σ ι → Rendered ι × Pass σ ι}
    (hfg : ∀ held v p, g held v (p.forget φ) = forgetEnd φ (f held v p)) (held : List ObjectRef) (o : ObjectRef)
    (id : ι) (p : Pass τ ι) : expand env' g held o id (p.forget φ) = forgetEnd φ (expand env f held o id p) := by
  simp only [expand, forget, h.ask]
  cases hanswer : (env.ask held o p.state).1 with
  | failed failure => rfl
  | panicked text => rfl
  | shape shape =>
    have hbody := forget_renderBody hfg held shape ⟨(env.ask held o p.state).2, id :: p.opened⟩
    simp only [forget] at hbody
    simp only [hbody, forgetEnd, forget]

/-- A value is rendered the same with a part of the surroundings forgotten. -/
theorem forget_render [DecidableEq ι] (h : env.Forgets env' φ) : ∀ (room : Nat) (held : List ObjectRef)
    (v : Value) (p : Pass τ ι), render env' room held v (p.forget φ) = forgetEnd φ (render env room held v p)
  | _, _, .scalar s, p => by simp only [render, forgetEnd]
  | 0, held, .object o, p => by
    simp only [render]
    exact forget_meet h (fun _ _ => rfl) p
  | room + 1, held, .object o, p => by
    simp only [render]
    exact forget_meet h (forget_expand h (forget_render h room) held o) p

end Pass

/-- **A pass does not depend on a part of its surroundings that can be forgotten.** -/
theorem Surroundings.Forgets.run [DecidableEq ι] {env : Surroundings τ ι} {env' : Surroundings σ ι} {forget : τ → σ}
    (h : env.Forgets env' forget) (held : List ObjectRef) (vs : List Value) (s : τ) :
    env'.run held vs (forget s) = ((env.run held vs s).1, forget (env.run held vs s).2) := by
  have hitems := Pass.forget_renderItems (Pass.forget_render h maxDepth (held ++ Value.objects vs)) vs ⟨s, []⟩
  exact congrArg (fun done : List (Rendered ι) × Pass σ ι => (done.1, done.2.state)) hitems

/-! ### A pass with a log -/

/-- Whom a pass has asked and what it was answered, latest first. -/
abbrev AskLog : Type := List (ObjectRef × Answer)

/-- Surroundings that log whom they ask. -/
def Surroundings.logged (env : Surroundings σ ι) : Surroundings (σ × AskLog) ι where
  tag o s := ((env.tag o s.1).1, (env.tag o s.1).2, s.2)
  ask held o s := ((env.ask held o s.1).1, (env.ask held o s.1).2, (o, (env.ask held o s.1).1) :: s.2)

theorem Surroundings.forgets_logged (env : Surroundings σ ι) : env.logged.Forgets env Prod.fst :=
  ⟨fun _ _ => rfl, fun _ _ _ => rfl⟩

theorem Surroundings.Keeps.logged {env : Surroundings σ ι} {Good : List ObjectRef → σ → Prop} (h : env.Keeps Good) :
    env.logged.Keeps fun held s => Good held s.1 :=
  ⟨h.fewer, h.tag, h.ask, h.shape⟩

/-- Whether an object is asked again only after it failed. -/
def AskLog.Patient (log : AskLog) : Prop :=
  log.Pairwise fun later earlier => later.1 = earlier.1 → ∃ f, earlier.2.failure? = some f

namespace Pass

/-- The objects that have given a shape are open by their names, and none of them was asked
again. -/
structure Logged (named : σ → ObjectRef → ι → Prop) (p : Pass (σ × AskLog) ι) : Prop where
  open_of_shape : ∀ {o : ObjectRef} {answer : Answer}, (o, answer) ∈ p.state.2 → answer.failure? = none →
    ∃ id ∈ p.opened, named p.state.1 o id
  patient : p.state.2.Patient

variable {env : Surroundings σ ι} {Good : List ObjectRef → σ → Prop} {named : σ → ObjectRef → ι → Prop}
  {answered : σ → ObjectRef → Answer → Prop}

/-- Names were given and more was opened, and nobody was asked. -/
theorem Logged.later {p : Pass (σ × AskLog) ι} {s : σ} {opened : List ι} (h : Logged named p)
    (hnamed : ∀ o id, named p.state.1 o id → named s o id) (hopened : ∀ id ∈ p.opened, id ∈ opened) :
    Logged named ⟨(s, p.state.2), opened⟩ := by
  refine ⟨fun ho hanswer => ?_, h.patient⟩
  obtain ⟨id, hid, hname⟩ := h.open_of_shape ho hanswer
  exact ⟨id, hopened id hid, hnamed _ _ hname⟩

/-- An object was asked whose name is not open, so it has only failed so far. -/
theorem Logged.asked {p : Pass (σ × AskLog) ι} (h : Logged named p) {o : ObjectRef} {id : ι} {answer : Answer}
    (hone : ∀ {i j : ι}, named p.state.1 o i → named p.state.1 o j → i = j) (hname : named p.state.1 o id)
    (hnew : id ∉ p.opened) {opened : List ι} (hopened : ∀ i ∈ p.opened, i ∈ opened)
    (hshape : answer.failure? = none → id ∈ opened) :
    Logged named ⟨(p.state.1, (o, answer) :: p.state.2), opened⟩ := by
  refine ⟨fun {q a} hq ha => ?_, List.pairwise_cons.2 ⟨fun earlier hearlier hsame => ?_, h.patient⟩⟩
  · rcases List.mem_cons.1 hq with heq | hq
    · cases heq
      exact ⟨id, hshape ha, hname⟩
    · obtain ⟨i, hi, hqi⟩ := h.open_of_shape hq ha
      exact ⟨i, hopened i hi, hqi⟩
  · cases hfailure : earlier.2.failure? with
    | some f => exact ⟨f, rfl⟩
    | none =>
      obtain ⟨i, hi, hearly⟩ := h.open_of_shape (o := earlier.1) hearlier hfailure
      rw [← hsame] at hearly
      exact absurd (hone hearly hname ▸ hi) hnew

/-- **A pass asks an object again only after it failed**, where names are kept and an object
has one name. -/
theorem Renders.logged (hk : env.Keeps Good) (hr : env.Reports Good named answered)
    (hone : ∀ {held : List ObjectRef} {s : σ} {o : ObjectRef} {i j : ι}, Good held s → named s o i →
      named s o j → i = j) {room : Nat} {vs : List Value} {p q : Pass (σ × AskLog) ι} {rs : List (Rendered ι)}
    (h : Renders env.logged (fun held s => Good held s.1) room vs p rs q) :
    Logged named p → Logged named q := by
  -- an object that is met has its name from the tag to the answer
  have hmet : ∀ {held : List ObjectRef} {o : ObjectRef} {s : σ}, o ∈ held → Good held s →
      let t := (env.tag o s).2
      let u := (env.ask held o t).2
      Good held u ∧ named u o (env.tag o s).1 ∧ (∀ p i, named s p i → named t p i) ∧
        ∀ p i, named t p i → named u p i := by
    intro held o s mem good t u
    obtain ⟨hname, htagged, -⟩ := hr.tag mem good rfl
    obtain ⟨-, hasked, -⟩ := hr.ask mem (hk.tag mem good) rfl
    exact ⟨hk.ask mem (hk.tag mem good), hasked _ _ hname, htagged, hasked⟩
  induction h with
  | nil => exact id
  | scalar _ ih => exact ih
  | reference good mem tag old _ ih =>
    intro hp
    cases tag
    exact ih (hp.later (hr.tag mem good rfl).2.1 fun _ => id)
  | tooDeep good mem tag new _ ih =>
    intro hp
    cases tag
    exact ih (hp.later (hr.tag mem good rfl).2.1 fun _ => id)
  | failed good mem tag new ask failure _ ih =>
    intro hp
    cases tag
    cases ask
    obtain ⟨hgood, hname, htagged, hasked⟩ := hmet mem good
    have hlater := hp.later (fun o i hi => hasked o i (htagged o i hi)) fun _ => id
    refine ih (hlater.asked (hone hgood) hname new (fun _ => id) fun hshape => ?_)
    rw [hshape] at failure
    cases failure
  | object good mem tag new ask outline _ _ ihinside ihrest =>
    intro hp
    cases tag
    obtain ⟨hanswer, hstate⟩ := Prod.mk.inj ask
    cases hstate
    obtain ⟨hgood, hname, htagged, hasked⟩ := hmet mem good
    have hlater := hp.later (fun o i hi => hasked o i (htagged o i hi)) fun _ => id
    refine ihrest (ihinside ?_)
    exact hlater.asked (hone hgood) hname new (fun _ => List.mem_cons_of_mem _) fun _ => List.mem_cons_self

end Pass

/-- An object that never failed was asked at most once. -/
theorem AskLog.Patient.count_le_one {o : ObjectRef} : ∀ {log : AskLog}, log.Patient →
    (∀ answer, (o, answer) ∈ log → answer.failure? = none) → (log.map Prod.fst).count o ≤ 1
  | [], _, _ => Nat.zero_le 1
  | last :: log, h, ho => by
    obtain ⟨hlast, hlog⟩ := List.pairwise_cons.1 h
    have hcount := count_le_one (o := o) hlog fun answer hmem => ho answer (List.mem_cons_of_mem _ hmem)
    rw [List.map_cons, List.count_cons]
    by_cases hsame : last.1 = o
    · have hnone : o ∉ log.map Prod.fst := by
        intro hmem
        obtain ⟨earlier, hearlier, rfl⟩ := List.mem_map.1 hmem
        obtain ⟨f, hf⟩ := hlast earlier hearlier hsame
        rw [ho earlier.2 (List.mem_cons_of_mem _ hearlier)] at hf
        cases hf
      rw [List.count_eq_zero.2 hnone]
      split <;> omega
    · rw [if_neg (by simpa using hsame)]
      exact hcount

/-! ### The log and the journal -/

/-- Host code that makes no requests leaves the registries alone and does nothing that is noted. -/
theorem Host.act_of_makes_none (D : Host H) (ask : Asking H) (held : List ObjectRef) {α : Type} :
    ∀ (a : Activity H α) {w : World H}, a.Makes (fun _ => False) →
      (D.act ask held a w).2.registries = w.registries ∧ (D.act ask held a w).2.journal = w.journal
  | .done _, _, _ => ⟨rfl, rfl⟩
  | .host change next, w, h =>
    D.act_of_makes_none ask held (next (change w.host)) (w := { w with host := change w.host }) (h _)
  | .create typeName place store next, w, h =>
    D.act_of_makes_none ask held (next ((w.sweep D.keeps held).create typeName place store).1)
      (w := ((w.sweep D.keeps held).create typeName place store).2) (h _)
  | .call _ _, _, h => h.1.elim

/-- The objects of a host make no requests when they are asked. -/
def Host.Plain (D : Host H) : Prop :=
  ∀ held o, (D.describe held o).Makes fun _ => False

theorem World.asks_note_asked (w : World H) (o p : ObjectRef) :
    (w.note (.asked o)).asks p = w.asks p + if o = p then 1 else 0 := by
  simp [asks, note, List.countP_cons]

theorem World.asks_note {w : World H} {e : Event} (he : ∀ o, e ≠ .asked o) (p : ObjectRef) :
    (w.note e).asks p = w.asks p := by
  cases e with
  | asked o => exact absurd rfl (he o)
  | _ => exact List.countP_cons_of_neg (by simp)

theorem World.asks_tag (w : World H) (n : Nat) (o p : ObjectRef) : (w.tag n o).2.asks p = w.asks p :=
  World.asks_note (w := w.setRegistry n ((w.registry n).idOf o).2) (e := .tagged n o ((w.registry n).idOf o).1) nofun p

/-- To ask an object that makes no requests is noted once. -/
theorem Host.Plain.asks_ask {D : Host H} (h : D.Plain) (level : Nat) (held : List ObjectRef) (o : ObjectRef)
    (w : World H) (p : ObjectRef) : (D.ask level held o w).2.asks p = w.asks p + if o = p then 1 else 0 := by
  rw [← World.asks_note_asked]
  cases level with
  | zero => exact World.asks_note (e := .answered o (.panicked none)) nofun p
  | succ level =>
    have hjournal :=
      (D.act_of_makes_none (D.ask level) held (D.describe held o) (w := w.note (.asked o)) (h held o)).2
    refine (World.asks_note (e := .answered o _) nofun p).trans ?_
    rw [World.asks, World.asks, hjournal]

/-- Since `w` the journal shows those askings that are in the log. -/
def World.Shows (w v : World H) (log : AskLog) : Prop :=
  ∀ o, v.asks o = w.asks o + (log.map Prod.fst).count o

/-- As long as objects make no requests, the journal shows the askings of the log. -/
theorem Host.Plain.keeps {D : Host H} (h : D.Plain) (level n : Nat) (w : World H) :
    (World.surroundings (D.ask level) n).logged.Keeps fun _ s => w.Shows s.1 s.2 := by
  have hask : ∀ (held : List ObjectRef) (o : ObjectRef) (v : World H) (log : AskLog), w.Shows v log →
      w.Shows (D.ask level held o v).2 ((o, (D.ask level held o v).1) :: log) := by
    intro held o v log hv p
    rw [h.asks_ask, hv p, List.map_cons, List.count_cons, Nat.add_assoc]
    simp
  exact {
    fewer := fun _ hs => hs
    tag := fun {_ o s} _ hs p => (World.asks_tag s.1 n o p).trans (hs p)
    ask := fun _ hs => hask _ _ _ _ hs
    shape := fun _ hs _ => hask _ _ _ _ hs }

/-! ### Captures -/

/-- **In a pass an object is asked again only after it failed.** A capture renders as a pass
with a log does. In the log an object occurs again only after it failed, so that one which
never fails is asked at most once, and one which gave a shape is not asked again. Where the
objects make no requests, the askings in the log are all that the journal shows. -/
theorem Host.asked_again (D : Host H) (level s n : Nat) (w : World H) (held : List ObjectRef) (vs : List Value)
    (haccounts : w.Accounts) (hheld : ∀ o ∈ held, o ∈ w.known) (hs : w.registryOf? s = some n) :
    let pass := (World.surroundings (D.ask level) n).logged.run held (vs.map w.grasp) (w, [])
    let log := pass.2.2
    w.capture (D.ask level) held s vs = (pass.1, pass.2.1.note (.rendered n (vs.map w.grasp) pass.1)) ∧
      log.Patient ∧
      (∀ o, (∀ answer, (o, answer) ∈ log → answer.failure? = none) → (log.map Prod.fst).count o ≤ 1) ∧
      (D.Plain → ∀ o, (w.capture (D.ask level) held s vs).2.asks o = w.asks o + (log.map Prod.fst).count o) := by
  intro pass log
  have hforget := (World.surroundings (D.ask level) n).forgets_logged.run held (vs.map w.grasp) (w, ([] : AskLog))
  have hcapture : w.capture (D.ask level) held s vs =
      (pass.1, pass.2.1.note (.rendered n (vs.map w.grasp) pass.1)) := by
    rw [World.capture_of_registry hs, hforget]
  have hrule := D.accounts_moves.rule
  have hkeeps := hrule.keeps (hrule.ask level) hs
  have hgrasp := hrule.grasp vs ⟨haccounts, hheld⟩
  have hreports : (World.surroundings (D.ask level) n).Reports
      (fun held v => (v.Accounts ∧ ∀ o ∈ held, o ∈ v.known) ∧ w.Grows v) (fun v => v.Tagged n) World.Answered :=
    ⟨fun mem _ => (D.reports level n).tag mem trivial, fun mem _ => (D.reports level n).ask mem trivial⟩
  have hrenders := (Pass.renders_renderAll hkeeps.logged held (vs.map w.grasp) ⟨(w, []), []⟩ ⟨hgrasp, .refl w⟩).1
  have hlogged := hrenders.logged hkeeps hreports (fun hgood ho hp => (hgood.1.1.faithful ho hp).2 rfl)
    ⟨nofun, .nil⟩
  have hpatient : log.Patient := hlogged.patient
  refine ⟨hcapture, hpatient, fun o ho => hpatient.count_le_one ho, fun hplain o => ?_⟩
  have hshows := (Pass.renders_renderAll (hplain.keeps level n w) held (vs.map w.grasp) ⟨(w, []), []⟩
    fun _ => rfl).2
  rw [hcapture]
  exact (World.asks_note (e := .rendered _ _ _) nofun o).trans (hshows o)

/-- The cells are asked once each, wherever they occur. -/
theorem cells_asked :
    let vs : List Value := [.object (cell 0), .object (cell 1), .object (cell 0)]
    let pass := (World.surroundings (cellsHost.ask 1) 0).logged.run [] (vs.map cellsWorld.grasp) (cellsWorld, [])
    pass.2.2.Patient ∧ pass.2.2.map Prod.fst = [cell 1, cell 0] ∧
      (cellsWorld.capture (cellsHost.ask 1) [] 0 vs).2.asks (cell 0) = 1 := by
  obtain ⟨-, hpatient, -, -⟩ := Host.asked_again cellsHost 1 0 0 cellsWorld []
    [.object (cell 0), .object (cell 1), .object (cell 0)] accounts_cellsWorld nofun rfl
  exact ⟨hpatient, by decide +kernel, by decide +kernel⟩

/-- An object that cannot be read. -/
def broken : ObjectRef := ⟨0, 0, "Broken"⟩

/-- A host with that object, which has nothing to remember. -/
def brokenHost : Host Unit where
  describe _ _ := .done (.failed ⟨"access", "denied"⟩)
  keeps _ _ := []

/-- The object occurs twice in one pass, and is asked twice. -/
theorem broken_asked :
    let w := ((World.start () none).create "Broken" 0 fun _ h => h).2
    (w.capture (brokenHost.ask 1) [] 0 [.object broken, .object broken]).2.asks broken = w.asks broken + 2 := by
  decide +kernel

end CallChain
