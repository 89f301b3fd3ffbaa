/-
# Passes by the names they give

What a pass renders depends on a registry only through the names that it gives to objects.
Over a graph that stands still two passes render the same values alike, whatever the
registries and whatever else is in the worlds: one output becomes the other when each
identity is replaced by the one that the other registry has for the same object.

The argument goes by a picture. A pass that is made again where the graph is depicted
already keeps step with the picture: what it names belongs together with the names in the
picture, and so it has opened an object exactly if the picture has (`Pass.Renders.replays`).
Over the registry of the picture itself the names are there already, and nothing is added.

Key definitions: `Surroundings.Replays`, `Graph.Pairs`.
Key theorems: `Pass.Renders.replays`, `Host.Still.replays`, `Host.Still.recalls`,
`Host.passes_by_name`.
-/
import CallChain.Proofs.Faithful
import CallChain.Proofs.Lockstep

namespace CallChain

open Rendered

variable {σ ι κ H H' α : Type}

/-! ### What an object fits -/

namespace Rendered.Fits

variable {named : ObjectRef → ι → Prop} {answered : ObjectRef → Answer → Prop} {level : Nat}
  {seen : List ι} {o : ObjectRef} {r : Rendered ι} {kids : List Value}

theorem exists_name (h : Fits named answered level seen (.object o) r kids) : ∃ id, named o id := by
  cases h with
  | reference name _ => exact ⟨_, name⟩
  | tooDeep _ name _ => exact ⟨_, name⟩
  | failed _ name _ _ _ => exact ⟨_, name⟩
  | object _ name _ _ _ => exact ⟨_, name⟩

/-- An object whose names have been seen is referred to. -/
theorem eq_reference (h : Fits named answered level seen (.object o) r kids)
    (hold : ∀ id, named o id → id ∈ seen) : kids = [] ∧ ∃ id, named o id ∧ r = .reference id := by
  cases h with
  | reference name _ => exact ⟨rfl, _, name, rfl⟩
  | tooDeep _ name new => exact absurd (hold _ name) new
  | failed _ name new _ _ => exact absurd (hold _ name) new
  | object _ name new _ _ => exact absurd (hold _ name) new

/-- At the last level a new object is nested too deeply. -/
theorem eq_tooDeep (h : Fits named answered level seen (.object o) r kids)
    (hnew : ∀ id, named o id → id ∉ seen) (hdeep : level = maxDepth) :
    kids = [] ∧ r = .failed (CallChain.tooDeep o) := by
  cases h with
  | reference name old => exact absurd old (hnew _ name)
  | tooDeep _ _ _ => exact ⟨rfl, rfl⟩
  | failed shallow _ _ _ _ => omega
  | object shallow _ _ _ _ => omega

/-- Above the last level a new object that gives no shape has failed. -/
theorem eq_failed (h : Fits named answered level seen (.object o) r kids)
    (hnew : ∀ id, named o id → id ∉ seen) (hshallow : level < maxDepth) {f : Failure}
    (hfailure : ∀ answer, answered o answer → answer.failure? = some f) :
    kids = [] ∧ r = .failed f := by
  cases h with
  | reference name old => exact absurd old (hnew _ name)
  | tooDeep deep _ _ => omega
  | failed _ _ _ reply failure =>
    obtain rfl : _ = f := Option.some.inj (failure.symm.trans (hfailure _ reply))
    exact ⟨rfl, rfl⟩
  | object _ _ _ reply _ => cases hfailure _ reply

/-- Above the last level a new object that gives a shape is opened. -/
theorem eq_object (h : Fits named answered level seen (.object o) r kids)
    (hnew : ∀ id, named o id → id ∉ seen) (hshallow : level < maxDepth) {shape : Shape Value}
    (hshape : ∀ answer, answered o answer → answer = .shape shape) :
    kids = shape.children ∧ ∃ id body, named o id ∧ r = .object id o.typeName body ∧
      body.outline = shape.outline := by
  cases h with
  | reference name old => exact absurd old (hnew _ name)
  | tooDeep deep _ _ => omega
  | failed _ _ _ reply failure =>
    rw [hshape _ reply] at failure
    cases failure
  | object _ name _ reply outline =>
    cases hshape _ reply
    exact ⟨rfl, _, _, name, rfl, outline⟩

end Rendered.Fits

/-! ### A pass beside a picture -/

/-- Surroundings keep step with a picture by `named` and `answer`: while they stand, to name
an object gives an identity that belongs together with its names in the picture, and the
objects answer as in the picture. What belongs together may become more. -/
structure Surroundings.Replays (env : Surroundings σ κ) (Good : List ObjectRef → σ → Prop)
    (named : ObjectRef → ι → Prop) (answer : ObjectRef → Answer) (Stands : σ → Prop)
    (Bond : σ → ι → κ → Prop) : Prop where
  faithful : ∀ {s : σ} {i j : ι} {k l : κ}, Bond s i k → Bond s j l → (i = j ↔ k = l)
  tag : ∀ {held : List ObjectRef} {o : ObjectRef} {i : ι} {k : κ} {s t : σ}, o ∈ held → Good held s →
    Stands s → named o i → env.tag o s = (k, t) → Stands t ∧ Bond t i k ∧ ∀ j l, Bond s j l → Bond t j l
  ask : ∀ {held : List ObjectRef} {o : ObjectRef} {a : Answer} {s t : σ}, o ∈ held → Good held s →
    Stands s → env.ask held o s = (a, t) → a = answer o ∧ Stands t ∧ ∀ j l, Bond s j l → Bond t j l

/-- An object is named again: its names in the picture belong together with the identity, and
have been seen exactly if that is open. -/
theorem Surroundings.Replays.meet {env : Surroundings σ κ} {Good : List ObjectRef → σ → Prop}
    {named : ObjectRef → ι → Prop} {answer : ObjectRef → Answer} {Stands : σ → Prop} {Bond : σ → ι → κ → Prop}
    (hr : env.Replays Good named answer Stands Bond) {held : List ObjectRef} {o : ObjectRef} {k : κ}
    {p : Pass σ κ} {tagged : σ} {seen : List ι} (mem : o ∈ held) (good : Good held p.state)
    (hstands : Stands p.state) (hopened : List.Forall₂ (Bond p.state) seen p.opened)
    (tag : env.tag o p.state = (k, tagged)) (hname : ∃ i, named o i) :
    Stands tagged ∧ (∀ j l, Bond p.state j l → Bond tagged j l) ∧ List.Forall₂ (Bond tagged) seen p.opened ∧
      ∀ j, named o j → Bond tagged j k ∧ (j ∈ seen ↔ k ∈ p.opened) := by
  obtain ⟨i, hi⟩ := hname
  obtain ⟨htagged, -, hbonds⟩ := hr.tag mem good hstands hi tag
  have hopened' := hopened.imp hbonds
  refine ⟨htagged, hbonds, hopened', fun j hj => ?_⟩
  obtain ⟨-, hjk, -⟩ := hr.tag mem good hstands hj tag
  exact ⟨hjk, mem_iff_of_forall₂ (fun hbond => hr.faithful hjk hbond) hopened'⟩

namespace Pass

/-- From `p` a pass has come to `q`, with results like those of the picture. -/
structure Replayed (Stands : σ → Prop) (Bond : σ → ι → κ → Prop) (p : Pass σ κ) (rs : List (Rendered ι))
    (after : List ι) (ts : List (Rendered κ)) (q : Pass σ κ) : Prop where
  stands : Stands q.state
  bonds : ∀ i k, Bond p.state i k → Bond q.state i k
  alike : List.Forall₂ (Alike (Bond q.state)) rs ts
  opened : List.Forall₂ (Bond q.state) after q.opened

variable {Stands : σ → Prop} {Bond : σ → ι → κ → Prop} {env : Surroundings σ κ}
  {Good : List ObjectRef → σ → Prop} {named : ObjectRef → ι → Prop} {answer : ObjectRef → Answer}

/-- One value, and then the rest. -/
theorem Replayed.cons {p m q : Pass σ κ} {r : Rendered ι} {t : Rendered κ} {rs : List (Rendered ι)}
    {ts : List (Rendered κ)} {after : List ι} (hbonds : ∀ i k, Bond p.state i k → Bond m.state i k)
    (halike : Alike (Bond m.state) r t) (h : Replayed Stands Bond m rs after ts q) :
    Replayed Stands Bond p (r :: rs) after (t :: ts) q :=
  ⟨h.stands, fun i k hik => h.bonds i k (hbonds i k hik), .cons (halike.mono h.bonds) h.alike, h.opened⟩

/-- **A pass over values that are depicted already keeps step with the picture.** -/
theorem Renders.replays (hk : env.Keeps Good) (hr : env.Replays Good named answer Stands Bond) {room : Nat}
    {vs : List Value} {p q : Pass σ κ} {ts : List (Rendered κ)} (h : Renders env Good room vs p ts q) :
    ∀ {level : Nat} {seen after : List ι} {rs : List (Rendered ι)}, level + room = maxDepth →
      Stands p.state → List.Forall₂ (Bond p.state) seen p.opened →
      Depicts named (fun o a => a = answer o) level seen vs rs after →
      Replayed Stands Bond p rs after ts q := by
  -- the pass goes first, and at each of its steps the picture has no choice
  induction h with
  | nil =>
    intro level seen after rs _ hstands hopened hd
    cases hd
    exact ⟨hstands, fun _ _ => id, .nil, hopened⟩
  | scalar rest ih =>
    intro level seen after rs hlevel hstands hopened hd
    cases hd with
    | cons head inside others =>
      cases head
      cases inside
      exact (ih hlevel hstands hopened others).cons (fun _ _ => id) (.scalar _)
  | reference good mem tag old rest ih =>
    intro level seen after rs hlevel hstands hopened hd
    cases hd with
    | cons head inside others =>
      obtain ⟨htagged, hbonds, hopened', hmeet⟩ := hr.meet mem good hstands hopened tag head.exists_name
      obtain ⟨rfl, j, hj, rfl⟩ := head.eq_reference fun j hj => (hmeet j hj).2.2 old
      cases inside
      exact (ih hlevel htagged hopened' others).cons hbonds (.reference (hmeet j hj).1)
  | tooDeep good mem tag new rest ih =>
    intro level seen after rs hlevel hstands hopened hd
    cases hd with
    | cons head inside others =>
      obtain ⟨htagged, hbonds, hopened', hmeet⟩ := hr.meet mem good hstands hopened tag head.exists_name
      obtain ⟨rfl, rfl⟩ := head.eq_tooDeep (fun j hj hseen => new ((hmeet j hj).2.1 hseen)) hlevel
      cases inside
      exact (ih hlevel htagged hopened' others).cons hbonds (.failed _)
  | failed good mem tag new ask failure rest ih =>
    intro level seen after rs hlevel hstands hopened hd
    cases hd with
    | cons head inside others =>
      obtain ⟨htagged, hbonds, hopened', hmeet⟩ := hr.meet mem good hstands hopened tag head.exists_name
      have hgood := hk.of_tag mem good tag
      obtain ⟨hanswer, hasked, hmore⟩ := hr.ask mem hgood htagged ask
      obtain ⟨rfl, rfl⟩ := head.eq_failed (fun j hj hseen => new ((hmeet j hj).2.1 hseen)) (by omega)
        fun a ha => (ha.trans hanswer.symm) ▸ failure
      cases inside
      exact (ih hlevel hasked (hopened'.imp hmore) others).cons (fun j l hjl => hmore j l (hbonds j l hjl))
        (.failed _)
  | object good mem tag new ask outline inside rest ihinside ihrest =>
    intro level seen after rs hlevel hstands hopened hd
    cases hd with
    | cons head inside others =>
      obtain ⟨htagged, hbonds, hopened', hmeet⟩ := hr.meet mem good hstands hopened tag head.exists_name
      have hgood := hk.of_tag mem good tag
      obtain ⟨hanswer, hasked, hmore⟩ := hr.ask mem hgood htagged ask
      obtain ⟨rfl, j, body, hj, rfl, houtline⟩ := head.eq_object
        (fun j hj hseen => new ((hmeet j hj).2.1 hseen)) (by omega) fun a ha => ha.trans hanswer.symm
      have hbond := hmore _ _ (hmeet j hj).1
      have hchildren := ihinside (by omega) hasked (.cons hbond (hopened'.imp hmore)) inside
      have hrest := ihrest hlevel hchildren.stands hchildren.opened others
      refine hrest.cons (fun j l hjl => hchildren.bonds j l (hmore j l (hbonds j l hjl))) ?_
      exact .object (hchildren.bonds _ _ hbond) _ (houtline.trans outline.symm) hchildren.alike

end Pass

/-! ### Names of one object -/

/-- One object of the graph has both names. -/
def Graph.Pairs (g : Graph) (named : ObjectRef → ι → Prop) (named' : ObjectRef → κ → Prop) (i : ι) (k : κ) :
    Prop :=
  ∃ o, g.mem o ∧ named o i ∧ named' o k

namespace World

/-- A registry has one name for an object. -/
theorem Names.unique {w : World H} {n : Nat} {o : ObjectRef} {i j : Nat} (h : w.Names n o i)
    (h' : w.Names n o j) : i = j :=
  Option.some.inj (h.symm.trans h')

/-- A registry has different names for the objects of a graph. -/
theorem Names.object_eq {w : World H} {n : Nat} {g : Graph} {o p : ObjectRef} {i : Nat} (ho : g.mem o)
    (hp : g.mem p) (h : w.Names n o i) (h' : w.Names n p i) : o = p :=
  g.apart ho hp (Registry.address_eq_of_get? h h')

theorem Names.lt_next {w : World H} {n : Nat} {o : ObjectRef} {i : Nat} (h : w.Names n o i) :
    i < (w.registry n).next := by
  obtain ⟨slot, hslot, -, rfl⟩ := Registry.get?_eq_some_iff.1 h
  exact ((w.registry n).id_bounds slot hslot).2

/-- To name an object that has a name gives this name, and changes no registry. -/
theorem tag_of_names {w : World H} {n : Nat} {o : ObjectRef} {i : Nat} (h : w.Names n o i) :
    (w.tag n o).1 = i ∧ (w.tag n o).2.registries = w.registries := by
  have hidOf : (w.registry n).idOf o = (i, w.registry n) := Registry.idOf_of_get? h
  refine ⟨congrArg Prod.fst hidOf, ?_⟩
  show w.registries.set n ((w.registry n).idOf o).2 = w.registries
  rw [hidOf]
  by_cases hn : n < w.registries.length
  · simp [Moment.registry, List.getD_eq_getElem?_getD, hn]
  · rw [List.set_eq_of_length_le (Nat.le_of_not_lt hn)]

/-- A living object keeps its name, whatever happens. -/
theorem Names.persist {w u : World H} (hw : w.Accounts) (hu : u.Accounts) (hgrows : w.Grows u) {n : Nat}
    {o : ObjectRef} {i : Nat} (ho : o ∈ w.known) (ho' : o ∈ u.known) (h : w.Names n o i) : u.Names n o i := by
  have htagged : w.Tagged n o i := hw.tagged_of_get? ho h
  exact hu.still (hgrows.journal.subset htagged) ho'

theorem pairs_faithful {w : World H} {v : World H'} {g : Graph} {n n' i j k l : Nat}
    (h : g.Pairs (w.Names n) (v.Names n') i k) (h' : g.Pairs (w.Names n) (v.Names n') j l) :
    i = j ↔ k = l := by
  obtain ⟨o, ho, hi, hk⟩ := h
  obtain ⟨p, hp, hj, hl⟩ := h'
  constructor
  · rintro rfl
    obtain rfl := hi.object_eq ho hp hj
    exact hk.unique hl
  · rintro rfl
    obtain rfl := hk.object_eq ho hp hl
    exact hi.unique hj

end World

/-! ### Passes over a graph that stands still -/

namespace Host.Still

variable {D : Host H} {g : Graph} {steady : H → Prop} {n : Nat}

/-- A pass on any registry keeps step with a picture by the names of another one. -/
theorem replays (still : D.Still g steady) (level n : Nat) (v : World H') (n' : Nat) :
    (World.surroundings (D.ask (level + 1)) n).Replays (World.Watches g steady n) (v.Names n') g.answer
      (fun _ => True) fun w => g.Pairs (v.Names n') (w.Names n) where
  faithful := World.pairs_faithful
  tag ho h _ hname htag := by
    obtain ⟨hnamed, hlater, -⟩ := (still.reports level n).tag ho h htag
    exact ⟨trivial, ⟨_, h.held _ ho, hname, hnamed⟩, fun j l ⟨p, hp, hj, hl⟩ => ⟨p, hp, hj, hlater p l hl⟩⟩
  ask ho h _ hask := by
    obtain ⟨hanswer, hlater, -⟩ := (still.reports level n).ask ho h hask
    exact ⟨hanswer, trivial, fun j l ⟨p, hp, hj, hl⟩ => ⟨p, hp, hj, hlater p l hl⟩⟩

/-- A pass on a registry that has the names of a picture gives these names, and changes no
registry. -/
theorem recalls (still : D.Still g steady) (level : Nat) {u : World H} {named : ObjectRef → Nat → Prop}
    (hnamed : ∀ {o : ObjectRef} {i : Nat}, g.mem o → named o i → u.Names n o i) :
    (World.surroundings (D.ask (level + 1)) n).Replays (World.Watches g steady n) named g.answer
      (fun w => w.registries = u.registries) fun _ => Eq where
  faithful := by
    rintro s i j k l rfl rfl
    rfl
  tag {held o i k w v} ho h hstands hname htag := by
    have hw : w.Names n o i := by
      rw [World.Names, Moment.registry, hstands]
      exact hnamed (h.held o ho) hname
    obtain ⟨hid, hregistries⟩ := World.tag_of_names hw
    obtain ⟨rfl, rfl⟩ : (w.tag n o).1 = k ∧ (w.tag n o).2 = v := Prod.mk.inj htag
    exact ⟨hregistries.trans hstands, hid.symm, fun _ _ => id⟩
  ask {held o a w v} ho h hstands hask := by
    obtain ⟨hanswer, hmoment, -⟩ := still.ask_eq level (h.held o ho) h
    rw [show D.ask (level + 1) held o w = (a, v) from hask] at hanswer hmoment
    exact ⟨hanswer, (congrArg Moment.registries hmoment).trans hstands, fun _ _ => id⟩

variable {w : World H} {held : List ObjectRef} {s : Nat} {vs : List Value}

/-- A capture over the graph goes on watching it. -/
theorem watches_capture (still : D.Still g steady) (level : Nat) (hs : w.registryOf? s = some n)
    (hw : w.Watches g steady n held) (hvs : ∀ o ∈ Value.objects vs, g.mem o) :
    (w.capture (D.ask (level + 1)) held s vs).2.Watches g steady n held := by
  have hgrasp : vs.map w.grasp = vs := World.map_grasp_of_objects fun o ho => hw.alive o (hvs o ho)
  have hend := (Pass.renders_renderAll (still.keeps level n) held vs ⟨w, []⟩ (hw.more hvs)).2
  rw [World.capture_of_registry hs, hgrasp]
  exact ⟨hend.steady, hw.held, hend.alive, hend.registry⟩

/-- A capture of values that are depicted already keeps step with the picture. -/
theorem replays_capture (still : D.Still g steady) (level : Nat) (hs : w.registryOf? s = some n)
    (hw : w.Watches g steady n held) (hvs : ∀ o ∈ Value.objects vs, g.mem o)
    {named : ObjectRef → ι → Prop} {Stands : World H → Prop} {Bond : World H → ι → Nat → Prop}
    (hr : (World.surroundings (D.ask (level + 1)) n).Replays (World.Watches g steady n) named g.answer Stands Bond)
    (hstands : Stands w) {rs : List (Rendered ι)} {after : List ι}
    (hdepicts : Depicts named (fun o a => a = g.answer o) 0 [] vs rs after) :
    ∃ v e, (w.capture (D.ask (level + 1)) held s vs).2 = v.note e ∧ Stands v ∧
      List.Forall₂ (Alike (Bond v)) rs (w.capture (D.ask (level + 1)) held s vs).1 := by
  have hgrasp : vs.map w.grasp = vs := World.map_grasp_of_objects fun o ho => hw.alive o (hvs o ho)
  have hrenders := (Pass.renders_renderAll (still.keeps level n) held vs ⟨w, []⟩ (hw.more hvs)).1
  have hreplayed := hrenders.replays (still.keeps level n) hr (Nat.zero_add _) hstands .nil hdepicts
  rw [World.capture_of_registry hs, hgrasp]
  exact ⟨_, _, rfl, hreplayed.stands, hreplayed.alike⟩

/-- Host code between two captures takes no name from an object that lives through it. -/
theorem names_after (still : D.Still g steady) (level : Nat) (haccounts : w.Accounts)
    (hs : w.registryOf? s = some n) (hw : w.Watches g steady n held)
    (hvs : ∀ o ∈ Value.objects vs, g.mem o) (between : Activity H α) {deep : Nat} {u : World H}
    (hu : (D.act (D.ask deep) held between (w.capture (D.ask (level + 1)) held s vs).2).2 = u)
    (halive : ∀ o, g.mem o → o ∈ u.known) {o : ObjectRef} {i : Nat} (ho : g.mem o)
    (hname : (w.capture (D.ask (level + 1)) held s vs).2.Names n o i) : u.Names n o i := by
  have hrule := D.accounts_moves.rule
  have hknown : ∀ o ∈ held, o ∈ w.known := fun o ho => hw.alive o (hw.held o ho)
  obtain ⟨hcaptured, -, -⟩ := hrule.capture (hrule.ask (level + 1)) (s := s) vs ⟨haccounts, hknown⟩
  obtain ⟨hdone, hgrows⟩ := hrule.activity (hrule.ask deep) between hcaptured
  rw [hu] at hdone hgrows
  exact hname.persist hcaptured.1 hdone.1 hgrows ((still.watches_capture level hs hw hvs).alive o ho) (halive o ho)

/-- A capture on any registry of any world is like the first one, by the names that the two
registries have. -/
theorem alike_capture (still : D.Still g steady) (level : Nat) (hs : w.registryOf? s = some n)
    (hw : w.Watches g steady n held) (hvs : ∀ o ∈ Value.objects vs, g.mem o) {v : World H'} {n' : Nat}
    {rs : List (Rendered Nat)} (hpicture : g.Pictures (v.Names n') vs rs) :
    let other := w.capture (D.ask (level + 1)) held s vs
    List.Forall₂ (Alike (g.Pairs (v.Names n') (other.2.Names n))) rs other.1 := by
  intro other
  obtain ⟨after, hdepicts⟩ := hpicture.depicts
  obtain ⟨u, e, hu, -, halike⟩ := still.replays_capture level hs hw hvs (still.replays level n v n') trivial
    hdepicts
  have hnames : other.2.Names n = u.Names n := by
    show (w.capture (D.ask (level + 1)) held s vs).2.Names n = u.Names n
    rw [hu]
    rfl
  rwa [hnames]

/-- A capture on a registry that has the names of a picture already is the same again, and
changes no registry. -/
theorem capture_again (still : D.Still g steady) (level : Nat) (hs : w.registryOf? s = some n)
    (hw : w.Watches g steady n held) (hvs : ∀ o ∈ Value.objects vs, g.mem o) {named : ObjectRef → Nat → Prop}
    (hnamed : ∀ {o : ObjectRef} {i : Nat}, g.mem o → named o i → w.Names n o i) {rs : List (Rendered Nat)}
    (hpicture : g.Pictures named vs rs) :
    let again := w.capture (D.ask (level + 1)) held s vs
    again.1 = rs ∧ again.2.registries = w.registries := by
  intro again
  obtain ⟨after, hdepicts⟩ := hpicture.depicts
  obtain ⟨v, e, hv, hstands, halike⟩ := still.replays_capture level hs hw hvs (still.recalls level hnamed) rfl
    hdepicts
  have hequal : List.Forall₂ (fun r t => r = t) rs again.1 := halike.imp fun _ _ h => h.eq
  rw [List.forall₂_eq_eq_eq] at hequal
  refine ⟨hequal.symm, ?_⟩
  show (w.capture (D.ask (level + 1)) held s vs).2.registries = w.registries
  rw [hv]
  exact hstands

end Host.Still

/-- Where outputs are alike by the names of two registries, an injective renaming leads from
the first to the second. -/
theorem Graph.Pairs.exists_renaming {g : Graph} {w : World H} {v : World H'} {n n' : Nat}
    {rs ts : List (Rendered Nat)} (h : List.Forall₂ (Alike (g.Pairs (w.Names n) (v.Names n'))) rs ts) :
    ∃ ρ : Nat → Nat, Function.Injective ρ ∧ (∀ i k, g.Pairs (w.Names n) (v.Names n') i k → k = ρ i) ∧
      ts = rs.map (Rendered.map ρ) := by
  have hbound : ∀ {k i : Nat}, g.Pairs (w.Names n) (v.Names n') i k → k < (v.registry n').next :=
    fun ⟨_, _, _, hk⟩ => hk.lt_next
  obtain ⟨ρ, hinjective, hρ⟩ := exists_renaming_of_faithful
    (B := fun k i => g.Pairs (w.Names n) (v.Names n') i k)
    (fun hik hjl => (World.pairs_faithful hik hjl).symm) hbound
  refine ⟨ρ, hinjective, fun i k => hρ k i, ?_⟩
  have hrenamed : List.Forall₂ (fun r t => t = Rendered.map ρ r) rs ts := h.imp fun _ _ h => h.symm.eq_map hρ
  rw [← List.forall₂_eq_eq_eq, List.forall₂_map_right_iff]
  exact hrenamed.flip

/-- **A pass depends on a registry only through the names that it gives.** While a graph
stands still, two captures of the same values, on any two registries of any two worlds,
are alike: each identity in the first goes with the identity that the second registry has
for the same object, and an injective renaming that does so leads from the first to the
second. Between two captures on one registry host code may do anything that leaves the
graph alive and the host steady; the second one gives the same output as the first, and
adds nothing to any registry. -/
theorem Host.passes_by_name (D : Host H) (D' : Host H') (g : Graph) (steady : H → Prop) (steady' : H' → Prop)
    (still : D.Still g steady) (still' : D'.Still g steady') (vs : List Value)
    (hvs : ∀ o ∈ Value.objects vs, g.mem o) (level s n : Nat) (w : World H) (held : List ObjectRef)
    (hs : w.registryOf? s = some n) (hw : w.Watches g steady n held) :
    let first := w.capture (D.ask (level + 1)) held s vs
    (∀ (level' s' n' : Nat) (w' : World H') (held' : List ObjectRef), w'.registryOf? s' = some n' →
      w'.Watches g steady' n' held' →
      let other := w'.capture (D'.ask (level' + 1)) held' s' vs
      let same := g.Pairs (first.2.Names n) (other.2.Names n')
      List.Forall₂ (Alike same) first.1 other.1 ∧ ∃ ρ : Nat → Nat, Function.Injective ρ ∧
        (∀ i k, same i k → k = ρ i) ∧ other.1 = first.1.map (Rendered.map ρ)) ∧
      (w.Accounts → ∀ (deep level' : Nat) (between : Activity H Unit),
        let u := (D.act (D.ask deep) held between first.2).2
        u.Watches g steady n held →
        let again := u.capture (D.ask (level' + 1)) held s vs
        again.1 = first.1 ∧ again.2.registries = u.registries) := by
  intro first
  have hpicture : g.Pictures (first.2.Names n) vs first.1 := still.pictures_capture level hs hw hvs
  constructor
  · intro level' s' n' w' held' hs' hw' other same
    have halike : List.Forall₂ (Alike same) first.1 other.1 := still'.alike_capture level' hs' hw' hvs hpicture
    exact ⟨halike, Graph.Pairs.exists_renaming halike⟩
  · intro haccounts deep level' between u hu again
    have hgrows := (D.grows_capture (level + 1) held s vs w).trans (D.grows_act deep held between first.2)
    have hsession : u.registryOf? s = some n := hgrows.registryOf hs
    exact still.capture_again level' hsession hu hvs
      (still.names_after level haccounts hs hw hvs between rfl hu.alive) hpicture

/-- The second cell is captured alone, and the registry is purged. -/
def cellsAside : Activity Unit Unit :=
  .call (.render 0 [.object (cell 1)]) fun _ => .call (.purge 0) fun _ => .done ()

/-- The cells are captured on a fresh registry and on one that named the second cell first, and
on the fresh one they are captured again later. -/
theorem cells_by_name :
    let held := [cell 0, cell 1]
    let first := cellsWorld.capture (cellsHost.ask 1) held 0 [.object (cell 0)]
    let second := (cellsWorld.tag 0 (cell 1)).2.capture (cellsHost.ask 1) [] 0 [.object (cell 0)]
    let u := (cellsHost.act (cellsHost.ask 1) held cellsAside first.2).2
    let again := u.capture (cellsHost.ask 1) held 0 [.object (cell 0)]
    (∃ ρ : Nat → Nat, Function.Injective ρ ∧ second.1 = first.1.map (Rendered.map ρ)) ∧
      first.1.map identity? = [some 1] ∧ second.1.map identity? = [some 2] ∧
      again.1 = first.1 ∧ again.2.registries = u.registries := by
  have still : cellsHost.Still cells fun _ => True := ⟨fun _ _ _ => .done⟩
  have hmem : ∀ o ∈ Value.objects [.object (cell 0)], cells.mem o := fun o ho => .inl (by simpa using ho)
  have hheld : ∀ o ∈ [cell 0, cell 1], cells.mem o := fun o ho => by simpa [cells] using ho
  obtain ⟨hsecond, hagain⟩ := Host.passes_by_name cellsHost cellsHost cells (fun _ => True) (fun _ => True)
    still still [.object (cell 0)] hmem 0 0 0 cellsWorld [cell 0, cell 1] rfl
    (cells_watched hheld (by decide) (by decide) (by decide))
  obtain ⟨-, ρ, hinjective, -, hρ⟩ := hsecond 0 0 0 (cellsWorld.tag 0 (cell 1)).2 [] rfl
    (cells_watched nofun (by decide) (by decide) (by decide))
  obtain ⟨hsame, hregistries⟩ := hagain accounts_cellsWorld 1 0 cellsAside
    (cells_watched hheld (by decide +kernel) (by decide +kernel) (by decide +kernel))
  exact ⟨⟨ρ, hinjective, hρ⟩, by decide +kernel, by decide +kernel, hsame, hregistries⟩

end CallChain
