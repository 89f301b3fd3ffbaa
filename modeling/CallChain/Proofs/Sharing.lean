/-
# Sessions that share a registry

Two sessions on one registry take turns, and the host works in between. What one of them
records does not depend on the other one: it is what it would record alone, on a registry
of its own, but for the identities. The other session uses up numbers and its exits release
slots, so an object may have another identity; but no object has two, and no two have one.
So there is one renaming, and it fits all that the session shows in the run.

Alone, the session meets the same host. What the other session does to it is done in some
other way: objects are asked, the dead are found, host code runs, until the host is in the
same state and the same objects are alive (`PlainHost.Drifts`). Objects may lie elsewhere.

Key definitions: `Turn`, `PlainHost.shared`, `PlainHost.Drifts`, `PlainHost.Alone`,
`Sight.Renamed`, `World.Trails`.
Key theorems: `World.lockstep_nameless`, `World.Trails.perform`, `PlainHost.Alone.beside`,
`PlainHost.exists_alone`, `PlainHost.undisturbed`.
-/
import CallChain.Proofs.SideBySide

namespace CallChain

variable {H : Type}

/-! ### Sessions that take turns -/

/-- Host code works, or one of two sessions performs an operation. -/
inductive Turn (H : Type) where
  | code (work : Routine H Unit)
  | mine (op : Operation)
  | other (op : Operation)

namespace PlainHost

variable (P : PlainHost H)

/-- Two new sessions on one registry take turns, the latest turn first. -/
def shared (allot : Nat → Nat) (level : Nat) (h : H) : List (Turn H) → World (Enrolled H)
  | [] => ((World.start ⟨h, []⟩ none).openSession (some 0)).2
  | .code work :: turns => P.works allot level work (shared allot level h turns)
  | .mine op :: turns => (op.perform (P.asHost allot) level 0 (shared allot level h turns)).2
  | .other op :: turns => (op.perform (P.asHost allot) level 1 (shared allot level h turns)).2

/-- From a world something has happened on the host's side: host code worked, objects whose
handles were held were asked, the dead were found. -/
inductive Drifts (allot : Nat → Nat) (level : Nat) (v : World (Enrolled H)) : World (Enrolled H) → Prop
  | refl : Drifts allot level v v
  | code {u : World (Enrolled H)} (work : Routine H Unit) (drifts : Drifts allot level v u) :
      Drifts allot level v (P.works allot level work u)
  | ask {u : World (Enrolled H)} {held : List ObjectRef} (o : ObjectRef) (alive : ∀ p ∈ held, p ∈ u.known)
      (drifts : Drifts allot level v u) : Drifts allot level v ((P.asHost allot).ask level held o u).2
  | sweep {u : World (Enrolled H)} (held : List ObjectRef) (drifts : Drifts allot level v u) :
      Drifts allot level v (u.sweep (P.asHost allot).keeps held)

end PlainHost

/-- What is seen of a session in two runs. -/
inductive Sight where
  /-- how the session stands -/
  | stood (shared alone : Session)
  | replied (op : Operation) (shared alone : op.Reply)

/-- The first session takes its turns alone, on a registry of its own, with the same on the
host's side. What is seen of it is collected, beside what is seen of it where the registry is
shared. -/
inductive PlainHost.Alone (P : PlainHost H) (allot allot' : Nat → Nat) (level : Nat) (h : H) :
    List (Turn H) → World (Enrolled H) → List Sight → Prop
  | start : Alone P allot allot' level h [] (World.start ⟨h, []⟩ none) []
  | code {turns : List (Turn H)} {v : World (Enrolled H)} {seen : List Sight} (work : Routine H Unit)
      (alone : Alone P allot allot' level h turns v seen) :
      Alone P allot allot' level h (.code work :: turns) (P.works allot' level work v)
        (.stood ((P.shared allot level h (.code work :: turns)).session 0)
          ((P.works allot' level work v).session 0) :: seen)
  | mine {turns : List (Turn H)} {v : World (Enrolled H)} {seen : List Sight} (op : Operation)
      (alone : Alone P allot allot' level h turns v seen) :
      Alone P allot allot' level h (.mine op :: turns) (op.perform (P.asHost allot') level 0 v).2
        (.stood ((P.shared allot level h (.mine op :: turns)).session 0)
            ((op.perform (P.asHost allot') level 0 v).2.session 0) ::
          .replied op (op.perform (P.asHost allot) level 0 (P.shared allot level h turns)).1
            (op.perform (P.asHost allot') level 0 v).1 :: seen)
  | other {turns : List (Turn H)} {v v' : World (Enrolled H)} {seen : List Sight} (op : Operation)
      (alone : Alone P allot allot' level h turns v seen) (drifts : P.Drifts allot' level v v')
      (same : (P.shared allot level h (.other op :: turns)).SameSide v') :
      Alone P allot allot' level h (.other op :: turns) v'
        (.stood ((P.shared allot level h (.other op :: turns)).session 0) (v'.session 0) :: seen)

/-- What is seen in the two runs is the same but for the identities. -/
def Sight.Renamed (ρ : Nat → Nat) : Sight → Prop
  | .stood x y => x = y.rename ρ
  | .replied op reply reply' => op.Renamed ρ reply reply'

/-! ### What the other session does -/

namespace World

/-- The surroundings of a pass that names nothing: who an object is shows in its handle. -/
def nameless (ask : Asking H) : Surroundings (World H) Nat where
  tag o w := (o.serial, w)
  ask := ask

/-- A pass of the other session keeps step with one that names nothing. -/
theorem lockstep_nameless (P : PlainHost H) (allot allot' : Nat → Nat) (level : Nat)
    {w v : World (Enrolled H)} {s : Nat} (hw : w.registryOf? s = some 0) :
    (surroundings ((P.asHost allot).ask level) 0).Lockstep (nameless ((P.asHost allot').ask level))
      (fun held held' w' v' => Twins held held' w' v' ∧ w'.sessions = w.sessions ∧ P.Drifts allot' level v v')
      (fun w' _ i k => ∃ o : ObjectRef, w'.Tagged 0 o i ∧ o.serial = k) where
  alike h := h.1.alike
  fewer hsub hsub' hlike h := ⟨h.1.fewer hsub hsub' hlike, h.2⟩
  faithful {held held' w' v' i j k l} h := by
    rintro ⟨o, ho, rfl⟩ ⟨p, hp, rfl⟩
    rw [h.1.left.accounts.faithful ho hp]
    exact ⟨congrArg ObjectRef.serial, h.1.left.accounts.one (.inr ⟨_, _, ho⟩) (.inr ⟨_, _, hp⟩)⟩
  tag {held held' o o' w' v'} ho ho' hlike h := by
    obtain ⟨htwins, hsessions, hdrifts⟩ := h
    have hn := htwins.left.accounts.lt_of_registryOf? ((registryOf?_of_sessions hsessions s).trans hw)
    have htagged := htwins.left.accounts.tag hn (htwins.heldLeft o ho)
    refine ⟨⟨htwins.congr htagged rfl rfl rfl, hsessions, hdrifts⟩, ?_, ?_⟩
    · exact ⟨o, tagged_tag.2 (.inl ⟨rfl, rfl, rfl⟩), ObjectRef.serial_eq_of_unplaced hlike⟩
    · exact fun i k => Exists.imp fun p => And.imp_left fun hp => tagged_tag.2 (.inr hp)
  ask {held held' o o' w' v'} _ _ hlike h := by
    obtain ⟨htwins, hsessions, hdrifts⟩ := h
    obtain ⟨hanswer, hasked, -, hoff, -⟩ := htwins.ask P allot allot' level hlike
    exact ⟨hanswer, ⟨hasked, hoff.sessions.trans hsessions, hdrifts.ask o' htwins.heldRight⟩,
      fun i k => Exists.imp fun p => And.imp_left fun hp => (hoff.tagged 0 p i).2 hp⟩
  shape {held held' o o' w' v' shape shape'} _ _ hlike h hshape hshape' := by
    obtain ⟨htwins, hsessions, hdrifts⟩ := h
    obtain ⟨-, -, hshown, hoff, -⟩ := htwins.ask P allot allot' level hlike
    exact ⟨hshown shape shape' hshape hshape', hoff.sessions.trans hsessions, hdrifts.ask o' htwins.heldRight⟩

/-- The other session is at work in `w`: the first one still stands as `x`, and the host of
`v` can come to the same state without it. -/
structure Trails (P : PlainHost H) (allot' : Nat → Nat) (level : Nat) (v : World (Enrolled H)) (x : Session)
    (w : World (Enrolled H)) : Prop where
  session : w.session 0 = x
  other : w.registryOf? 1 = some 0
  twin : ∃ v', P.Drifts allot' level v v' ∧ Twins [] [] w v'

namespace Trails

variable {P : PlainHost H} {allot allot' : Nat → Nat} {level : Nat} {v w : World (Enrolled H)} {x : Session}
  {β : Type}

theorem note (h : Trails P allot' level v x w) {e : Event} (he : ∀ n o id, e ≠ .tagged n o id) :
    Trails P allot' level v x (w.note e) := by
  obtain ⟨v', hdrifts, htwins⟩ := h.twin
  exact ⟨h.session, h.other, v', hdrifts, htwins.congr (htwins.left.accounts.note he) rfl rfl rfl⟩

theorem updateLive (h : Trails P allot' level v x w) {step : Session → Except Fault (β × Session)}
    (hsettled : Session.Settled step) : Trails P allot' level v x (w.updateLive 1 step).2 := by
  obtain ⟨v', hdrifts, htwins⟩ := h.twin
  have hregistry := Session.registry_attempt hsettled (w.session 1)
  rw [updateLive_eq]
  refine ⟨?_, ?_, v', hdrifts, htwins.congr (htwins.left.accounts.setSession hregistry) rfl rfl rfl⟩
  · rw [session_setSession_attempt, if_neg (by decide), h.session]
  · rw [registryOf?_setSession hregistry, h.other]

theorem purge (h : Trails P allot' level v x w) (allot : Nat → Nat) (n : Nat) :
    Trails P allot' level v x (w.purge (P.asHost allot).keeps [] n).2 := by
  obtain ⟨v', hdrifts, htwins⟩ := h.twin
  have hpurged := htwins.left.accounts.purge (P.asHost allot).keeps [] n
  exact ⟨h.session, h.other, _, hdrifts.sweep [], (htwins.sweep P allot allot').congr hpurged rfl rfl rfl⟩

theorem capture (h : Trails P allot' level v x w) (allot : Nat → Nat) (vs : List Value) :
    Trails P allot' level v x
      (w.capture ((P.asHost allot).ask level) [] 1 (vs.map (Value.placed w.host.roll))).2 := by
  obtain ⟨v', hdrifts, htwins⟩ := h.twin
  have hl := lockstep_nameless (w := w) (v := v) P allot allot' level h.other
  obtain ⟨⟨hpassed, hsessions, hdrifts'⟩, -⟩ :=
    hl.run (htwins.same.grasp_all htwins.left htwins.right vs) ⟨htwins.values vs, rfl, hdrifts⟩
  rw [capture_of_registry h.other]
  refine note ⟨?_, ?_, _, hdrifts', hpassed.fewer nofun nofun rfl⟩ nofun
  · simp only [Moment.session, hsessions]
    exact h.session
  · rw [registryOf?_of_sessions hsessions, h.other]

theorem updateWith (h : Trails P allot' level v x w) (allot : Nat → Nat) (m : Method) (vs : List Value)
    {step : Frame → Session → Except Fault (β × Session)} (hsettled : ∀ f, Session.Settled (step f)) :
    Trails P allot' level v x
      (w.updateWith ((P.asHost allot).ask level) [] 1 m (vs.map (Value.placed w.host.roll)) step).2 := by
  unfold World.updateWith
  by_cases hend : (w.session 1).complete = true
  · rw [if_pos hend]
    exact h
  · rw [if_neg hend]
    refine updateLive (note (h.capture allot vs) ?_) (hsettled _)
    nofun

/-- The return of a request is noted. -/
theorem conclude {r : Request} {done : r.Reply × World (Enrolled H)} (h : Trails P allot' level v x done.2) :
    Trails P allot' level v x (World.conclude r done) :=
  h.note nofun

/-- Whatever operation the other session performs, the first one stands as before. -/
theorem perform (h : Trails P allot' level v x w) (allot : Nat → Nat) (op : Operation) :
    Trails P allot' level v x (op.perform (P.asHost allot) level 1 w).2 := by
  cases op with
  | enterEntry m vs => exact (h.updateWith allot m vs Session.settled_enterEntry).conclude
  | exitEntry =>
    have hleft := h.updateLive Session.settled_exitEntry
    refine conclude ?_
    simp only [World.perform]
    split
    · exact hleft
    · exact hleft.purge allot _
  | enterCandidate m vs =>
    refine conclude ?_
    simp only [World.perform]
    split
    · exact h
    · split
      · exact h
      · exact h.updateWith allot m vs Session.settled_enterCandidate
  | exitCandidate => exact (h.updateLive Session.settled_exitCandidate).conclude
  | matchChain m vs => exact (h.updateWith allot m vs Session.settled_matchChain).conclude
  | discover offered => exact (h.updateLive (Session.settled_discover offered)).conclude

end Trails

end World

/-! ### The whole run -/

/-- A program from outside keeps the accounts, and the world only grows. -/
theorem Host.accounts_run {α : Type} (D : Host H) (level : Nat) (a : Activity H α) {w : World H} (hw : w.Accounts) :
    (D.run level a w).2.Accounts ∧ w.Grows (D.run level a w).2 := by
  have hstart : w.Accounts ∧ ∀ o ∈ ([] : List ObjectRef), o ∈ w.known := ⟨hw, nofun⟩
  obtain ⟨hend, hgrows⟩ := D.accounts_moves.rule.activity (D.accounts_moves.rule.ask level) a hstart
  exact ⟨hend.1, hgrows⟩

theorem Operation.accounts_perform (op : Operation) (D : Host (Enrolled H)) (level s : Nat) {w : World (Enrolled H)}
    (hw : w.Accounts) : (op.perform D level s w).2.Accounts ∧ w.Grows (op.perform D level s w).2 := by
  cases op <;> exact D.accounts_run level _ hw

namespace PlainHost

variable {P : PlainHost H} {allot allot' : Nat → Nat} {level : Nat} {h : H} {v : World (Enrolled H)}
  {turns : List (Turn H)} {seen : List Sight}

theorem accounts_works (P : PlainHost H) (allot : Nat → Nat) (level : Nat) (work : Routine H Unit)
    {w : World (Enrolled H)} (hw : w.Accounts) :
    (P.works allot level work w).Accounts ∧ w.Grows (P.works allot level work w) :=
  (P.asHost allot).accounts_run level _ hw

theorem Drifts.accounts {u : World (Enrolled H)} (drifts : P.Drifts allot level v u) (hv : v.Accounts) :
    u.Accounts ∧ v.Grows u := by
  induction drifts with
  | refl => exact ⟨hv, .refl v⟩
  | code work _ ih =>
    obtain ⟨hend, hgrows⟩ := accounts_works P allot level work ih.1
    exact ⟨hend, ih.2.trans hgrows⟩
  | ask o alive _ ih =>
    obtain ⟨hend, hgrows, -⟩ := (P.asHost allot).accounts_moves.rule.ask level (o := o) ⟨ih.1, alive⟩
    exact ⟨hend.1, ih.2.trans hgrows⟩
  | sweep held _ ih => exact ⟨ih.1.sweep _ held, ih.2.trans (.sweep _ _ held)⟩

/-- What happens on the host's side leaves the sessions alone. -/
theorem Drifts.inOrder {u : World (Enrolled H)} (drifts : P.Drifts allot level v u) (hv : v.InOrder) :
    u.InOrder ∧ u.sessions = v.sessions := by
  induction drifts with
  | refl => exact ⟨hv, rfl⟩
  | @code u work _ ih =>
    have hself : World.Twins [] [] u u := ih.1.twins nofun
    obtain ⟨htwins, hoff, -⟩ := hself.works P allot allot level work
    exact ⟨htwins.left, hoff.sessions.trans ih.2⟩
  | ask o alive _ ih =>
    obtain ⟨-, htwins, -, hoff, -⟩ := (ih.1.twins alive).ask P allot allot level (o := o) rfl
    exact ⟨htwins.left, hoff.sessions.trans ih.2⟩
  | sweep held _ ih => exact ⟨ih.1.sweep _ held, ih.2⟩

/-- The accounts of the world of both sessions are in order. -/
theorem accounts_shared (P : PlainHost H) (allot : Nat → Nat) (level : Nat) (h : H) :
    ∀ turns : List (Turn H), (P.shared allot level h turns).Accounts
  | [] => (World.Accounts.start _ none).openSession (some 0)
  | .code work :: turns => (accounts_works P allot level work (accounts_shared P allot level h turns)).1
  | .mine op :: turns => (op.accounts_perform _ level 0 (accounts_shared P allot level h turns)).1
  | .other op :: turns => (op.accounts_perform _ level 1 (accounts_shared P allot level h turns)).1

end PlainHost

namespace World.Beside

variable {P : PlainHost H} {allot allot' : Nat → Nat} {level : Nat} {ρ : Nat → Nat} {w v : World (Enrolled H)}

/-- The turn of the other session begins. -/
theorem trails (h : Beside ρ w v) : Trails P allot' level v (w.session 0) w :=
  ⟨rfl, h.other, v, .refl, h.twins⟩

/-- The other session has performed an operation, and in the world of the first one alone the
host has come to the same state. -/
theorem other_turn (h : Beside ρ w v) (op : Operation) {v' : World (Enrolled H)}
    (drifts : P.Drifts allot' level v v') (same : (op.perform (P.asHost allot) level 1 w).2.SameSide v') :
    Beside ρ (op.perform (P.asHost allot) level 1 w).2 v' := by
  have htrails : Trails P allot' level v (w.session 0) _ := h.trails.perform allot op
  obtain ⟨_, -, htwins⟩ := htrails.twin
  obtain ⟨hright, hsessions⟩ := drifts.inOrder h.twins.right
  have hgrows := (op.accounts_perform (P.asHost allot) level 1 h.twins.left.accounts).2
  refine ⟨⟨same, htwins.left, hright, rfl, nofun, nofun⟩, ?_, ?_, hgrows.registryOf h.mine, htrails.other, ?_⟩
  · have hsame : v'.session 0 = v.session 0 := by simp only [Moment.session, hsessions]
    rw [htrails.session, hsame, h.session]
  · simp only [Moment.session, hsessions]
    exact h.outlet
  · rw [registryOf?_of_sessions hsessions, h.alone]

end World.Beside

namespace PlainHost

variable {P : PlainHost H} {allot allot' : Nat → Nat} {level : Nat} {h : H} {v : World (Enrolled H)}
  {turns : List (Turn H)} {seen : List Sight}

namespace Alone

/-- The accounts of the world of the session alone are in order. -/
theorem accounts (alone : P.Alone allot allot' level h turns v seen) : v.Accounts := by
  induction alone with
  | start => exact .start _ none
  | code work _ ih => exact (accounts_works P allot' level work ih).1
  | mine op _ ih => exact (op.accounts_perform _ level 0 ih).1
  | other op _ drifts _ ih => exact (drifts.accounts ih).1

theorem beside_start (ρ : Nat → Nat) (P : PlainHost H) (allot : Nat → Nat) (level : Nat) (h : H) :
    World.Beside ρ (P.shared allot level h []) (World.start ⟨h, []⟩ none) where
  twins := by
    have hleft : (P.shared allot level h []).InOrder := ⟨accounts_shared P allot level h [], nofun⟩
    have hright : (World.start (Enrolled.mk h []) none).InOrder := ⟨.start _ none, nofun⟩
    exact ⟨⟨rfl, rfl, rfl, rfl⟩, hleft, hright, rfl, nofun, nofun⟩
  session := rfl
  outlet := rfl
  mine := rfl
  other := rfl
  alone := rfl

/-- **The two runs stay side by side.** A renaming that fits all identities given by the end
leads from what is seen of the session alone to what is seen of it beside the other one. -/
theorem beside (alone : P.Alone allot allot' level h turns v seen) {ρ : Nat → Nat}
    (hρ : ∀ i k, World.Bond (P.shared allot level h turns) v i k → i = ρ k) :
    World.Beside ρ (P.shared allot level h turns) v ∧ ∀ sight ∈ seen, sight.Renamed ρ := by
  induction alone with
  | start => exact ⟨beside_start ρ P allot level h, nofun⟩
  | @code turns v seen work alone ih =>
    have hgrows := (accounts_works P allot level work (accounts_shared P allot level h turns)).2
    have hgrows' := (accounts_works P allot' level work alone.accounts).2
    obtain ⟨hbeside, hseen⟩ := ih fun i k hik => hρ i k (hik.mono hgrows hgrows')
    have hend := hbeside.works P allot allot' level work
    exact ⟨hend, List.forall_mem_cons.2 ⟨hend.session, hseen⟩⟩
  | @mine turns v seen op alone ih =>
    have hgrows := (op.accounts_perform (P.asHost allot) level 0 (accounts_shared P allot level h turns)).2
    have hgrows' := (op.accounts_perform (P.asHost allot') level 0 alone.accounts).2
    obtain ⟨hbeside, hseen⟩ := ih fun i k hik => hρ i k (hik.mono hgrows hgrows')
    obtain ⟨hreply, hend⟩ := hbeside.perform P allot allot' level op hρ
    exact ⟨hend, List.forall_mem_cons.2 ⟨hend.session, List.forall_mem_cons.2 ⟨hreply, hseen⟩⟩⟩
  | @other turns v v' seen op alone drifts same ih =>
    have hgrows := (op.accounts_perform (P.asHost allot) level 1 (accounts_shared P allot level h turns)).2
    have hgrows' := (drifts.accounts alone.accounts).2
    obtain ⟨hbeside, hseen⟩ := ih fun i k hik => hρ i k (hik.mono hgrows hgrows')
    have hend := hbeside.other_turn op drifts same
    exact ⟨hend, List.forall_mem_cons.2 ⟨hend.session, hseen⟩⟩

end Alone

/-- The session can take its turns alone, with the same on the host's side. -/
theorem exists_alone (P : PlainHost H) (allot allot' : Nat → Nat) (level : Nat) (h : H) :
    ∀ turns : List (Turn H), ∃ v seen, P.Alone allot allot' level h turns v seen
  | [] => ⟨_, _, .start⟩
  | .code work :: turns => by
    obtain ⟨v, seen, alone⟩ := exists_alone P allot allot' level h turns
    exact ⟨_, _, .code work alone⟩
  | .mine op :: turns => by
    obtain ⟨v, seen, alone⟩ := exists_alone P allot allot' level h turns
    exact ⟨_, _, .mine op alone⟩
  | .other op :: turns => by
    obtain ⟨v, seen, alone⟩ := exists_alone P allot allot' level h turns
    obtain ⟨ρ, -, hρ⟩ := World.exists_renaming (accounts_shared P allot level h turns) alone.accounts
    obtain ⟨v', hdrifts, htwins⟩ := ((alone.beside hρ).1.trails.perform allot op).twin
    exact ⟨v', _, .other op alone hdrifts htwins.same⟩

/-- **Sessions that share a registry do not disturb each other.** Whatever operations two
sessions on one registry perform in turns, and whatever host code does in between: the first
session can perform its operations alone, on a registry of its own, with the same on the
host's side. And whenever it does, one injective renaming leads from every result of the
session alone, and from the way it stands after each turn, to those beside the other
session. -/
theorem undisturbed (P : PlainHost H) (allot allot' : Nat → Nat) (level : Nat) (h : H) (turns : List (Turn H)) :
    (∃ v seen, P.Alone allot allot' level h turns v seen) ∧
      ∀ v seen, P.Alone allot allot' level h turns v seen →
        ∃ ρ : Nat → Nat, Function.Injective ρ ∧ ∀ sight ∈ seen, sight.Renamed ρ := by
  refine ⟨exists_alone P allot allot' level h turns, fun v seen alone => ?_⟩
  obtain ⟨ρ, hinjective, hρ⟩ := World.exists_renaming (accounts_shared P allot level h turns) alone.accounts
  exact ⟨ρ, hinjective, (alone.beside hρ).2⟩

end PlainHost

/-! A guest book: an object that is asked signs, and shows who signed before it. So what is
seen of it depends on what was asked before, by whomever. -/

/-- The guests that are kept alive, and those that signed, latest first. -/
structure GuestBook where
  guests : List ObjectRef
  signed : List ObjectRef
deriving DecidableEq

/-- The host that keeps a guest book. -/
def guestHost : PlainHost GuestBook where
  describe _ o := .host (fun book => { book with signed := o :: book.signed }) fun book =>
    .done (.shape (.sequence (book.signed.tail.map Value.object)))
  keeps book _ := book.guests

/-- A guest comes. -/
def guestComes (next : Routine GuestBook Unit) : Routine GuestBook Unit :=
  .create "Guest" (fun o book => { book with guests := o :: book.guests }) fun _ => next

/-- The guest of that birth. -/
def guest (serial : Nat) : Value :=
  .object ⟨serial, 0, "Guest"⟩

/-- Two guests come. The other session begins a chain with the first one and leaves it again,
and in between and afterwards the first session records the second guest and then both. -/
def guestTurns : List (Turn GuestBook) :=
  [.mine (.matchChain ⟨"Hall.end(Guest, Guest)"⟩ [guest 1, guest 0]), .other .exitEntry,
    .mine (.enterEntry ⟨"Hall.begin(Guest)"⟩ [guest 1]), .other (.enterEntry ⟨"Door.begin(Guest)"⟩ [guest 0]),
    .code (guestComes (guestComes (.done ())))]

/-- The identities of the recorded values. -/
def Session.identities (s : Session) : List (List (Option Nat)) :=
  s.chain.frames.map fun f => f.values.map Rendered.identity?

/-- The second guest is number two beside the other session, and number one alone. -/
theorem guests_undisturbed :
    ∃ v seen, guestHost.Alone id id 1 ⟨[], []⟩ guestTurns v seen ∧
      ((guestHost.shared id 1 ⟨[], []⟩ guestTurns).session 0).identities = [[some 2]] ∧
      (v.session 0).identities = [[some 1]] ∧
      ∃ ρ : Nat → Nat, Function.Injective ρ ∧ ∀ sight ∈ seen, sight.Renamed ρ := by
  have hstart : guestHost.Alone id id 1 ⟨[], []⟩ [] (World.start ⟨⟨[], []⟩, []⟩ none) [] := .start
  have hcome := hstart.code (guestComes (guestComes (.done ())))
  -- alone, the first guest is asked all the same
  have hdoor := hcome.other (.enterEntry ⟨"Door.begin(Guest)"⟩ [guest 0])
    (.ask ⟨0, 0, "Guest"⟩ (List.forall_mem_nil _) .refl)
    ⟨by decide +kernel, by decide +kernel, by decide +kernel, by decide +kernel⟩
  have hhall := hdoor.mine (.enterEntry ⟨"Hall.begin(Guest)"⟩ [guest 1])
  have hleft := hhall.other .exitEntry (.sweep [] .refl)
    ⟨by decide +kernel, by decide +kernel, by decide +kernel, by decide +kernel⟩
  have hend := hleft.mine (.matchChain ⟨"Hall.end(Guest, Guest)"⟩ [guest 1, guest 0])
  refine ⟨_, _, hend, by decide +kernel, by decide +kernel, ?_⟩
  exact (guestHost.undisturbed id id 1 ⟨[], []⟩ guestTurns).2 _ _ hend

end CallChain
